import Mathlib.Data.List.Forall2
import WorkflowLint.Json.Decode
import WorkflowLint.Proofs.Success

/-!
# `WorkflowLint.Proofs.Json.Record`: what a decoded record takes from a text

A record is decoded by changing it member by member, and a member may change anything in it. To say
what becomes of one part of the record, `Writes` names the field that sets the part and says that no
other field touches it. Then the part of a decoded record is settled by what the text gives under
the field's name, wherever in the text that stands and whatever stands around it:

* `fieldsByName_cons_iff` is what one member of an object does. A name that has been given may not be
  given again, so once the part is set it stays (`fieldsByName_part_of_given`).
* `fieldsByPosition_part` is the same for lists, where the position stands for the name.
* `record_part` joins both: the part is what its decoder makes of the given value, or what it was
  at the start if no value is given.

The other theorems take successes of the plain decoders apart.
-/

set_option autoImplicit false

namespace WorkflowLint.Json

/-- Whether a key can be read and is a name. -/
def isKey (name : String) : Except Fault String → Bool
  | .ok key => key == name
  | .error _ => false

/-- A key is a name if it could be read and is this name. A key with a fault in it is no name at
all. -/
theorem isKey_eq_true_iff {name : String} {key : Except Fault String} :
    isKey name key = true ↔ key = .ok name := by
  cases key with
  | ok key => simp [isKey]
  | error f => simp [isKey]

/-- The value that a text gives to a field of a record: from an object by the field's name, from a
list by the place of the name among the names of all fields. -/
def Reading.given? (names : List String) (name : String) : Reading → Option Reading
  | .object members _ => (members.find? fun m => isKey name m.1).map (·.2)
  | .array items _ => items[names.idxOf name]?
  | _ => none

namespace Decode

/-! ### Successes of plain decoders -/

/-- A fault of the reader becomes an error of the decoder, and successes are the same. -/
theorem lift_eq_ok_iff {α : Type} {x : Except Fault α} {a : α} : lift x = .ok a ↔ x = .ok a := by
  cases x with
  | ok b => simp [lift]
  | error f => simp [lift]

/-- What has been found so far is the result if nothing was wrong at the end. -/
theorem lift_finish_eq_ok_iff {α : Type} {fault? : Option Trouble} {a b : α} :
    lift (finish fault? a) = .ok b ↔ fault? = none ∧ a = b := by
  rw [lift_eq_ok_iff]
  cases fault? with
  | none => simp [finish]
  | some t => simp [finish]

/-- A value of another type than the wanted one is never a success. If it is a number or a text
that could not be read, then that is the error instead. -/
theorem mismatch_ne_ok {α : Type} (wanted : String) (r : Reading) (a : α) :
    mismatch wanted r ≠ .ok a := by
  intro h
  cases r with
  -- The reader's own fault comes first, if there is one; either way it is an error.
  | number n =>
    obtain ⟨_, _, hbind⟩ := bind_eq_ok_iff.mp h
    cases hbind
  | string s =>
    obtain ⟨_, _, hbind⟩ := bind_eq_ok_iff.mp h
    cases hbind
  | _ => cases h

/-- A text is decoded if its first value is and nothing stands behind that. -/
theorem fromText_eq_ok_iff {α : Type} {d : Decoder α} {text : String} {a : α} :
    fromText d text = .ok a ↔
      d (Script.read text).reading = .ok a ∧ (Script.read text).surplus = false := by
  show ((d (Script.read text).reading >>= fun a =>
      if (Script.read text).surplus then .error (.fault .trailingCharacters) else .ok a)
    = .ok a) ↔ _
  rw [bind_eq_ok_iff]
  cases (Script.read text).surplus with
  | true => simp
  | false => simp

/-- A text is decoded from its tree, and from no other one: the tree has to be that of a text that
could be read. -/
theorem string_eq_ok_iff {r : Reading} {s : String} : string r = .ok s ↔ r = .string (.ok s) := by
  cases r with
  | string t =>
    rw [string, lift_eq_ok_iff]
    simp
  | _ => simp [string, mismatch_ne_ok]

/-- A count is decoded from its tree, and from no other one. A negative number and a number with a
fraction are none, and a number beyond the range is read as a fraction. -/
theorem count_eq_ok_iff {r : Reading} {n : Nat} :
    count r = .ok n ↔ r = .number (.ok (.integer n)) := by
  cases r with
  | number x =>
    rw [count, bind_eq_ok_iff]
    constructor
    · rintro ⟨number, hx, h⟩
      rw [lift_eq_ok_iff] at hx
      cases number with
      | float y => cases h
      | integer k =>
        simp only at h
        split at h
        case isTrue => cases h
        -- The number is not negative, so it is its own count.
        case isFalse hk =>
          have hn : k.toNat = n := Except.ok.inj h
          rw [hx, show k = (n : Int) by omega]
    · intro h
      refine ⟨.integer n, lift_eq_ok_iff.mpr (Reading.number.inj h), ?_⟩
      simp
  | _ => simp [count, mismatch_ne_ok]

/-- A list is decoded from the trees of its items, if each item is decoded from one tree only. -/
theorem items_eq_ok_iff {α : Type} {d : Decoder α} {tree : α → Reading}
    (hd : ∀ r a, d r = .ok a ↔ r = tree a) {readings : List Reading} {l : List α} :
    items d readings = .ok l ↔ readings = l.map tree := by
  induction readings generalizing l with
  | nil => simp [items, eq_comm]
  | cons r rest ih =>
    rw [items, bind_eq_ok_iff]
    constructor
    -- The first item and then the others, both with success.
    · rintro ⟨a, ha, h⟩
      obtain ⟨others, hothers, h⟩ := bind_eq_ok_iff.mp h
      obtain rfl := Except.ok.inj h
      rw [List.map_cons, (hd r a).mp ha, ih.mp hothers]
    · intro h
      cases l with
      | nil => cases h
      | cons a l =>
        rw [List.map_cons, List.cons.injEq] at h
        exact ⟨a, (hd r a).mpr h.1, bind_eq_ok_iff.mpr ⟨l, ih.mpr h.2, rfl⟩⟩

/-- The same for an array, which must also end as it should. -/
theorem list_eq_ok_iff {α : Type} {d : Decoder α} {tree : α → Reading}
    (hd : ∀ r a, d r = .ok a ↔ r = tree a) {r : Reading} {l : List α} :
    list d r = .ok l ↔ r = .array (l.map tree) none := by
  cases r with
  | array readings fault? =>
    rw [list, bind_eq_ok_iff]
    constructor
    · rintro ⟨found, hfound, h⟩
      -- The end of the array was as it should be.
      obtain ⟨rfl, rfl⟩ := lift_finish_eq_ok_iff.mp h
      rw [(items_eq_ok_iff hd).mp hfound]
    · intro h
      obtain ⟨hreadings, rfl⟩ := Reading.array.inj h
      exact ⟨l, (items_eq_ok_iff hd).mpr hreadings, rfl⟩
  | _ => simp [list, mismatch_ne_ok]

/-- Members are decoded one by one: each key has to be readable, and each value has to be decoded.
Nothing else is asked, so equal keys are no error here. -/
theorem members_eq_ok_iff {α : Type} {d : Decoder α}
    {readings : List (Except Fault String × Reading)} {found : List (String × α)} :
    members d readings = .ok found ↔
      List.Forall₂ (fun m e => m.1 = .ok e.1 ∧ d m.2 = .ok e.2) readings found := by
  induction readings generalizing found with
  | nil => simp [members, eq_comm]
  | cons m rest ih =>
    obtain ⟨key, r⟩ := m
    rw [members, bind_eq_ok_iff, List.forall₂_cons_left_iff]
    constructor
    -- Key, value and the rest succeed one after the other.
    · rintro ⟨k, hkey, h⟩
      obtain ⟨a, ha, h⟩ := bind_eq_ok_iff.mp h
      obtain ⟨others, hothers, h⟩ := bind_eq_ok_iff.mp h
      obtain rfl := Except.ok.inj h
      exact ⟨(k, a), others, ⟨lift_eq_ok_iff.mp hkey, ha⟩, ih.mp hothers, rfl⟩
    · rintro ⟨⟨k, a⟩, others, ⟨hkey, ha⟩, hothers, rfl⟩
      refine ⟨k, lift_eq_ok_iff.mpr hkey, bind_eq_ok_iff.mpr ⟨a, ha, ?_⟩⟩
      exact bind_eq_ok_iff.mpr ⟨others, ih.mpr hothers, rfl⟩

/-- A table is decoded from an object that ends as it should, by putting the decoded members into
a table. Of equal keys the table keeps one. -/
theorem table_eq_ok_iff {α : Type} {d : Decoder α} {r : Reading} {t : Table α} :
    table d r = .ok t ↔ ∃ readings found,
      r = .object readings none ∧ members d readings = .ok found ∧ .ofList found = t := by
  constructor
  · intro h
    cases r with
    | object readings fault? =>
      obtain ⟨found, hfound, h⟩ := bind_eq_ok_iff.mp h
      obtain ⟨rfl, htable⟩ := lift_finish_eq_ok_iff.mp h
      exact ⟨readings, found, rfl, hfound, htable⟩
    | _ =>
      simp only [table] at h
      exact absurd h (mismatch_ne_ok _ _ t)
  · rintro ⟨readings, found, rfl, hfound, htable⟩
    exact bind_eq_ok_iff.mpr ⟨found, hfound, lift_finish_eq_ok_iff.mpr ⟨rfl, htable⟩⟩

/-! ### Parts of records -/

/-- What a part of a record becomes: what its decoder makes of the given value, or what it was. -/
def Takes {α : Type} (d : Decoder α) (given : Option Reading) (old new : α) : Prop :=
  match given with
  | none => new = old
  | some r => d r = .ok new

section
variable {σ α : Type}

/-- One field sets a part of the record to what a decoder makes of its value, and no other field
touches the part. -/
structure Writes (fields : List (RecordField σ)) (name : String) (part : σ → α) (d : Decoder α) :
    Prop where
  own : ∀ f ∈ fields, f.name = name → ∀ s r s', f.set s r = .ok s' → d r = .ok (part s')
  other : ∀ f ∈ fields, f.name ≠ name → ∀ s r s', f.set s r = .ok s' → part s' = part s

/-- A field that decodes its value and puts it into the record. -/
def valueField (name : String) (d : Decoder α) (put : σ → α → σ) : RecordField σ :=
  ⟨name, fun start r => (d r).map (put start)⟩

/-- A field is set if its value is decoded, and the record then is the old one with the value put
in. -/
theorem valueField_set_eq_ok_iff {name : String} {d : Decoder α} {put : σ → α → σ}
    {start s : σ} {r : Reading} :
    (valueField name d put).set start r = .ok s ↔ ∃ a, d r = .ok a ∧ put start a = s := by
  show (d r).map (put start) = .ok s ↔ _
  cases d r with
  | error e => simp [Except.map]
  | ok a => simp [Except.map]

/-- Trees from which the same values are decoded set a field alike. The records before and after
are the same for both. -/
theorem valueField_set_congr {name : String} {d : Decoder α} {put : σ → α → σ} {start s : σ}
    {r r' : Reading} (h : ∀ a, d r = .ok a ↔ d r' = .ok a) :
    (valueField name d put).set start r = .ok s ↔ (valueField name d put).set start r' = .ok s := by
  rw [valueField_set_eq_ok_iff, valueField_set_eq_ok_iff]
  exact exists_congr fun a => and_congr_left fun _ => h a

variable {fields : List (RecordField σ)} {name : String} {part : σ → α} {d : Decoder α}

/-- What holds of all fields holds of those behind the first one. -/
theorem Writes.tail {f : RecordField σ} (h : Writes (f :: fields) name part d) :
    Writes fields name part d where
  own g hg := h.own g (List.mem_cons_of_mem f hg)
  other g hg := h.other g (List.mem_cons_of_mem f hg)

/-- Without fields there is nothing to show. The lemmas that follow add one field at a time in
front. -/
theorem Writes.nil : Writes [] name part d where
  own _ hf := by cases hf
  other _ hf := by cases hf

/-- The field in front sets the part, and does so with what its decoder gives for the value. -/
theorem Writes.cons_own {put : σ → α → σ} (hput : ∀ s a, part (put s a) = a)
    (h : Writes fields name part d) : Writes (valueField name d put :: fields) name part d where
  own f hf hname s r s' hset := by
    rcases List.mem_cons.mp hf with rfl | hf
    · obtain ⟨a, ha, rfl⟩ := valueField_set_eq_ok_iff.mp hset
      rw [hput, ha]
    · exact h.own f hf hname s r s' hset
  other f hf hname s r s' hset := by
    rcases List.mem_cons.mp hf with rfl | hf
    · exact absurd rfl hname
    · exact h.other f hf hname s r s' hset

/-- The field in front has another name and does not touch the part. -/
theorem Writes.cons_other {β : Type} {e : Decoder β} {put : σ → β → σ} {first : String}
    (hfirst : first ≠ name) (hput : ∀ s b, part (put s b) = part s)
    (h : Writes fields name part d) : Writes (valueField first e put :: fields) name part d where
  own f hf hname s r s' hset := by
    rcases List.mem_cons.mp hf with rfl | hf
    · exact absurd hname hfirst
    · exact h.own f hf hname s r s' hset
  other f hf hname s r s' hset := by
    rcases List.mem_cons.mp hf with rfl | hf
    · obtain ⟨b, -, rfl⟩ := valueField_set_eq_ok_iff.mp hset
      exact hput s b
    · exact h.other f hf hname s r s' hset

/-! ### From objects -/

variable {given : List String} {start s : σ}

/-- The member in front sets the field with its name, which must not have been given, or it is
skipped. A skipped value still has to be readable. -/
theorem fieldsByName_cons_iff {key : Except Fault String} {r : Reading}
    {rest : List (Except Fault String × Reading)} :
    fieldsByName fields given start ((key, r) :: rest) = .ok s ↔ ∃ k, key = .ok k ∧
      ((∃ f, (fields.find? fun f => f.name == k) = some f ∧ k ∉ given ∧
          ∃ next, f.set start r = .ok next ∧
            fieldsByName fields (k :: given) next rest = .ok s) ∨
        (fields.find? fun f => f.name == k) = none ∧ r.skipFault? = none ∧
          fieldsByName fields given start rest = .ok s) := by
  rw [fieldsByName, bind_eq_ok_iff]
  refine exists_congr fun k => and_congr lift_eq_ok_iff ?_
  -- A known name must be new; the value of an unknown one is passed over.
  cases hfind : fields.find? fun f => f.name == k with
  | some f =>
    by_cases hgiven : k ∈ given
    · simp [hgiven]
    · simp [hgiven, bind_eq_ok_iff]
  | none =>
    cases hskip : r.skipFault? with
    | some t => simp
    | none => simp

/-- A member sets one of the fields, which must not have been given, or none has its name. -/
theorem fieldsByName_cons {key : Except Fault String} {r : Reading}
    {rest : List (Except Fault String × Reading)}
    (h : fieldsByName fields given start ((key, r) :: rest) = .ok s) :
    ∃ k, key = .ok k ∧
      ((∃ f ∈ fields, f.name = k ∧ k ∉ given ∧ ∃ next, f.set start r = .ok next ∧
          fieldsByName fields (k :: given) next rest = .ok s) ∨
        (∀ f ∈ fields, f.name ≠ k) ∧ fieldsByName fields given start rest = .ok s) := by
  obtain ⟨k, rfl, ⟨f, hfind, hfresh, hset⟩ | ⟨hfind, -, h⟩⟩ := fieldsByName_cons_iff.mp h
  · have hname : f.name = k := by simpa using List.find?_some hfind
    exact ⟨k, rfl, .inl ⟨f, List.mem_of_find?_eq_some hfind, hname, hfresh, hset⟩⟩
  · exact ⟨k, rfl, .inr ⟨by simpa using hfind, h⟩⟩

/-- A name that has been given is not given again, and nothing else touches the part. So the part
stays what it is up to the end of the object. -/
theorem fieldsByName_part_of_given (hwrites : Writes fields name part d)
    {readings : List (Except Fault String × Reading)} (hgiven : name ∈ given)
    (h : fieldsByName fields given start readings = .ok s) : part s = part start := by
  induction readings generalizing given start with
  | nil =>
    obtain rfl := Except.ok.inj h
    rfl
  | cons m rest ih =>
    obtain ⟨k, -, ⟨f, hf, rfl, hfresh, next, hset, h⟩ | ⟨-, h⟩⟩ := fieldsByName_cons h
    -- The field that is set is another one, as its name is new.
    · have hne : f.name ≠ name := fun heq => hfresh (heq ▸ hgiven)
      rw [ih (List.mem_cons_of_mem _ hgiven) h, hwrites.other f hf hne _ _ _ hset]
    · exact ih hgiven h

/-- A part of a record decoded from an object is what its decoder makes of the first value under
its name, or what it was if there is none. The names given so far are free in the induction,
except that this one is not among them. -/
theorem fieldsByName_part (hwrites : Writes fields name part d)
    (hname : name ∈ fields.map (·.name)) {readings : List (Except Fault String × Reading)}
    (hgiven : name ∉ given) (h : fieldsByName fields given start readings = .ok s) :
    Takes d ((readings.find? fun m => isKey name m.1).map (·.2)) (part start) (part s) := by
  induction readings generalizing given start with
  | nil =>
    obtain rfl := Except.ok.inj h
    rfl
  | cons m rest ih =>
    obtain ⟨key, r⟩ := m
    obtain ⟨k, rfl, ⟨f, hf, rfl, hfresh, next, hset, h⟩ | ⟨hunknown, h⟩⟩ := fieldsByName_cons h
    · by_cases heq : f.name = name
      · -- This is the one member that sets the part. It stays so to the end.
        rw [List.find?_cons_of_pos (by simpa [isKey] using heq)]
        show d r = .ok (part s)
        rw [fieldsByName_part_of_given hwrites (heq ▸ List.mem_cons_self) h]
        exact hwrites.own f hf heq _ _ _ hset
      · have hgiven' : name ∉ f.name :: given := by simp [hgiven, Ne.symm heq]
        rw [List.find?_cons_of_neg (by simpa [isKey] using heq),
          ← hwrites.other f hf heq _ _ _ hset]
        exact ih hgiven' h
    -- A name that no field has is not the one that is asked for.
    · have hne : k ≠ name := by
        rintro rfl
        obtain ⟨f, hf, hfname⟩ := List.mem_map.mp hname
        exact hunknown f hf hfname
      rw [List.find?_cons_of_neg (by simpa [isKey] using hne)]
      exact ih hgiven h

/-! ### From lists -/

variable {readings rest : List Reading} {full : Bool}

/-- Fields of other names leave the part alone, wherever the list of values ends. -/
theorem fieldsByPosition_of_not_mem (hwrites : Writes fields name part d)
    (hname : name ∉ fields.map (·.name))
    (h : fieldsByPosition start fields readings = .ok (s, rest, full)) : part s = part start := by
  induction fields generalizing start readings with
  | nil =>
    obtain ⟨rfl, -⟩ := Prod.mk.inj (Except.ok.inj h)
    rfl
  | cons f fields ih =>
    cases readings with
    | nil =>
      obtain ⟨rfl, -⟩ := Prod.mk.inj (Except.ok.inj h)
      rfl
    | cons r readings =>
      rw [List.map_cons, List.mem_cons, not_or] at hname
      obtain ⟨next, hset, h⟩ := bind_eq_ok_iff.mp h
      rw [ih hwrites.tail hname.2 h]
      exact hwrites.other f List.mem_cons_self (Ne.symm hname.1) _ _ _ hset

/-- A part of a record decoded from a list is what its decoder makes of the value at the place of
its name, or what it was if the list ends before. Both lists get shorter in the induction, and the
place gets smaller by one. -/
theorem fieldsByPosition_part (hwrites : Writes fields name part d)
    (hname : name ∈ fields.map (·.name)) (hnodup : (fields.map (·.name)).Nodup)
    (h : fieldsByPosition start fields readings = .ok (s, rest, full)) :
    Takes d readings[(fields.map (·.name)).idxOf name]? (part start) (part s) := by
  induction fields generalizing start readings with
  | nil => cases hname
  | cons f fields ih =>
    cases readings with
    | nil =>
      obtain ⟨rfl, -⟩ := Prod.mk.inj (Except.ok.inj h)
      rfl
    | cons r readings =>
      rw [List.map_cons, List.nodup_cons] at hnodup
      obtain ⟨next, hset, h⟩ := bind_eq_ok_iff.mp h
      rw [List.map_cons]
      by_cases heq : f.name = name
      -- The value in front is the one for the part; no field behind it has the same name.
      · subst heq
        rw [List.idxOf_cons_self]
        show d r = .ok (part s)
        rw [fieldsByPosition_of_not_mem hwrites.tail hnodup.1 h]
        exact hwrites.own f List.mem_cons_self rfl _ _ _ hset
      · have hmem : name ∈ fields.map (·.name) := by
          rw [List.map_cons, List.mem_cons] at hname
          exact hname.resolve_left (Ne.symm heq)
        rw [List.idxOf_cons_ne _ heq, List.getElem?_cons_succ,
          ← hwrites.other f List.mem_cons_self heq _ _ _ hset]
        exact ih hwrites.tail hmem hnodup.2 h

/-- A part of a decoded record is what its decoder makes of the value that the text gives under
the field's name, or what it was at the start. Only objects and lists are decoded as records. -/
theorem record_part {wanted : String} {r : Reading} (hwrites : Writes fields name part d)
    (hname : name ∈ fields.map (·.name)) (hnodup : (fields.map (·.name)).Nodup)
    (h : record wanted fields start r = .ok s) :
    Takes d (r.given? (fields.map (·.name)) name) (part start) (part s) := by
  cases r with
  | object readings fault? =>
    obtain ⟨found, hfound, h⟩ := bind_eq_ok_iff.mp h
    obtain ⟨-, rfl⟩ := lift_finish_eq_ok_iff.mp h
    exact fieldsByName_part hwrites hname List.not_mem_nil hfound
  | array readings fault? =>
    obtain ⟨⟨found, rest, full⟩, hfound, h⟩ := bind_eq_ok_iff.mp h
    -- Whether all fields were given only decides what may stand behind them.
    have hs : found = s := by
      cases full with
      | true =>
        simp only [if_true] at h
        split at h
        · cases h
        · exact Except.ok.inj h
      | false => exact (lift_finish_eq_ok_iff.mp h).2
    subst hs
    exact fieldsByPosition_part hwrites hname hnodup hfound
  | _ =>
    simp only [record] at h
    exact absurd h (mismatch_ne_ok _ _ s)

end

end Decode

end WorkflowLint.Json
