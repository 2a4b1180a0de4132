import Mathlib.Logic.Relation
import WorkflowLint.Proofs.Json.Record

/-!
# `WorkflowLint.Proofs.Json.Rewording`: objects that say the same

A record is decoded from an object by taking one member after the other, so it has to be shown that
the order of the members makes no difference. `Edit` names three changes to an object that should
not matter to a record: its members change places, a member of an unknown name comes in, and a
field is given by another value that says the same. Any number of them, forwards or backwards, make
a `Rewording`.

`record_rewording` says that a rewording decodes to the same record as the object did, or both fail.
The step behind it is `fieldsByName_swap`: two members may change places, because setting one field
does not touch what another one sets (`Independent`), and because a name that has been given counts
as given wherever it stood.
-/

set_option autoImplicit false

namespace WorkflowLint.Json

/-- A change to an object that a record with fields of some names does not show. A member with
another name only has to be well formed. Which values of a field say the same, `same` decides. -/
inductive Edit (names : List String) (same : String → Reading → Reading → Prop) :
    Reading → Reading → Prop where
  | order {members others : List (Except Fault String × Reading)} (h : members.Perm others) :
      Edit names same (.object members none) (.object others none)
  | addition {key : String} {r : Reading} {members : List (Except Fault String × Reading)}
      (hkey : key ∉ names) (hr : r.skipFault? = none) :
      Edit names same (.object members none) (.object ((.ok key, r) :: members) none)
  | value {name : String} {r r' : Reading} {members : List (Except Fault String × Reading)}
      (hname : name ∈ names) (h : same name r r') :
      Edit names same (.object ((.ok name, r) :: members) none)
        (.object ((.ok name, r') :: members) none)

/-- Two readings say the same about the fields of a record: one becomes the other by changes that
the record does not show. -/
def Rewording (names : List String) (same : String → Reading → Reading → Prop) :
    Reading → Reading → Prop :=
  Relation.EqvGen (Edit names same)

namespace Decode

/-! ### Independent fields -/

section
variable {σ : Type}

/-- Setting one field and then another one comes to the same the other way round. -/
def Commutes (f g : RecordField σ) : Prop :=
  ∀ s r r' s', (∃ next, f.set s r = .ok next ∧ g.set next r' = .ok s') →
    ∃ next, g.set s r' = .ok next ∧ f.set next r = .ok s'

/-- Fields of different names do not get into each other's way. -/
def Independent (fields : List (RecordField σ)) : Prop :=
  ∀ f ∈ fields, ∀ g ∈ fields, f.name ≠ g.name → Commutes f g

/-- Fields that put their values into different parts of a record commute, since decoding looks at
the value alone and not at the record. -/
theorem commutes_valueField {α β : Type} {name other : String} {d : Decoder α} {e : Decoder β}
    {put : σ → α → σ} {put' : σ → β → σ}
    (h : ∀ s a b, put' (put s a) b = put (put' s b) a) :
    Commutes (valueField name d put) (valueField other e put') := by
  rintro s r r' s' ⟨next, hnext, hs⟩
  obtain ⟨a, ha, rfl⟩ := valueField_set_eq_ok_iff.mp hnext
  obtain ⟨b, hb, rfl⟩ := valueField_set_eq_ok_iff.mp hs
  refine ⟨put' s b, valueField_set_eq_ok_iff.mpr ⟨b, hb, rfl⟩, ?_⟩
  exact valueField_set_eq_ok_iff.mpr ⟨a, ha, (h s a b).symm⟩

/-! ### The order of members -/

variable {fields : List (RecordField σ)} {given : List String} {start s : σ}

/-- Of the names that have been given it only matters which they are, not in which order they came
or how often they are listed. -/
theorem fieldsByName_congr_given {others : List String} (h : ∀ k, k ∈ given ↔ k ∈ others)
    {members : List (Except Fault String × Reading)} :
    fieldsByName fields given start members = .ok s ↔
      fieldsByName fields others start members = .ok s := by
  induction members generalizing given others start with
  | nil => exact Iff.rfl
  | cons m rest ih =>
    rw [fieldsByName_cons_iff, fieldsByName_cons_iff]
    refine exists_congr fun k => and_congr_right fun _ => or_congr ?_ ?_
    -- A field is set and its name is added on both sides.
    · refine exists_congr fun f => and_congr_right fun _ => and_congr (not_congr (h k)) ?_
      refine exists_congr fun next => and_congr_right fun _ => ih fun k' => ?_
      rw [List.mem_cons, List.mem_cons, h k']
    · exact and_congr_right fun _ => and_congr_right fun _ => ih h

/-- Two members may change places. Each of them sets a field or is skipped, which makes four
cases. -/
theorem fieldsByName_swap (hfields : Independent fields) {m m' : Except Fault String × Reading}
    {rest : List (Except Fault String × Reading)}
    (h : fieldsByName fields given start (m :: m' :: rest) = .ok s) :
    fieldsByName fields given start (m' :: m :: rest) = .ok s := by
  obtain ⟨key, r⟩ := m
  obtain ⟨key', r'⟩ := m'
  obtain ⟨k, rfl, ⟨f, hf, hfresh, next, hset, h⟩ | ⟨hf, hskip, h⟩⟩ := fieldsByName_cons_iff.mp h
  · obtain ⟨k', rfl, ⟨g, hg, hfresh', last, hset', h⟩ | ⟨hg, hskip', h⟩⟩ :=
      fieldsByName_cons_iff.mp h
    · -- Both set a field. The second name is not the first one, which had been given by then.
      rw [List.mem_cons, not_or] at hfresh'
      have hfname : f.name = k := by simpa using List.find?_some hf
      have hgname : g.name = k' := by simpa using List.find?_some hg
      have hne : f.name ≠ g.name := by
        rw [hfname, hgname]
        exact Ne.symm hfresh'.1
      obtain ⟨first, hfirst, hsecond⟩ := hfields f (List.mem_of_find?_eq_some hf) g
        (List.mem_of_find?_eq_some hg) hne _ _ _ _ ⟨next, hset, hset'⟩
      have hgiven : ∀ x, x ∈ k' :: k :: given ↔ x ∈ k :: k' :: given := fun x => by
        simp only [List.mem_cons]
        exact or_left_comm
      refine fieldsByName_cons_iff.mpr ⟨k', rfl, .inl ⟨g, hg, hfresh'.2, first, hfirst, ?_⟩⟩
      refine fieldsByName_cons_iff.mpr ⟨k, rfl, .inl ⟨f, hf, ?_, last, hsecond, ?_⟩⟩
      · rw [List.mem_cons, not_or]
        exact ⟨Ne.symm hfresh'.1, hfresh⟩
      · exact (fieldsByName_congr_given hgiven).mp h
    · -- A member that is skipped leaves the record and the given names as they are.
      refine fieldsByName_cons_iff.mpr ⟨k', rfl, .inr ⟨hg, hskip', ?_⟩⟩
      exact fieldsByName_cons_iff.mpr ⟨k, rfl, .inl ⟨f, hf, hfresh, next, hset, h⟩⟩
  · obtain ⟨k', rfl, ⟨g, hg, hfresh', last, hset', h⟩ | ⟨hg, hskip', h⟩⟩ :=
      fieldsByName_cons_iff.mp h
    -- The first member is skipped, so the second one sets its field in the same record.
    · refine fieldsByName_cons_iff.mpr ⟨k', rfl, .inl ⟨g, hg, hfresh', last, hset', ?_⟩⟩
      exact fieldsByName_cons_iff.mpr ⟨k, rfl, .inr ⟨hf, hskip, h⟩⟩
    · refine fieldsByName_cons_iff.mpr ⟨k', rfl, .inr ⟨hg, hskip', ?_⟩⟩
      exact fieldsByName_cons_iff.mpr ⟨k, rfl, .inr ⟨hf, hskip, h⟩⟩

/-- What the members of an object do to a record does not depend on their order. Every reordering
is made of swaps of neighbours. -/
theorem fieldsByName_perm (hfields : Independent fields)
    {members others : List (Except Fault String × Reading)} (hperm : members.Perm others)
    (h : fieldsByName fields given start members = .ok s) :
    fieldsByName fields given start others = .ok s := by
  induction hperm generalizing given start with
  | nil => exact h
  | cons m _ ih =>
    obtain ⟨k, hkey, ⟨f, hf, hfresh, next, hset, h⟩ | ⟨hf, hskip, h⟩⟩ := fieldsByName_cons_iff.mp h
    · exact fieldsByName_cons_iff.mpr ⟨k, hkey, .inl ⟨f, hf, hfresh, next, hset, ih h⟩⟩
    · exact fieldsByName_cons_iff.mpr ⟨k, hkey, .inr ⟨hf, hskip, ih h⟩⟩
  | swap m m' rest => exact fieldsByName_swap hfields h
  | trans _ _ ih ih' => exact ih' (ih h)

/-! ### Rewordings -/

variable {wanted : String} {same : String → Reading → Reading → Prop} {r r' : Reading}

/-- An object that ends as it should is decoded by its members, with no names given at the start. -/
theorem record_object_eq_ok_iff {members : List (Except Fault String × Reading)} :
    record wanted fields start (.object members none) = .ok s ↔
      fieldsByName fields [] start members = .ok s := by
  rw [record, bind_eq_ok_iff]
  simp [finish, lift]

/-- A record does not show a change to its object. Each of the three kinds of changes is a case. -/
theorem record_edit (hfields : Independent fields)
    (hsame : ∀ f ∈ fields, ∀ r r', same f.name r r' →
      ∀ start s, f.set start r = .ok s ↔ f.set start r' = .ok s)
    (h : Edit (fields.map (·.name)) same r r') :
    record wanted fields start r = .ok s ↔ record wanted fields start r' = .ok s := by
  cases h with
  | order hperm =>
    rw [record_object_eq_ok_iff, record_object_eq_ok_iff]
    exact ⟨fieldsByName_perm hfields hperm, fieldsByName_perm hfields hperm.symm⟩
  | @addition key r members hkey hr =>
    -- No field has the name, so the new member is skipped.
    have hfind : (fields.find? fun f => f.name == key) = none := by
      rw [List.find?_eq_none]
      intro f hf heq
      exact hkey (List.mem_map.mpr ⟨f, hf, by simpa using heq⟩)
    rw [record_object_eq_ok_iff, record_object_eq_ok_iff, fieldsByName_cons_iff]
    constructor
    · intro h
      exact ⟨key, rfl, .inr ⟨hfind, hr, h⟩⟩
    · rintro ⟨k, hk, ⟨f, hf, -⟩ | ⟨-, -, h⟩⟩
      · rw [← Except.ok.inj hk, hfind] at hf
        cases hf
      · exact h
  | value hname hvalue =>
    rw [record_object_eq_ok_iff, record_object_eq_ok_iff, fieldsByName_cons_iff,
      fieldsByName_cons_iff]
    refine exists_congr fun k => and_congr_right fun hk => or_congr ?_ ?_
    · refine exists_congr fun f => and_congr_right fun hf => and_congr_right fun _ => ?_
      refine exists_congr fun next => and_congr_left fun _ => ?_
      have hfname : f.name = k := by simpa using List.find?_some hf
      rw [Except.ok.inj hk, ← hfname] at hvalue
      exact hsame f (List.mem_of_find?_eq_some hf) _ _ hvalue _ _
    · -- The name is known, so the member is not skipped.
      refine and_congr_right fun hnone => ?_
      obtain ⟨f, hf, hfname⟩ := List.mem_map.mp hname
      have hnot := List.find?_eq_none.mp hnone f hf
      rw [hfname, Except.ok.inj hk] at hnot
      exact absurd (beq_self_eq_true k) hnot

/-- A rewording says the same to a record, whatever changes it is made of and in which direction
they go. -/
theorem record_rewording (hfields : Independent fields)
    (hsame : ∀ f ∈ fields, ∀ r r', same f.name r r' →
      ∀ start s, f.set start r = .ok s ↔ f.set start r' = .ok s)
    (h : Rewording (fields.map (·.name)) same r r') :
    record wanted fields start r = .ok s ↔ record wanted fields start r' = .ok s := by
  induction h with
  | rel r r' hedit => exact record_edit hfields hsame hedit
  | refl r => exact Iff.rfl
  | symm r r' _ ih => exact ih.symm
  | trans r r' r'' _ _ ih ih' => exact ih.trans ih'

/-- The same for records whose fields are never given by another value. -/
theorem record_rewording_of_eq (hfields : Independent fields)
    (h : Rewording (fields.map (·.name)) (fun _ => Eq) r r') :
    record wanted fields start r = .ok s ↔ record wanted fields start r' = .ok s := by
  refine record_rewording hfields (fun f _ r r' heq start s => ?_) h
  rw [heq]

end

end Decode

end WorkflowLint.Json
