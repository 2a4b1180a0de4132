import Mathlib.Data.List.Nodup
import WorkflowLint.Sorted

/-!
# `WorkflowLint.Proofs.Sorted`: sets and tables from their own members

Sets and tables are built by inserting members one after the other into a sorted
list. When the members come in increasing order, each goes to the end
(`insertEntry_append`), so the table of a table's own entries is the table
(`Table.ofList_entries`) and the set of a set's own members is the set
(`Words.ofList_toList`). In whatever order they come, the members of the set of a list
are those of the list (`Words.mem_toList_ofList`), and a key of the table of a list has the
value of the last entry with that key (`Table.get?_ofList`).
-/

set_option autoImplicit false

namespace WorkflowLint

/-- An entry whose key is above all others goes to the end. -/
theorem insertEntry_append {α : Type} {key : String} {value : α} {l : List (String × α)}
    (h : ∀ e ∈ l, e.1 < key) : insertEntry key value l = l ++ [(key, value)] := by
  induction l with
  | nil => rfl
  | cons e rest ih =>
      obtain ⟨k, v⟩ := e
      -- The first entry is passed over, as its key is smaller.
      have hk : k < key := h (k, v) (by simp)
      rw [insertEntry, if_neg (String.lt_asymm hk), if_neg (String.ne_of_lt hk).symm,
        ih fun e he => h e (List.mem_cons_of_mem _ he)]
      rfl

/-- The keys after an insertion are the new one and the old ones, whichever entry gives way. -/
theorem mem_keys_insertEntry {α : Type} {key w : String} {value : α} {l : List (String × α)} :
    w ∈ (insertEntry key value l).map (·.1) ↔ w = key ∨ w ∈ l.map (·.1) := by
  induction l with
  | nil => simp [insertEntry]
  | cons e rest ih =>
      obtain ⟨k, v⟩ := e
      rw [insertEntry]
      split
      · simp
      split
      · rename_i hsame
        simp [hsame]
      · rw [List.map_cons, List.mem_cons, ih, List.map_cons, List.mem_cons]
        exact or_left_comm

/-- Looking for a key finds the entry that was put in, or else what was found before. The list
need not be sorted for this. -/
theorem find?_insertEntry {α : Type} {key : String} {value : α} (l : List (String × α))
    (k : String) :
    ((insertEntry key value l).find? fun e => e.1 == k)
      = if key = k then some (key, value) else l.find? fun e => e.1 == k := by
  induction l with
  | nil => by_cases hk : key = k <;> simp [insertEntry, hk]
  | cons e rest ih =>
      obtain ⟨k', v⟩ := e
      rw [insertEntry]
      split
      · by_cases hk : key = k <;> simp [hk]
      split
      · rename_i hsame
        subst hsame
        by_cases hk : key = k <;> simp [hk]
      · rename_i hother
        by_cases hk : k' = k
        · subst hk
          simp [hother]
        · simp [hk, ih]

namespace Table

variable {α : Type}

/-- Two tables with the same entries are the same: the proof that the entries are in order is no
data. -/
theorem ext {s t : Table α} (h : s.entries = t.entries) : s = t := by
  cases s
  cases t
  cases h
  rfl

/-- Inserting increasing entries into a table of smaller ones appends them, one after the other. -/
theorem entries_foldl_insert (l : List (String × α)) (t : Table α)
    (h : (t.entries ++ l).Pairwise fun a b => a.1 < b.1) :
    (l.foldl (fun t e => t.insert e.1 e.2) t).entries = t.entries ++ l := by
  induction l generalizing t with
  | nil => simp
  | cons e rest ih =>
      have hbelow : ∀ d ∈ t.entries, d.1 < e.1 := fun d hd =>
        (List.pairwise_append.mp h).2.2 d hd e (by simp)
      -- The entry is above all of the table, so it goes to the end, and the rest is above it.
      have hinsert : (t.insert e.1 e.2).entries = t.entries ++ [e] := insertEntry_append hbelow
      rw [List.foldl_cons, ih _ (by rw [hinsert]; simpa using h), hinsert]
      simp

/-- The table of a table's own entries is the table, because they are in order. -/
theorem ofList_entries (t : Table α) : ofList t.entries = t :=
  ext (entries_foldl_insert t.entries empty t.sorted)

/-- After an insertion the key has the new value, and all others have what they had. -/
theorem get?_insert (t : Table α) (key : String) (value : α) (k : String) :
    (t.insert key value).get? k = if key = k then some value else t.get? k := by
  rw [get?, insert, find?_insertEntry]
  split <;> rfl

/-- An insertion of something new gives a value to a key that had none, and leaves everything else
alone. -/
theorem get?_insertNew (t : Table α) (key : String) (value : α) (k : String) :
    (t.insertNew key value).get? k = (t.get? k).or (if key = k then some value else none) := by
  rw [insertNew]
  by_cases hk : key = k
  · subst hk
    -- A key that has a value already keeps it.
    cases hold : t.get? key with
    | none => simp [get?_insert]
    | some old => simp [hold]
  · split <;> simp [get?_insert, hk]

/-- Of the entries with a key the last one counts, since each insertion replaces what was there. -/
theorem get?_ofList (l : List (String × α)) (k : String) :
    (ofList l).get? k = (l.reverse.find? fun e => e.1 == k).map (·.2) := by
  -- The induction starts from any table; what it holds counts if the list is silent about the
  -- key.
  have hfold : ∀ t : Table α, (l.foldl (fun t e => t.insert e.1 e.2) t).get? k
      = ((l.reverse.find? fun e => e.1 == k).map (·.2)).or (t.get? k) := by
    induction l with
    | nil => intro t; rfl
    | cons e rest ih =>
        intro t
        rw [List.foldl_cons, ih, get?_insert, List.reverse_cons, List.find?_append]
        cases rest.reverse.find? fun e => e.1 == k with
        | some found => rfl
        | none => by_cases hk : e.1 = k <;> simp [hk]
  rw [ofList, hfold]
  exact Option.or_none

/-- A table has the keys that have a value: looking up a key finds something exactly if the key is
listed. -/
theorem mem_keys_iff {t : Table α} {k : String} : k ∈ t.keys ↔ (t.get? k).isSome = true := by
  rw [get?, Option.isSome_map, List.find?_isSome, keys, List.mem_map]
  simp

/-- The table of a list has the keys of the list. -/
theorem mem_keys_ofList {l : List (String × α)} {k : String} :
    k ∈ (ofList l).keys ↔ k ∈ l.map (·.1) := by
  rw [mem_keys_iff, get?_ofList, Option.isSome_map, List.find?_isSome, List.mem_map]
  simp

/-- Changing the values of a table keeps its keys, and with them their order. -/
theorem keys_map {β : Type} (t : Table α) (f : String → α → β) : (t.map f).keys = t.keys := by
  rw [keys, map, List.map_map]
  rfl

/-- The value of a key is the old one, changed; a key without a value still has none. -/
theorem get?_map {β : Type} (t : Table α) (f : String → α → β) (k : String) :
    (t.map f).get? k = (t.get? k).map (f k) := by
  rw [get?, map, get?, List.find?_map]
  show ((t.entries.find? fun e => e.1 == k).map fun e => (e.1, f e.1 e.2)).map Prod.snd = _
  cases hfind : t.entries.find? fun e => e.1 == k with
  | none => rfl
  | some e =>
    obtain rfl : e.1 = k := by simpa using List.find?_some hfind
    rfl

/-- The keys of a table increase strictly. Every table carries the proof. -/
theorem pairwise_keys (t : Table α) : t.keys.Pairwise (· < ·) := List.pairwise_map.mpr t.sorted

/-- The keys are in order, so each occurs once. -/
theorem nodup_keys (t : Table α) : t.keys.Nodup := t.pairwise_keys.imp String.ne_of_lt

/-- The entries of a table are its keys with their values. -/
theorem mem_entries_iff {t : Table α} {k : String} {v : α} :
    (k, v) ∈ t.entries ↔ t.get? k = some v := by
  rw [get?, Option.map_eq_some_iff]
  constructor
  · intro hmem
    have hsome : (t.entries.find? fun e => e.1 == k).isSome = true :=
      List.find?_isSome.mpr ⟨(k, v), hmem, beq_self_eq_true k⟩
    obtain ⟨e, he⟩ := Option.isSome_iff_exists.mp hsome
    have hkey : e.1 = k := by simpa using List.find?_some he
    -- The entry that is found has the same key, and there is one only.
    obtain rfl : e = (k, v) :=
      List.inj_on_of_nodup_map t.nodup_keys (List.mem_of_find?_eq_some he) hmem hkey
    exact ⟨(k, v), he, rfl⟩
  · rintro ⟨e, he, rfl⟩
    obtain rfl : e.1 = k := by simpa using List.find?_some he
    exact List.mem_of_find?_eq_some he

end Table

namespace Words

/-- The members of the set of a list are those of the list, however often each is in it. -/
theorem mem_toList_ofList {w : String} (l : List String) : w ∈ (ofList l).toList ↔ w ∈ l := by
  have hfold : ∀ s : Words, w ∈ (l.foldl insert s).toList ↔ w ∈ s.toList ∨ w ∈ l := by
    induction l with
    | nil => simp
    | cons v rest ih =>
        intro s
        have hinsert : w ∈ (s.insert v).toList ↔ w = v ∨ w ∈ s.toList := mem_keys_insertEntry
        rw [List.foldl_cons, ih, hinsert, List.mem_cons, or_assoc]
        exact or_left_comm
  have hempty : w ∉ empty.toList := List.not_mem_nil
  rw [ofList, hfold, or_iff_right hempty]

/-- A set is the table of its members, each with the empty value. What is known of tables holds of
sets through this. -/
theorem ofList_eq (l : List String) : ofList l = ⟨Table.ofList (l.map fun w => (w, ()))⟩ := by
  have hfold : ∀ t : Table Unit, l.foldl insert ⟨t⟩
      = ⟨(l.map fun w => (w, ())).foldl (fun t e => t.insert e.1 e.2) t⟩ := by
    induction l with
    | nil => intro t; rfl
    | cons w rest ih => intro t; exact ih (t.insert w ())
  exact hfold .empty

/-- The set of a set's own members is the set, because they are in order already. -/
theorem ofList_toList (s : Words) : ofList s.toList = s := by
  have hentries : s.toList.map (fun w => (w, ())) = s.table.entries := by
    rw [toList, Table.keys, List.map_map]
    exact List.map_id _
  rw [ofList_eq, hentries, Table.ofList_entries]

end Words

end WorkflowLint
