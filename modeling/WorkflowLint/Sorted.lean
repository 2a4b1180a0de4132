/-!
# `WorkflowLint.Sorted`: sorted sets and tables of texts

A `Words` is a set of texts and a `Table` maps texts to values. Both keep their
members in strictly increasing order, so a set or table has one form only, two of
them are equal exactly when they have the same members, and listing the members
is listing them in order. Texts are ordered by code points.
-/

set_option autoImplicit false

namespace WorkflowLint

/-! ### Inserting into an increasing list -/

/-- An entry put into an increasing list of entries. An entry with the same key
gives way. -/
def insertEntry {α : Type} (key : String) (value : α) :
    List (String × α) → List (String × α)
  | [] => [(key, value)]
  | (k, v) :: rest =>
    if key < k then (key, value) :: (k, v) :: rest
    else if key = k then (key, value) :: rest
    else (k, v) :: insertEntry key value rest

/-- The keys after an insertion are the new one and the old ones. -/
theorem mem_insertEntry {α : Type} {key : String} {value : α} {e : String × α}
    {l : List (String × α)} (h : e ∈ insertEntry key value l) : e = (key, value) ∨ e ∈ l := by
  induction l with
  | nil => simpa [insertEntry] using h
  | cons p rest ih =>
    obtain ⟨k, v⟩ := p
    rw [insertEntry] at h
    split at h
    · simpa using h
    · split at h
      · rcases List.mem_cons.1 h with h | h
        · exact .inl h
        · exact .inr (List.mem_cons_of_mem _ h)
      · rcases List.mem_cons.1 h with h | h
        · exact .inr (h ▸ List.mem_cons_self)
        · rcases ih h with h | h
          · exact .inl h
          · exact .inr (List.mem_cons_of_mem _ h)

/-- An insertion keeps the keys in order. -/
theorem sorted_insertEntry {α : Type} (key : String) (value : α) {l : List (String × α)}
    (h : l.Pairwise fun a b => a.1 < b.1) :
    (insertEntry key value l).Pairwise fun a b => a.1 < b.1 := by
  induction l with
  | nil => simp [insertEntry]
  | cons p rest ih =>
    obtain ⟨k, v⟩ := p
    obtain ⟨first, others⟩ := List.pairwise_cons.1 h
    rw [insertEntry]
    split
    · rename_i below
      refine List.pairwise_cons.2 ⟨fun e he => ?_, h⟩
      rcases List.mem_cons.1 he with rfl | he
      · exact below
      · exact String.lt_trans below (first e he)
    · split
      · rename_i same
        subst same
        exact List.pairwise_cons.2 ⟨first, others⟩
      · rename_i notBelow notSame
        refine List.pairwise_cons.2 ⟨fun e he => ?_, ih others⟩
        rcases mem_insertEntry he with rfl | he
        · refine Decidable.byContradiction fun notAbove => notSame ?_
          exact String.le_antisymm (String.not_lt.1 notAbove) (String.not_lt.1 notBelow)
        · exact first e he

/-! ### Tables -/

/-- A map from texts to values, kept in increasing order of the texts. -/
structure Table (α : Type) where
  entries : List (String × α)
  sorted : entries.Pairwise fun a b => a.1 < b.1

namespace Table

variable {α : Type}

/-- The table without entries. -/
def empty : Table α := ⟨[], .nil⟩

instance : Inhabited (Table α) := ⟨empty⟩

/-- The table with `key` mapped to `value`, whatever it was mapped to before. -/
def insert (t : Table α) (key : String) (value : α) : Table α :=
  ⟨insertEntry key value t.entries, sorted_insertEntry key value t.sorted⟩

/-- The value of a key. -/
def get? (t : Table α) (key : String) : Option α :=
  (t.entries.find? fun e => e.1 == key).map (·.2)

/-- The table with `key` mapped to `value`, unless it has a value already. -/
def insertNew (t : Table α) (key : String) (value : α) : Table α :=
  if (t.get? key).isSome then t else t.insert key value

/-- The table of a list of entries; of entries with the same key the last one
counts. -/
def ofList (l : List (String × α)) : Table α := l.foldl (fun t e => t.insert e.1 e.2) empty

/-- The keys in increasing order. -/
def keys (t : Table α) : List String := t.entries.map (·.1)

/-- How many entries there are. -/
def size (t : Table α) : Nat := t.entries.length

/-- Whether there are no entries. -/
def isEmpty (t : Table α) : Bool := t.entries.isEmpty

/-- Every value replaced by a function of it and its key. -/
def map {β : Type} (t : Table α) (f : String → α → β) : Table β :=
  ⟨t.entries.map fun e => (e.1, f e.1 e.2), List.pairwise_map.2 t.sorted⟩

instance [DecidableEq α] : DecidableEq (Table α) := fun s t =>
  decidable_of_iff (s.entries = t.entries) (by cases s; cases t; simp)

end Table

/-! ### Sets -/

/-- A set of texts in increasing order. -/
structure Words where
  table : Table Unit
deriving DecidableEq

namespace Words

/-- The empty set. -/
def empty : Words := ⟨.empty⟩

/-- The set with one more member. -/
def insert (s : Words) (w : String) : Words := ⟨s.table.insert w ()⟩

/-- The set of the members of a list. -/
def ofList (l : List String) : Words := l.foldl insert empty

/-- The members in increasing order. -/
def toList (s : Words) : List String := s.table.keys

/-- Whether there are no members. -/
def isEmpty (s : Words) : Bool := s.table.isEmpty

end Words

end WorkflowLint
