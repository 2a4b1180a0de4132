import WorkflowLint.Kind

/-!
# `WorkflowLint.Proofs.Kind`: kinds and the spellings of their names

The table of activities is written down twice, as the kind of a name (`Kind.ofTag`) and as
the names of a kind (`Kind.tags`). For the kinds that are listed the two agree: a name is of a
kind exactly when it is one of the kind's spellings (`ofTag_eq_iff`).

A name that is not in the table is a kind of its own, which is not listed. Its only spelling is the
name, so the two directions agree on every kind that a name has (`ofTag_eq_ofTag_iff`). Classes of
activities hold listed kinds only (`isListed_of_passes`), so such names belong to none.
-/

set_option autoImplicit false

namespace WorkflowLint.Kind

/-- Whether a kind is one of the table. -/
def isListed : Kind → Bool
  | other _ => false
  | _ => true

/-- A kind's spellings are names of that kind. For each kind of the table they are gone through. -/
theorem ofTag_of_mem_tags {k : Kind} (hk : k.isListed = true) : ∀ tag ∈ k.tags, ofTag tag = k := by
  cases k with
  | other tag => cases hk
  | _ => decide +kernel

/-- A name is a spelling of its kind, whether or not it is in the table. -/
theorem mem_tags_ofTag (tag : String) : tag ∈ (ofTag tag).tags := by
  unfold ofTag
  split <;> simp [tags]

/-- A name is of a listed kind exactly when it is one of its spellings. This is how rules that ask
for kinds and rules that ask for names are compared. -/
theorem ofTag_eq_iff {k : Kind} (hk : k.isListed = true) {tag : String} :
    ofTag tag = k ↔ tag ∈ k.tags := by
  constructor
  · rintro rfl
    exact mem_tags_ofTag tag
  · exact ofTag_of_mem_tags hk tag

/-- Two names are of one kind exactly when one of them is a spelling of the other one's kind. A name
that is not in the table is the only spelling of its kind. -/
theorem ofTag_eq_ofTag_iff {tag other : String} :
    ofTag other = ofTag tag ↔ other ∈ (ofTag tag).tags := by
  constructor
  · intro h
    rw [← h]
    exact mem_tags_ofTag other
  · intro hother
    have htag := mem_tags_ofTag tag
    cases hkind : ofTag tag with
    -- A name outside of the table is the only one of its kind.
    | other name =>
      rw [hkind] at htag hother
      obtain rfl := List.mem_singleton.mp htag
      obtain rfl := List.mem_singleton.mp hother
      exact hkind
    | _ =>
      rw [hkind] at hother
      exact ofTag_of_mem_tags rfl other hother

/-- No spelling of a kind is listed twice, so searching for each of them finds no element twice. -/
theorem nodup_tags (k : Kind) : k.tags.Nodup := by
  cases k <;> simp [tags]

/-- A class of kinds holds listed kinds only, if it holds none of the others. -/
theorem isListed_of_passes {p : Kind → Bool} (hp : ∀ tag, p (other tag) = false) {k : Kind}
    (hk : p k = true) : k.isListed = true := by
  cases k with
  | other tag => rw [hp tag] at hk; cases hk
  | _ => rfl

end WorkflowLint.Kind
