/-!
# `WorkflowLint.Counting`: sums over lists

Counts of a list that add up over its members, and lists that are taken apart by a key of their
members.
-/

set_option autoImplicit false

namespace WorkflowLint

/-- The sum of a number for every member of a list. -/
def sumOf {α : Type} (f : α → Nat) : List α → Nat
  | [] => 0
  | a :: rest => f a + sumOf f rest

/-- The sum over two lists one after the other is the sum of their sums. -/
theorem sumOf_append {α : Type} (f : α → Nat) (l m : List α) :
    sumOf f (l ++ m) = sumOf f l + sumOf f m := by
  induction l with
  | nil => simp [sumOf]
  | cons a rest ih => simp [sumOf, ih, Nat.add_assoc]

/-- The sum over a mapped list. -/
theorem sumOf_map {α β : Type} (f : β → Nat) (g : α → β) (l : List α) :
    sumOf f (l.map g) = sumOf (fun a => f (g a)) l := by
  induction l with
  | nil => rfl
  | cons a rest ih => rw [List.map_cons, sumOf, sumOf, ih]

/-- A list made of parts is as long as its parts together. -/
theorem length_flatMap_eq {α β : Type} (f : α → List β) (l : List α) :
    (l.flatMap f).length = sumOf (fun x => (f x).length) l := by
  induction l with
  | nil => rfl
  | cons x rest ih => rw [List.flatMap_cons, List.length_append, ih, sumOf]

/-- Taking the members of a list key by key takes those with one of the keys, each once, if no key
is named twice. -/
theorem perm_flatMap_filter_key {α β : Type} [BEq β] [LawfulBEq β] (key : α → β) {keys : List β}
    (hkeys : keys.Nodup) (l : List α) :
    (keys.flatMap fun k => l.filter fun a => key a == k).Perm
      (l.filter fun a => keys.contains (key a)) := by
  induction keys with
  | nil => simp
  | cons k keys ih =>
    obtain ⟨hk, hkeys⟩ := List.nodup_cons.mp hkeys
    -- What has one of the keys has the first one, or else one of the others.
    have hfirst : (l.filter fun a => (k :: keys).contains (key a)).filter (fun a => key a == k)
        = l.filter fun a => key a == k := by
      rw [List.filter_filter]
      refine List.filter_congr fun a _ => ?_
      by_cases heq : key a = k
      · simp [heq]
      · simp [heq]
    have hothers : (l.filter fun a => (k :: keys).contains (key a)).filter
        (fun a => !(key a == k)) = l.filter fun a => keys.contains (key a) := by
      rw [List.filter_filter]
      refine List.filter_congr fun a _ => ?_
      by_cases heq : key a = k
      · simp [heq, hk]
      · simp [heq]
    have hsplit := List.filter_append_perm (fun a => key a == k)
      (l.filter fun a => (k :: keys).contains (key a))
    rw [hfirst, hothers] at hsplit
    rw [List.flatMap_cons]
    exact ((ih hkeys).append_left _).trans hsplit

end WorkflowLint
