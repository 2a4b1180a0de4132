import Mathlib.Data.List.Induction
import Mathlib.Data.List.Sort
import WorkflowLint.Counting
import WorkflowLint.Proofs.Sorted
import WorkflowLint.Proofs.Success
import WorkflowLint.Report.Markdown

/-!
# `WorkflowLint.Proofs.Report.Groups`: activities by type

A report in Markdown lists the activities of a workflow by their types. The groups come from one
walk through the activities, in which each is put behind those of its type that came before. At
every point of the walk the table groups the activities up to there (`Groups`): the group of a type
is what a search for the type finds among them, and there is no group without activities. One step
keeps this (`Groups.push`), so it holds of all activities (`groups_byType`).

Hence no activity is lost and none is listed twice (`perm_groups`). The components of a workflow are
collected apart from this, as a set of types. They are the types of the groups in the same order
(`keys_byType`).
-/

set_option autoImplicit false

namespace WorkflowLint.Report

/-- The activities of a type, in their order. -/
def ofType (type : String) (activities : List Activity) : List Activity :=
  activities.filter fun a => a.tag == type

/-- There is a group for a type exactly if some activity is of the type. -/
theorem ofType_ne_nil_iff {type : String} {activities : List Activity} :
    ofType type activities ≠ [] ↔ ∃ a ∈ activities, a.tag = type := by
  rw [ofType, ne_eq, List.filter_eq_nil_iff]
  simp

/-- An activity at the end is the last one of its type, and of no other. -/
theorem ofType_append_singleton (type : String) (activities : List Activity) (a : Activity) :
    ofType type (activities ++ [a])
      = if a.tag = type then ofType type activities ++ [a] else ofType type activities := by
  rw [ofType, List.filter_append, List.filter_cons, List.filter_nil]
  by_cases htype : a.tag = type
  · simp [ofType, htype]
  · simp [ofType, htype]

/-! ### The walk -/

/-- A table groups a list of activities: a type has the activities of the type as its group, if
there are any, and else it has none. -/
def Groups (t : Table (List Activity)) (activities : List Activity) : Prop :=
  ∀ type group, t.get? type = some group ↔ group = ofType type activities ∧ group ≠ []

namespace Groups

variable {t : Table (List Activity)} {activities : List Activity}

/-- What is in the table of a type, or nothing, is the activities of the type. The step of the
walk reads the table in this way. -/
theorem getD (h : Groups t activities) (type : String) :
    (t.get? type).getD [] = ofType type activities := by
  cases hget : t.get? type with
  | some group => exact ((h type group).mp hget).1
  | none =>
    by_contra hne
    -- If there were activities of the type, the table would have a group for it.
    have hsome := (h type (ofType type activities)).mpr ⟨rfl, Ne.symm hne⟩
    rw [hget] at hsome
    cases hsome

/-- One step of the walk keeps the table grouped: the group of the new activity grows at its end,
and the others stay as they are. -/
theorem push (h : Groups t activities) (a : Activity) :
    Groups (t.insert a.tag ((t.get? a.tag).getD [] ++ [a])) (activities ++ [a]) := by
  intro type group
  rw [Table.get?_insert, ofType_append_singleton, h.getD]
  by_cases htype : a.tag = type
  · subst htype
    rw [if_pos rfl, if_pos rfl, Option.some.injEq]
    constructor
    · rintro rfl
      exact ⟨rfl, by simp⟩
    · rintro ⟨rfl, -⟩
      rfl
  · rw [if_neg htype, if_neg htype]
    exact h type group

end Groups

/-- Grouping goes through the activities from the front, so the last one is put in last. -/
theorem byType_append_singleton (activities : List Activity) (a : Activity) :
    byType (activities ++ [a]) = (byType activities).insert a.tag
      (((byType activities).get? a.tag).getD [] ++ [a]) := by
  rw [byType, List.foldl_append]
  rfl

/-- So the whole walk groups all activities, by induction from the end of the list. -/
theorem groups_byType (activities : List Activity) : Groups (byType activities) activities := by
  induction activities using List.reverseRecOn with
  | nil =>
    intro type group
    constructor
    · intro hget
      cases hget
    · rintro ⟨rfl, hne⟩
      exact absurd rfl hne
  | append_singleton activities a ih =>
    rw [byType_append_singleton]
    exact ih.push a

/-! ### Groups and types -/

/-- An entry of the table is a type with all its activities, in their order and never empty. -/
theorem mem_entries_byType_iff {activities : List Activity} {type : String}
    {group : List Activity} :
    (type, group) ∈ (byType activities).entries ↔
      group = ofType type activities ∧ group ≠ [] := by
  rw [Table.mem_entries_iff]
  exact groups_byType activities type group

/-- The types of the groups are those of the activities: no group is empty, and no activity is
without one. -/
theorem mem_keys_byType_iff {activities : List Activity} {type : String} :
    type ∈ (byType activities).keys ↔ ∃ a ∈ activities, a.tag = type := by
  rw [Table.mem_keys_iff, Option.isSome_iff_exists, ← ofType_ne_nil_iff]
  constructor
  · rintro ⟨group, hgroup⟩
    obtain ⟨rfl, hne⟩ := (groups_byType activities type group).mp hgroup
    exact hne
  · intro hne
    exact ⟨_, (groups_byType activities type _).mpr ⟨rfl, hne⟩⟩

/-- The types of the groups are the set of types, in the order of the set. Both lists increase
strictly, so it is enough that they have the same members. -/
theorem keys_byType (activities : List Activity) :
    (byType activities).keys = (Words.ofList (activities.map (·.tag))).toList := by
  refine (byType activities).pairwise_keys.eq_of_mem_iff (Table.pairwise_keys _) fun type => ?_
  rw [mem_keys_byType_iff, Words.mem_toList_ofList, List.mem_map]

/-- The groups one after the other are the activities in another order. No activity is in two
groups, because it has one type. -/
theorem perm_groups (activities : List Activity) :
    ((byType activities).entries.flatMap (·.2)).Perm activities := by
  have hgroups : (byType activities).entries.flatMap (·.2)
      = (byType activities).keys.flatMap fun type => activities.filter fun a => a.tag == type := by
    rw [Table.keys, List.flatMap_map]
    refine List.flatMap_congr fun e he => ?_
    exact (mem_entries_byType_iff.mp he).1
  -- Every activity is of one of the types.
  have hall : (activities.filter fun a => (byType activities).keys.contains a.tag)
      = activities := by
    refine List.filter_eq_self.mpr fun a ha => ?_
    exact List.contains_iff_mem.mpr (mem_keys_byType_iff.mpr ⟨a, ha, rfl⟩)
  have hperm := perm_flatMap_filter_key (·.tag) (byType activities).nodup_keys activities
  rw [hall] at hperm
  rwa [hgroups]

/-- Grouping activities by their types loses nothing. For every list of activities the types of the
groups increase, and they are the types that occur in the list. The group of a type is the
activities of the type in their order, and there is no empty group. All groups together are the
activities in another order, and their sizes add up to the number of activities.

For every text that is a document, the types of the groups of an analysis are its components, in the
same order. -/
theorem byType_groups :
    (∀ activities : List Activity,
      (byType activities).keys.Pairwise (· < ·) ∧
      (∀ type, type ∈ (byType activities).keys ↔ ∃ a ∈ activities, a.tag = type) ∧
      (∀ type group, (type, group) ∈ (byType activities).entries ↔
        group = ofType type activities ∧ group ≠ []) ∧
      ((byType activities).entries.flatMap (·.2)).Perm activities ∧
      sumOf (fun e => e.2.length) (byType activities).entries = activities.length) ∧
    ∀ (source file : String) (p : Project) (c : Config) (a : Analysis),
      Analysis.ofSource source file p c = .ok a →
        (byType a.activities).keys = a.components.toList := by
  refine ⟨fun activities => ⟨Table.pairwise_keys _, fun type => mem_keys_byType_iff,
    fun type group => mem_entries_byType_iff, perm_groups activities, ?_⟩, ?_⟩
  -- Sizes add up because all groups together are the activities.
  · rw [← length_flatMap_eq, (perm_groups activities).length_eq]
  · intro source file p c a ha
    obtain ⟨d, -, ha⟩ := bind_eq_ok_iff.mp ha
    obtain rfl := Except.ok.inj ha
    exact keys_byType d.activities

/-- A workflow with activities of three types, of which two differ in case only. -/
def mixedTypes : String :=
  "<Activity><click Level=\"1\"/><Delay/><!-- --><Click><click Level=\"2\"/></Click></Activity>"

/-- The two activities of the last type are in one group, in their order, although others are
between them. Capital letters come before small ones. -/
theorem byType_groups_mixedTypes :
    ∃ a, Analysis.ofSource mixedTypes "Main.xaml" {} {} = .ok a ∧
      (byType a.activities).keys = ["Click", "Delay", "click"] ∧
      a.components.toList = ["Click", "Delay", "click"] ∧
      (∃ group, ("click", group) ∈ (byType a.activities).entries ∧
        group.map (fun x => x.attributes.get? "Level") = [some "1", some "2"]) ∧
      sumOf (fun e => e.2.length) (byType a.activities).entries = 4 := by
  obtain ⟨a, ha, hlevels, hlength, hcomponents⟩ :
      ∃ a, Analysis.ofSource mixedTypes "Main.xaml" {} {} = .ok a ∧
        (ofType "click" a.activities).map (fun x => x.attributes.get? "Level")
          = [some "1", some "2"] ∧
        a.activities.length = 4 ∧ a.components.toList = ["Click", "Delay", "click"] :=
    exists_ok_of_any (by decide +kernel)
  obtain ⟨hgrouped, hkeys⟩ := byType_groups
  obtain ⟨-, -, hentries, -, hsum⟩ := hgrouped a.activities
  have hnames := hkeys _ _ _ _ a ha
  refine ⟨a, ha, hnames.trans hcomponents, hcomponents, ⟨_, ?_, hlevels⟩, hsum.trans hlength⟩
  refine (hentries "click" _).mpr ⟨rfl, fun hnil => ?_⟩
  rw [hnil] at hlevels
  cases hlevels

end WorkflowLint.Report
