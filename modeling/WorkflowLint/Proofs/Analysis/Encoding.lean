import WorkflowLint.Analysis.Encoding
import WorkflowLint.Proofs.Sorted

/-!
# `WorkflowLint.Proofs.Analysis.Encoding`: analyses read back from their values

An analysis is written as an object and decoded from an object by the names of
its fields. `Analysis.ofJson?_object` says that decoding gives the analysis again,
also when other members stand in front of its own: `fields?_object` picks every
field by its name and takes no notice of names that are not fields.

The parts are decoded from values of their own kind, so each has its own inverse:
texts, lists (`list?_map`), tables and sets, severities and categories by their
labels, activities and issues.
-/

set_option autoImplicit false

namespace WorkflowLint

namespace Json

/-! ### Fields by name -/

/-- Of members with different names each is found by its name. -/
theorem find?_name {members : List (String × Json)} (hnodup : (members.map (·.1)).Nodup)
    {m : String × Json} (hm : m ∈ members) :
    (members.find? fun d => d.1 == m.1) = some m := by
  induction members with
  | nil => cases hm
  | cons d rest ih =>
      obtain ⟨hd, hrest⟩ := List.nodup_cons.mp hnodup
      rcases List.mem_cons.mp hm with rfl | hm
      · simp
      · have hne : (d.1 == m.1) = false := by
          simpa using fun h : d.1 = m.1 => hd (List.mem_map.mpr ⟨m, hm, h.symm⟩)
        rw [List.find?_cons, hne]
        exact ih hrest hm

/-- Of members with different names at most one has a given name. -/
theorem length_filter_name_le {members : List (String × Json)}
    (hnodup : (members.map (·.1)).Nodup) (name : String) :
    (members.filter fun m => m.1 == name).length ≤ 1 := by
  induction members with
  | nil => simp
  | cons d rest ih =>
      obtain ⟨hd, hrest⟩ := List.nodup_cons.mp hnodup
      by_cases hname : d.1 = name
      -- This is the one, and the names of the others are different from it.
      · have hnone : (rest.filter fun m => m.1 == name) = [] := by
          rw [List.filter_eq_nil_iff]
          intro m hm
          simpa using fun h : m.1 = name => hd (List.mem_map.mpr ⟨m, hm, h.trans hname.symm⟩)
        rw [List.filter_cons, if_pos (by simp [hname]), hnone]
        simp
      · rw [List.filter_cons, if_neg (by simp [hname])]
        exact ih hrest

/-- The fields of a record are found by their names, behind members with other
names. -/
theorem fields?_object (others members : List (String × Json))
    (hnodup : (members.map (·.1)).Nodup)
    (hothers : ∀ m ∈ others, m.1 ∉ members.map (·.1)) :
    fields? (members.map (·.1)) (.object (others ++ members))
      = some (members.map fun m => some m.2) := by
  -- The search for a name passes over all of the other members.
  have hnot : ∀ m ∈ members, ∀ d ∈ others, (d.1 == m.1) = false := by
    intro m hm d hd
    simpa using fun h : d.1 = m.1 => hothers d hd (List.mem_map.mpr ⟨m, hm, h.symm⟩)
  rw [fields?, if_pos]
  · rw [List.map_map]
    refine congrArg some (List.map_congr_left fun m hm => ?_)
    have hnone : (others.find? fun d => d.1 == m.1) = none :=
      List.find?_eq_none.mpr fun d hd => by simp [hnot m hm d hd]
    simp [List.find?_append, hnone, find?_name hnodup hm]
  -- No field is given twice, which would be an error of its own.
  · rw [List.all_map, List.all_eq_true]
    intro m hm
    have hnone : (others.filter fun d => d.1 == m.1) = [] :=
      List.filter_eq_nil_iff.mpr fun d hd => by simp [hnot m hm d hd]
    simp only [Function.comp_apply, List.filter_append, hnone, List.nil_append]
    exact decide_eq_true (length_filter_name_le hnodup m.1)

/-! ### Lists, tables and sets -/

/-- A list is decoded item by item, so a list of encoded items comes back as soon as each item
does; nothing has to be known of the items besides. -/
theorem list?_map {α : Type} {decode : Json → Option α} {encode : α → Json}
    (h : ∀ a, decode (encode a) = some a) (l : List α) :
    (Json.array (l.map encode)).list? decode = some l := by
  rw [list?, List.mapM_map]
  induction l with
  | nil => rfl
  | cons a rest ih => simp [h, ih]

/-- A table is decoded from its object. The entries are put into a new table one by one, and since
they come in order of their keys, that is the same table. -/
theorem table?_ofTable (t : Table String) : (ofTable t).table? = some t := by
  have hentries : (t.entries.map fun e => (e.1, Json.string e.2)).mapM
      (fun m => m.2.string?.map fun s => (m.1, s)) = some t.entries := by
    rw [List.mapM_map]
    exact List.mapM_pure.trans (congrArg some (List.map_id _))
  rw [ofTable, table?, hentries]
  exact congrArg some (Table.ofList_entries t)

end Json

namespace Analysis

/-- A list of texts is decoded from its value, in the order that it was written in. -/
theorem texts?_ofStrings (l : List String) : texts? (.ofStrings l) = some l :=
  Json.list?_map (fun s => (rfl : (Json.string s).string? = some s)) l

/-- A set of texts is decoded from the list of its members, which are in order and without
repetition. -/
theorem words?_ofStrings (s : Words) : words? (.ofStrings s.toList) = some s := by
  rw [words?, texts?_ofStrings]
  exact congrArg some (Words.ofList_toList s)

end Analysis

/-! ### Records -/

/-- A severity is decoded from its label: no two severities share one. -/
theorem Severity.ofJson_label (s : Severity) : Severity.ofJson (.string s.label) = .ok s := by
  cases s <;> rfl

/-- A category is decoded from its label, which no other category has. -/
theorem Category.ofJson_label (c : Category) : Category.ofJson (.string c.label) = .ok c := by
  cases c <;> rfl

/-- An activity is decoded from its object: its three texts are found by name, and its attributes
are a table of texts. -/
theorem Activity.ofJson?_toJson (a : Activity) : Activity.ofJson? a.toJson = some a := by
  have hfields : a.toJson.fields? ["name", "type", "purpose", "attributes"]
      = some [some (.string a.name), some (.string a.tag), some (.string a.purpose),
          some (.ofTable a.attributes)] :=
    Json.fields?_object []
      [("name", .string a.name), ("type", .string a.tag), ("purpose", .string a.purpose),
        ("attributes", .ofTable a.attributes)] (by simp) (by simp)
  rw [Activity.ofJson?, hfields]
  -- The texts decode by computation, and the table remains.
  show ((Json.table? (.ofTable a.attributes)).bind fun attributes =>
    some { a with attributes }) = some a
  rw [Json.table?_ofTable]
  rfl

/-- An issue is decoded from its object. Seven texts are found by name, and two of them have to be
labels. -/
theorem Issue.ofJson?_toJson (i : Issue) : Issue.ofJson? i.toJson = some i := by
  have hfields : i.toJson.fields?
      ["rule_id", "severity", "category", "title", "description", "location", "solution"]
      = some [some (.string i.rule), some (.string i.severity.label),
          some (.string i.category.label), some (.string i.title), some (.string i.description),
          some (.string i.location), some (.string i.solution)] :=
    Json.fields?_object []
      [("rule_id", .string i.rule), ("severity", .string i.severity.label),
        ("category", .string i.category.label), ("title", .string i.title),
        ("description", .string i.description), ("location", .string i.location),
        ("solution", .string i.solution)] (by simp) (by simp)
  rw [Issue.ofJson?, hfields]
  show ((Severity.ofJson (.string i.severity.label)).toOption.bind fun severity =>
    (Category.ofJson (.string i.category.label)).toOption.bind fun category =>
      some { i with severity, category }) = some i
  rw [Severity.ofJson_label, Category.ofJson_label]
  rfl

/-- The names of the fields are different, so that a reader that goes by name cannot take one
field for another. -/
theorem Analysis.nodup_fieldNames : Analysis.fieldNames.Nodup := by
  simp [Analysis.fieldNames]

/-- An analysis is decoded from an object that holds its members, whatever members
with other names stand in front of them. -/
theorem Analysis.ofJson?_object (a : Analysis) (others : List (String × Json))
    (hothers : ∀ m ∈ others, m.1 ∉ Analysis.fieldNames) :
    Analysis.ofJson? (.object (others ++ a.members)) = some a := by
  have hfields : Json.fields? Analysis.fieldNames (.object (others ++ a.members))
      = some (a.members.map fun m => some m.2) :=
    Json.fields?_object others a.members Analysis.nodup_fieldNames hothers
  have hactivities := Json.list?_map Activity.ofJson?_toJson a.activities
  have hissues := Json.list?_map Issue.ofJson?_toJson a.issues
  rw [Analysis.ofJson?, hfields]
  -- Texts and the score decode by computation; the other fields are decoded one by one.
  show (((Json.array (a.activities.map Activity.toJson)).list? Activity.ofJson?).bind
    fun activities => (texts? (.ofStrings a.declared)).bind
    fun declared => ((Json.array (a.issues.map Issue.toJson)).list? Issue.ofJson?).bind
    fun issues => (texts? (.ofStrings a.recommendations)).bind
    fun recommendations => (Json.table? (.ofTable a.dependencies)).bind
    fun dependencies => (words? (.ofStrings a.urls.toList)).bind
    fun urls => (words? (.ofStrings a.connections.toList)).bind
    fun connections => (words? (.ofStrings a.components.toList)).bind
    fun components => some { a with
      activities, declared, issues, recommendations, dependencies, urls, connections,
      components }) = some a
  rw [hactivities, Option.bind_some, texts?_ofStrings, Option.bind_some, hissues,
    Option.bind_some, texts?_ofStrings, Option.bind_some, Json.table?_ofTable, Option.bind_some,
    words?_ofStrings, Option.bind_some, words?_ofStrings, Option.bind_some, words?_ofStrings,
    Option.bind_some]

end WorkflowLint
