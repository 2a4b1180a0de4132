import WorkflowLint.Analysis.File
import WorkflowLint.Proofs.Json.Record
import WorkflowLint.Proofs.Sorted

/-!
# `WorkflowLint.Proofs.Analysis.Metadata`: what a project file contributes

A workflow is analysed with a project, and the project comes from a file that may be missing, be
unreadable or hold anything. `ofFile_cases` says what can come of a workflow: the project enters in
one place, behind the two steps that can fail. So the project decides neither whether there is an
analysis nor what it says, apart from the name and the packages, and a project file that is of no
use is as good as none (`ofFile_of_useless`).

The packages are those of the file. `ListsPackages` compares them with what the file gives under
their name, and `listsPackages_ofText` proves it of every text that describes a project. Like other
fields they may be given by an object or by a list, and may be left out (`Json.Decode.record_part`).
-/

set_option autoImplicit false

namespace WorkflowLint

open Json (Reading Fault isKey isKey_eq_true_iff)
open Json.Decode (Writes Takes)

/-! ### Packages -/

/-- The last value that members give to a key. -/
def lastValue? (key : String) (members : List (Except Fault String × Reading)) : Option Reading :=
  (members.reverse.find? fun m => isKey key m.1).map (·.2)

namespace Project

/-- What the text of a project file gives as the packages. -/
def givenPackages? (text : String) : Option Reading :=
  (Json.Script.read text).reading.given? (fields.map (·.name)) "dependencies"

/-- Packages as a project file gives them: none if nothing is given, and otherwise an object that
has their names as its keys. A version that is a text is that text. -/
def ListsPackages (given : Option Reading) (packages : Table String) : Prop :=
  match given with
  | none => packages.keys = []
  | some r => ∃ members, r = .object members none ∧
      (∀ key, key ∈ packages.keys ↔ ∃ m ∈ members, m.1 = .ok key) ∧
      ∀ key s, lastValue? key members = some (.string (.ok s)) → packages.get? key = some s

/-- Only the field of the packages sets them: the other fields of a project file leave them as
they are. -/
theorem writes_dependencies : Writes fields "dependencies" Project.dependencies packages where
  own f hf hname s r s' h := by
    simp only [fields, List.mem_cons, List.not_mem_nil, or_false] at hf
    obtain rfl | rfl | rfl | rfl := hf
    -- The other three fields have other names.
    · exact absurd hname (by decide)
    · exact absurd hname (by decide)
    · exact absurd hname (by decide)
    · obtain ⟨t, ht, hs⟩ := bind_eq_ok_iff.mp h
      obtain rfl := Except.ok.inj hs
      exact ht
  other f hf hname s r s' h := by
    simp only [fields, List.mem_cons, List.not_mem_nil, or_false] at hf
    obtain rfl | rfl | rfl | rfl := hf
    case inr.inr.inr => exact absurd rfl hname
    all_goals
      obtain ⟨t, -, hs⟩ := bind_eq_ok_iff.mp h
      obtain rfl := Except.ok.inj hs
      rfl

/-- Where members are decoded to entries one by one, the first member with a key is decoded to the
first entry with this key. -/
theorem find?_of_forall₂ {found : List (String × Json)}
    {members : List (Except Fault String × Reading)} {r : Reading} {key : String}
    (h : List.Forall₂ (fun m e => m.1 = .ok e.1 ∧ Json.Decode.any 2 m.2 = .ok e.2) members found)
    (hfind : (members.find? fun m => isKey key m.1).map (·.2) = some r) :
    ∃ v, (found.find? fun e => e.1 == key) = some (key, v) ∧ Json.Decode.any 2 r = .ok v := by
  induction h with
  | nil => cases hfind
  | @cons m e members found hme _ ih =>
    -- Member and entry have the same key, so both searches stop here or both go on.
    by_cases hkey : e.1 = key
    · have hm : isKey key m.1 = true := isKey_eq_true_iff.mpr (hkey ▸ hme.1)
      rw [List.find?_cons_of_pos (by exact hm)] at hfind
      obtain rfl : m.2 = r := Option.some.inj hfind
      refine ⟨e.2, ?_, hme.2⟩
      rw [List.find?_cons_of_pos (by simpa using hkey), ← hkey]
    · have hm : ¬isKey key m.1 = true := by
        rw [isKey_eq_true_iff, hme.1]
        exact fun heq => hkey (Except.ok.inj heq)
      rw [List.find?_cons_of_neg (by exact hm)] at hfind
      rw [List.find?_cons_of_neg (by simpa using hkey)]
      exact ih hfind

/-- Decoded packages are those that an object lists. Of several versions under one name the last
one counts, so the search goes through the members from the end. -/
theorem listsPackages_of_packages {r : Reading} {t : Table String} (h : packages r = .ok t) :
    ListsPackages (some r) t := by
  obtain ⟨values, hvalues, ht⟩ := bind_eq_ok_iff.mp h
  obtain rfl := Except.ok.inj ht
  obtain ⟨members, found, rfl, hfound, rfl⟩ := Json.Decode.table_eq_ok_iff.mp hvalues
  have hpairs := Json.Decode.members_eq_ok_iff.mp hfound
  refine ⟨members, rfl, fun key => ?_, fun key s hlast => ?_⟩
  · rw [Table.keys_map, Table.mem_keys_ofList]
    -- Each member was decoded to an entry with its key.
    have hkeys : members.map (·.1) = found.map fun e => .ok e.1 := by
      rw [← List.forall₂_eq_eq_eq, List.forall₂_map_left_iff, List.forall₂_map_right_iff]
      exact hpairs.imp fun m e hme => hme.1
    have hmem : (∃ m ∈ members, m.1 = .ok key) ↔ .ok key ∈ members.map (·.1) := by simp
    rw [hmem, hkeys]
    simp
  -- The table keeps the last entry, which is the first one from the end.
  · obtain ⟨v, hv, hs⟩ := find?_of_forall₂ (List.forall₂_reverse_iff.mpr hpairs) hlast
    obtain rfl : Json.string s = v := Except.ok.inj hs
    rw [Table.get?_map, Table.get?_ofList, hv]
    rfl

/-- A text that describes a project gives its packages. If it gives none, the project has none. -/
theorem listsPackages_ofText {text : String} {p : Project} (h : ofText text = .ok p) :
    ListsPackages (givenPackages? text) p.dependencies := by
  obtain ⟨hdecode, -⟩ := Json.Decode.fromText_eq_ok_iff.mp h
  have htakes := Json.Decode.record_part writes_dependencies (by decide) (by decide) hdecode
  rw [← givenPackages?] at htakes
  cases hgiven : givenPackages? text with
  | none =>
    rw [hgiven] at htakes
    show p.dependencies.keys = []
    rw [show p.dependencies = .empty from htakes]
    rfl
  | some r =>
    rw [hgiven] at htakes
    exact listsPackages_of_packages htakes

/-- A project file that cannot be read or understood leads to the project that there is without
one. -/
theorem loadOrDefault_of_useless {fs : FileSystem} {file : String}
    (h : ∀ text p, fs.read file = .ok text → ofText text ≠ .ok p) :
    (loadOrDefault fs (some file)).1 = {} := by
  rw [loadOrDefault, load]
  cases hread : fs.read file with
  | error e => rfl
  | ok text =>
    cases htext : ofText text with
    | error e => simp [htext]
    | ok p => exact absurd htext (h text p hread)

/-- And one that can be understood leads to the project that it describes. -/
theorem loadOrDefault_of_ofText {fs : FileSystem} {file text : String} {p : Project}
    (hread : fs.read file = .ok text) (htext : ofText text = .ok p) :
    (loadOrDefault fs (some file)).1 = p := by
  simp [loadOrDefault, load, hread, htext]

end Project

/-! ### Analyses -/

/-- What an error says about a workflow is the case: it cannot be read, or its text is no XML. -/
def AnalysisError.Holds (fs : FileSystem) (path : String) : AnalysisError → Prop
  | unreadable p e => p = path ∧ fs.read path = .error e
  | malformed p e => p = path ∧ ∃ source, fs.read path = .ok source ∧ Xml.read source = .error e

namespace Analysis

section
variable (fs : FileSystem) (path : String) (c : Config)

/-- A workflow has no analysis with any project, for a reason that lies in the workflow; or it is a
document, and the project comes in only when that is analysed. -/
theorem ofFile_cases :
    (∃ e, e.Holds fs path ∧ ∀ file?, (ofFile fs path file? c).result = .error e) ∨
    ∃ source root, fs.read path = .ok source ∧ Xml.read source = .ok root ∧
      ∀ file?, (ofFile fs path file? c).result
        = .ok (ofDocument ⟨path, source, root⟩ (Project.loadOrDefault fs file?).1 c) := by
  -- Two steps can fail, and the project comes in behind both.
  cases hread : fs.read path with
  | error e =>
    refine .inl ⟨.unreadable path e, ⟨rfl, hread⟩, fun file? => ?_⟩
    rw [ofFile, hread]
  | ok source =>
    have hresult (file? : Option String) : (ofFile fs path file? c).result
        = ofText source path (Project.loadOrDefault fs file?).1 c := by
      rw [ofFile, hread]
    cases hxml : Xml.read source with
    | error e =>
      refine .inl ⟨.malformed path e, ⟨rfl, source, hread, hxml⟩, fun file? => ?_⟩
      rw [hresult, ofText, ofSource, Document.read, hxml]
      rfl
    | ok root =>
      refine .inr ⟨source, root, rfl, hxml, fun file? => ?_⟩
      rw [hresult, ofText, ofSource, Document.read, hxml]
      rfl

/-- So a project file that is of no use is as good as none for the analysis of a workflow. -/
theorem ofFile_of_useless {file : String}
    (h : ∀ text p, fs.read file = .ok text → Project.ofText text ≠ .ok p) :
    (ofFile fs path (some file) c).result = (ofFile fs path none c).result := by
  obtain ⟨e, -, hresult⟩ | ⟨source, root, -, -, hresult⟩ := ofFile_cases fs path c
  · rw [hresult, hresult]
  · rw [hresult, hresult, Project.loadOrDefault_of_useless h]
    rfl

/-- The packages in an analysis are those of the project that the file describes. -/
theorem dependencies_of_ofFile {file text : String} {p : Project} {a : Analysis}
    (hread : fs.read file = .ok text) (htext : Project.ofText text = .ok p)
    (h : (ofFile fs path (some file) c).result = .ok a) : a.dependencies = p.dependencies := by
  obtain ⟨e, -, hresult⟩ | ⟨source, root, -, -, hresult⟩ := ofFile_cases fs path c
  · cases (hresult _).symm.trans h
  · rw [hresult, Project.loadOrDefault_of_ofText hread htext] at h
    obtain rfl := Except.ok.inj h
    rfl

/-- The project is context. Whatever is given as the project file, a workflow has an analysis or
has none, for the same reason, and two analyses of it differ in nothing but the name and the
packages. A project file that cannot be read or understood is as good as none, and the packages of
one that can are those that it lists. -/
theorem ofFile_metadata :
    (∀ file? other? : Option String,
      (∃ e, (ofFile fs path file? c).result = .error e ∧
        (ofFile fs path other? c).result = .error e ∧ e.Holds fs path) ∨
      ∃ a name packages, (ofFile fs path file? c).result = .ok a ∧
        (ofFile fs path other? c).result
          = .ok { a with workflowName := name, dependencies := packages }) ∧
    (∀ file, (∀ text p, fs.read file = .ok text → Project.ofText text ≠ .ok p) →
      (ofFile fs path (some file) c).result = (ofFile fs path none c).result) ∧
    ∀ file text p a, fs.read file = .ok text → Project.ofText text = .ok p →
      (ofFile fs path (some file) c).result = .ok a →
      Project.ListsPackages (Project.givenPackages? text) a.dependencies := by
  refine ⟨fun file? other? => ?_, fun file => ofFile_of_useless fs path c, ?_⟩
  · obtain ⟨e, hholds, hresult⟩ | ⟨source, root, -, -, hresult⟩ := ofFile_cases fs path c
    · exact .inl ⟨e, hresult file?, hresult other?, hholds⟩
    · exact .inr ⟨_, _, _, hresult file?, hresult other?⟩
  · intro file text p a hread htext h
    rw [dependencies_of_ofFile fs path c hread htext h]
    exact Project.listsPackages_ofText htext

end

/-- A project file with two packages, the version of one being no text. -/
def twoPackages : String :=
  "\x7b\"dependencies\": \x7b\"Mail\": \"[1.2]\", \"Excel\": 3\x7d\x7d"

/-- A workflow beside a project file and something that is none. -/
def besideProject : FileSystem where
  root := .directory [("Main.xaml", .file "<Activity />".toUTF8),
    ("project.json", .file twoPackages.toUTF8), ("broken.json", .file "\x7b".toUTF8)]
  here := []

/-- The workflow has an analysis with the project file, and without a project it has one that
differs in the name and the packages. What is no project file is as good as none. Both packages are
listed, and the version that is a text is kept. -/
theorem ofFile_metadata_twoPackages :
    let result (file? : Option String) := (ofFile besideProject "Main.xaml" file? {}).result
    (∃ a name packages, result (some "project.json") = .ok a ∧
      result none = .ok { a with workflowName := name, dependencies := packages }) ∧
    result (some "broken.json") = result none ∧
    ∃ a, result (some "project.json") = .ok a ∧ "Excel" ∈ a.dependencies.keys ∧
      a.dependencies.get? "Mail" = some "[1.2]" := by
  intro result
  obtain ⟨htwo, huseless, hpackages⟩ := ofFile_metadata besideProject "Main.xaml" {}
  obtain ⟨a, ha⟩ : ∃ a, result (some "project.json") = .ok a := exists_eq_ok (by decide +kernel)
  refine ⟨?_, huseless _ fun text p hread htext => ?_, a, ha, ?_⟩
  · obtain ⟨e, he, -⟩ | hok := htwo (some "project.json") none
    · cases ha.symm.trans he
    · exact hok
  · have hbrace : besideProject.read "broken.json" = .ok "\x7b" := by decide +kernel
    obtain rfl := Except.ok.inj (hbrace.symm.trans hread)
    have hbroken : (Project.ofText "\x7b").isOk = false := by decide +kernel
    simp [htext, Except.isOk, Except.toBool] at hbroken
  · obtain ⟨p, hp⟩ : ∃ p, Project.ofText twoPackages = .ok p := exists_eq_ok (by decide +kernel)
    have hgiven : Project.givenPackages? twoPackages = some (.object
      [(.ok "Mail", .string (.ok "[1.2]")), (.ok "Excel", .number (.ok (.integer 3)))] none) := by
      rfl
    have hlists := hpackages "project.json" twoPackages p a (by decide +kernel) hp ha
    rw [hgiven] at hlists
    obtain ⟨members, hmembers, hkeys, hvalues⟩ := hlists
    obtain ⟨rfl, -⟩ := Reading.object.inj hmembers
    exact ⟨(hkeys "Excel").mpr (by simp), hvalues "Mail" "[1.2]" rfl⟩

end Analysis

end WorkflowLint
