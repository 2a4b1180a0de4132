import Mathlib.Data.List.Nodup
import WorkflowLint.CommandLine.Run
import WorkflowLint.Proofs.Analysis.Metadata
import WorkflowLint.Proofs.CommandLine.Collection
import WorkflowLint.Proofs.FileSystem.Address

/-!
# `WorkflowLint.Proofs.CommandLine.Spelling`: how often a file is listed

No path is collected twice, but a full stop in front makes another path of the same file. The files
that an argument means are spelled as the argument is (`Means.startsHere_eq`), and nothing else about
the spelling is left when paths are compared. So a file is listed once for each of the two spellings
in which some argument reaches it (`mem_map_spelling_collect`, `nodup_map_spelling_collect`): once as
a rule, and twice if one argument has the full stop and another one does not.

`Inputs.collect_listed` says so for relative arguments that do not lead up, where bare components
tell files apart. A file that can be analysed is in the report as often as it is listed, because
what comes of a file depends on its text alone (`isOk_resultOf_iff`).
-/

set_option autoImplicit false

namespace WorkflowLint.CommandLine

/-- What tells collected paths apart: the full stop in front, and the bare components. -/
def spelling (path : String) : Bool × List Path.Component := (Path.startsHere path, Path.bare path)

/-- How often paths with the same bare components are listed. -/
def listed (files : List String) (b : List Path.Component) : ℕ := (files.map Path.bare).count b

/-- The two spellings of a file are listed apart from each other, so their numbers add up. -/
theorem listed_eq_add (files : List String) (b : List Path.Component) :
    listed files b
      = (files.map spelling).count (true, b) + (files.map spelling).count (false, b) := by
  induction files with
  | nil => rfl
  | cons f files ih =>
    have hf : spelling f = (Path.startsHere f, Path.bare f) := rfl
    rw [listed] at ih ⊢
    rw [List.map_cons, List.map_cons, List.count_cons, List.count_cons, List.count_cons, ih, hf]
    cases Path.startsHere f with
    | true =>
      simp only [beq_iff_eq, Prod.mk.injEq, true_and, Bool.true_eq_false, false_and, if_false]
      omega
    | false =>
      simp only [beq_iff_eq, Prod.mk.injEq, true_and, Bool.false_eq_true, false_and, if_false]
      omega

/-! ### The spelling of what an argument means -/

section
variable {fs : FileSystem} {c : Config}

/-- The path of a file that an argument means is the argument with names joined to it, none of
them if the argument is the file itself. -/
theorem Means.exists_eq_foldl_join (hfs : fs.root.WellFormed) {a x : String}
    (h : Means fs c a x) :
    ∃ names : List String, x = names.foldl Path.join a ∧
      (∀ name ∈ names, FileSystem.IsName name) ∧ a ≠ "" := by
  -- The empty path is refused, so an argument that leads somewhere is not empty.
  have hne {w : FileSystem.Way} (hway : fs.way a = .ok w) : a ≠ "" :=
    (FileSystem.refusal?_eq_none_iff.mp (FileSystem.way_eq_ok_iff.mp hway).1).2.1
  cases h with
  | file hfile =>
    obtain ⟨w, hway⟩ := FileSystem.exists_way_of_isFile hfile
    exact ⟨[], rfl, fun _ hname => absurd hname List.not_mem_nil, hne hway⟩
  | walked _ hyields _ _ =>
    obtain ⟨entries, names, content, hfind, hleads, rfl, -⟩ := hyields
    obtain ⟨s, up, hway⟩ := FileSystem.find_eq_ok_iff.mp hfind
    have hnames := (FileSystem.wellFormed_of_find hfs hfind).isName_of_leads hleads
    exact ⟨names, rfl, hnames, hne hway⟩

/-- So the path starts with a full stop exactly if the argument does: names are joined behind its
components. -/
theorem Means.startsHere_eq (hfs : fs.root.WellFormed) {a x : String} (h : Means fs c a x) :
    Path.startsHere x = Path.startsHere a := by
  obtain ⟨names, rfl, hnames, ha⟩ := h.exists_eq_foldl_join hfs
  rw [Path.startsHere, Path.startsHere, Path.components_foldl_join hnames ha]
  -- Where the argument has a component, it is the first one of the path as well.
  cases Path.components a with
  | nil => cases names <;> rfl
  | cons first rest => rfl

/-- And it does not lead up if the argument does not. -/
theorem Means.descends (hfs : fs.root.WellFormed) {a x : String} (h : Means fs c a x)
    (hdescends : Path.Descends a) : Path.Descends x := by
  obtain ⟨names, rfl, hnames, ha⟩ := h.exists_eq_foldl_join hfs
  exact hdescends.foldl_join hnames ha

/-- Some argument that is spelled with a full stop in front, or some argument that is not, means a
file with these bare components. -/
def Reaches (fs : FileSystem) (c : Config) (paths : List String) (dotted : Bool)
    (b : List Path.Component) : Prop :=
  ∃ a ∈ paths, Path.startsHere a = dotted ∧ ∃ x, Means fs c a x ∧ Path.bare x = b

/-! ### What comes of a file -/

/-- A file can be analysed exactly if it can be read as a text and the text is XML. Neither the
project nor the settings decide that. -/
theorem isOk_resultOf_iff {s : Settings} {file : String} :
    (resultOf fs s c file).result.isOk = true ↔
      ∃ source root, fs.read file = .ok source ∧ Xml.read source = .ok root := by
  obtain ⟨e, hholds, hresult⟩ | ⟨source, root, hread, hxml, hresult⟩ :=
    Analysis.ofFile_cases fs file c
  · rw [resultOf, hresult]
    refine iff_of_false Bool.false_ne_true ?_
    rintro ⟨source, root, hread, hxml⟩
    cases e with
    | unreadable p e => cases hholds.2.symm.trans hread
    | malformed p e =>
      obtain ⟨-, source', hread', hxml'⟩ := hholds
      obtain rfl := Except.ok.inj (hread'.symm.trans hread)
      cases hxml'.symm.trans hxml
  · rw [resultOf, hresult]
    exact iff_of_true rfl ⟨source, root, hread, hxml⟩

/-- The analyses are those of the files that have one, in their order, each with the path of its
file. -/
theorem map_file_analysesOf (s : Settings) (files : List String) :
    (analysesOf (files.map (resultOf fs s c))).map (·.file)
      = files.filter fun f => (resultOf fs s c f).result.isOk := by
  induction files with
  | nil => rfl
  | cons f files ih =>
    rw [analysesOf] at ih ⊢
    rw [List.map_cons, List.filterMap_cons, List.filter_cons]
    obtain ⟨e, -, hresult⟩ | ⟨source, root, -, -, hresult⟩ := Analysis.ofFile_cases fs f c
    · rw [resultOf, hresult]
      exact ih
    · rw [resultOf, hresult]
      exact congrArg (f :: ·) ih

/-- A file is in the report as often as it is listed, or not at all. All spellings of it have the
same text, so either each of them can be analysed or none. -/
theorem listed_analysesOf {s : Settings} {files : List String} {f : String}
    (h : ∀ g ∈ files, Path.bare g = Path.bare f → fs.read g = fs.read f) :
    listed ((analysesOf (files.map (resultOf fs s c))).map (·.file)) (Path.bare f)
      = if (resultOf fs s c f).result.isOk then listed files (Path.bare f) else 0 := by
  have hsame (g : String) (hg : g ∈ files) (hbare : Path.bare g = Path.bare f) :
      (resultOf fs s c g).result.isOk = (resultOf fs s c f).result.isOk := by
    rw [Bool.eq_iff_iff, isOk_resultOf_iff, isOk_resultOf_iff, h g hg hbare]
  rw [map_file_analysesOf, listed, listed, List.count_eq_countP, List.count_eq_countP,
    List.countP_map, List.countP_map, List.countP_filter]
  split
  case isTrue hok =>
    refine List.countP_congr fun g hg => ?_
    by_cases hbare : Path.bare g = Path.bare f
    · simp [hbare, hsame g hg hbare, hok]
    · simp [hbare]
  -- None of the spellings has an analysis.
  case isFalse hnot =>
    refine List.countP_eq_zero.mpr fun g hg => ?_
    by_cases hbare : Path.bare g = Path.bare f
    · simp [hbare, hsame g hg hbare, hnot]
    · simp [hbare]

end

/-! ### Collected files -/

namespace Inputs

/-- Two paths are compared by the full stop in front and by their bare components, and by nothing
else. -/
theorem key_eq_iff {p q : String} : Path.key p = Path.key q ↔ spelling p = spelling q := by
  rw [Path.key, Path.key, (List.map_injective_iff.mpr Path.Component.key_injective).eq_iff,
    Path.components_eq_iff, spelling, spelling, Prod.mk.injEq]

section
variable {fs : FileSystem} {c : Config} {paths : List String}

/-- No spelling of a file is collected twice: paths with one spelling are the same path, and the
files are in strict order. -/
theorem nodup_map_spelling_collect : ((collect fs c paths).files.map spelling).Nodup := by
  rw [List.Nodup, List.pairwise_map]
  -- The files are in strict order, and files that are spelled alike would be level.
  refine (List.pairwise_map.mp (pairwise_collect fs c paths)).imp fun hlt heq => ?_
  exact hlt.ne (key_eq_iff.mpr heq)

/-- A spelling is collected exactly if some argument with this spelling means the file. -/
theorem mem_map_spelling_collect (hfs : fs.root.WellFormed) {dotted : Bool}
    {b : List Path.Component} :
    (dotted, b) ∈ (collect fs c paths).files.map spelling ↔ Reaches fs c paths dotted b := by
  constructor
  · intro h
    obtain ⟨f, hf, hspelling⟩ := List.mem_map.mp h
    obtain ⟨a, ha, hmeans⟩ := exists_means_of_mem_collect fs c paths hf
    obtain ⟨rfl, rfl⟩ := Prod.mk.inj hspelling
    exact ⟨a, ha, (hmeans.startsHere_eq hfs).symm, f, hmeans, rfl⟩
  · rintro ⟨a, ha, rfl, x, hmeans, rfl⟩
    -- Of the paths that are the same as this one another may be left, but it is spelled alike.
    have hkey := (mem_map_key_collect fs c paths).mpr ⟨a, ha, x, hmeans, rfl⟩
    obtain ⟨f, hf, hfx⟩ := List.mem_map.mp hkey
    refine List.mem_map.mpr ⟨f, hf, ?_⟩
    rw [key_eq_iff.mp hfx, spelling, hmeans.startsHere_eq hfs]

/-- A file is listed once for each spelling in which it is reached. -/
theorem listed_collect (hfs : fs.root.WellFormed) (b : List Path.Component) :
    listed (collect fs c paths).files b ≤ 2 ∧
    (1 ≤ listed (collect fs c paths).files b ↔
      Reaches fs c paths true b ∨ Reaches fs c paths false b) ∧
    (2 ≤ listed (collect fs c paths).files b ↔
      Reaches fs c paths true b ∧ Reaches fs c paths false b) := by
  rw [listed_eq_add, nodup_map_spelling_collect.count, nodup_map_spelling_collect.count,
    ← mem_map_spelling_collect hfs, ← mem_map_spelling_collect hfs]
  -- Both spellings, one of them, or none.
  split_ifs with htrue hfalse hfalse
  · simp [htrue, hfalse]
  · simp [htrue, hfalse]
  · simp [htrue, hfalse]
  · simp [htrue, hfalse]

/-- No collected path leads up if no argument does. A file is an argument itself or was found
below one by going down. -/
theorem descends_of_mem_collect (hfs : fs.root.WellFormed) (hpaths : ∀ a ∈ paths, Path.Descends a)
    {f : String} (hf : f ∈ (collect fs c paths).files) : Path.Descends f := by
  obtain ⟨a, ha, hmeans⟩ := exists_means_of_mem_collect fs c paths hf
  exact hmeans.descends hfs (hpaths a ha)

/-- Two collected paths mean the same file exactly if they have the same bare components. -/
theorem address?_collect (hfs : fs.root.WellFormed) (hpaths : ∀ a ∈ paths, Path.Descends a)
    {f g : String} (hf : f ∈ (collect fs c paths).files) (hg : g ∈ (collect fs c paths).files) :
    fs.address? f = fs.address? g ↔ Path.bare f = Path.bare g := by
  obtain ⟨w, hway⟩ := FileSystem.exists_way_of_isFile (isFile_of_mem_collect fs c paths hfs hf)
  obtain ⟨w', hway'⟩ := FileSystem.exists_way_of_isFile (isFile_of_mem_collect fs c paths hfs hg)
  exact FileSystem.address?_eq_iff (descends_of_mem_collect hfs hpaths hf)
    (descends_of_mem_collect hfs hpaths hg) hway hway'

/-- Collected from relative arguments that do not lead up, two files are the same exactly if they
have the same bare components. A file is listed at most twice, and twice exactly if one argument
that reaches it is spelled with a full stop in front and another one is not. So no file is listed
twice exactly if there are no such arguments. In the report a file is as often as it is listed, if
it can be analysed. -/
theorem collect_listed (hfs : fs.root.WellFormed) (hpaths : ∀ a ∈ paths, Path.Descends a) :
    let files := (collect fs c paths).files
    (∀ f ∈ files, ∀ g ∈ files, fs.address? f = fs.address? g ↔ Path.bare f = Path.bare g) ∧
    (∀ b, listed files b ≤ 2 ∧
      (1 ≤ listed files b ↔ Reaches fs c paths true b ∨ Reaches fs c paths false b) ∧
      (2 ≤ listed files b ↔ Reaches fs c paths true b ∧ Reaches fs c paths false b)) ∧
    ((files.map fs.address?).Nodup ↔
      ∀ b, ¬(Reaches fs c paths true b ∧ Reaches fs c paths false b)) ∧
    ∀ s, ∀ f ∈ files,
      listed ((analysesOf (files.map (resultOf fs s c))).map (·.file)) (Path.bare f)
        = if (resultOf fs s c f).result.isOk then listed files (Path.bare f) else 0 := by
  intro files
  refine ⟨fun f hf g hg => address?_collect hfs hpaths hf hg, listed_collect hfs, ?_, ?_⟩
  · have hbare : (files.map fs.address?).Nodup ↔ (files.map Path.bare).Nodup := by
      rw [List.Nodup, List.Nodup, List.pairwise_map, List.pairwise_map]
      exact List.Pairwise.iff_of_mem fun hf hg => not_congr (address?_collect hfs hpaths hf hg)
    rw [hbare, List.nodup_iff_count_le_one]
    refine forall_congr' fun b => ?_
    rw [← (listed_collect hfs b).2.2]
    exact Nat.not_lt.symm
  · intro s f hf
    refine listed_analysesOf fun g hg hbare => ?_
    exact FileSystem.read_eq_of_bare_eq (descends_of_mem_collect hfs hpaths hg)
      (descends_of_mem_collect hfs hpaths hf) (isFile_of_mem_collect fs c paths hfs hg)
      (isFile_of_mem_collect fs c paths hfs hf) hbare

end

/-- A directory with one workflow in it. -/
def oneFlow : FileSystem where
  root := .directory [("Main.xaml", .file "<Activity />".toUTF8)]
  here := []

/-- The workflow is given by its name and is in the directory that is given as a full stop. It is
collected twice, and it is in the report twice. -/
theorem collect_listed_oneFlow :
    let files := (collect oneFlow {} [".", "Main.xaml"]).files
    ¬(files.map oneFlow.address?).Nodup ∧ listed files [.name "Main.xaml"] = 2 ∧
      listed ((analysesOf (files.map (resultOf oneFlow {} {}))).map (·.file))
        [.name "Main.xaml"] = 2 := by
  have hfs : oneFlow.root.WellFormed := by
    refine Entry.wellFormed_directory (by decide) (by decide) ?_
    simp [Entry.wellFormed_file]
  have hpaths : ∀ a ∈ [".", "Main.xaml"], Path.Descends a := by
    simp only [List.forall_mem_cons]
    exact ⟨⟨by decide, by decide⟩, ⟨by decide, by decide⟩, fun _ h => absurd h List.not_mem_nil⟩
  have hwalked : Reaches oneFlow {} [".", "Main.xaml"] true [.name "Main.xaml"] := by
    refine ⟨".", by decide, by decide, "./Main.xaml", ?_, by decide⟩
    exact mem_filesOfPath_iff.mp (by decide +kernel)
  have hgiven : Reaches oneFlow {} [".", "Main.xaml"] false [.name "Main.xaml"] :=
    ⟨"Main.xaml", by decide, by decide, _, .file (by decide +kernel), by decide⟩
  obtain ⟨-, hlisted, hnodup, hreport⟩ := collect_listed (c := {}) hfs hpaths
  obtain ⟨hle, -, htwice⟩ := hlisted [.name "Main.xaml"]
  have htwo := Nat.le_antisymm hle (htwice.mpr ⟨hwalked, hgiven⟩)
  refine ⟨fun h => hnodup.mp h _ ⟨hwalked, hgiven⟩, htwo, ?_⟩
  obtain ⟨f, hf, hspelling⟩ := List.mem_map.mp ((mem_map_spelling_collect hfs).mpr hgiven)
  have hok : ∀ a ∈ [".", "Main.xaml"], ∀ x ∈ filesOfPath oneFlow {} a,
      (resultOf oneFlow {} {} x).result.isOk = true := by decide +kernel
  obtain ⟨a, ha, hmeans⟩ := exists_means_of_mem_collect _ _ _ hf
  have hcount := hreport {} f hf
  rw [if_pos (hok a ha f (mem_filesOfPath_iff.mpr hmeans)), (Prod.mk.inj hspelling).2] at hcount
  exact hcount.trans htwo

end Inputs

end WorkflowLint.CommandLine
