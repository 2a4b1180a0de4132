import Mathlib.Data.List.Forall2
import Mathlib.Data.List.Sort
import WorkflowLint.CommandLine.Inputs
import WorkflowLint.Proofs.FileSystem

/-!
# `WorkflowLint.Proofs.CommandLine.Collection`: the workflows that paths mean

`Means` says which files an argument stands for: itself if it is a file, whatever its name, and
otherwise the workflows that a walk through it yields, as far as no pattern excludes them. The
files of a run are put in order and only neighbours are compared to leave out what is there twice.
That suffices because the order decides when paths are the same, so those are neighbours:

* `mem_map_key_distinct`: leaving out neighbours loses no path, in any list;
* `pairwise_distinct`: in a list that is in order no path is left that is there twice.

What remains is in order, strictly, and there is only one such list of paths with given members.
So the files depend on which arguments there are and on nothing else (`Inputs.collect_means`).
-/

set_option autoImplicit false

namespace WorkflowLint.CommandLine

/-! ### Names of workflows -/

/-- The file at a path has a name that ends in `.xaml`, the letters in any case, with something in
front of the full stop. -/
def HasWorkflowName (path : String) : Prop :=
  ∃ stem ext, Path.fileName? path = some (stem ++ "." ++ ext) ∧ stem ≠ "" ∧
    ext.toList.map Char.toLower = ['x', 'a', 'm', 'l']

/-- The test on the extension of a path, in terms of its name. An extension has no full stop in
it, and neither has the word with which it is compared. -/
theorem isWorkflow_iff {path : String} : isWorkflow path = true ↔ HasWorkflowName path := by
  have hword {ext : String} : Text.equalIgnoringAsciiCase workflowExtension ext = true ↔
      ext.toList.map Char.toLower = ['x', 'a', 'm', 'l'] := by
    rw [Text.equalIgnoringAsciiCase, beq_iff_eq, eq_comm]
    rfl
  rw [isWorkflow, Option.any_eq_true]
  constructor
  · rintro ⟨ext, hext, heq⟩
    obtain ⟨stem, hstem, -, hname⟩ := Path.extension?_eq_some_iff.mp hext
    exact ⟨stem, ext, hname, hstem, hword.mp heq⟩
  · rintro ⟨stem, ext, hname, hstem, heq⟩
    -- A full stop has no other case, so there is none in an extension that is the word.
    have hdot : '.' ∉ ext.toList := by
      intro hmem
      have hlower : Char.toLower '.' ∈ ext.toList.map Char.toLower := List.mem_map_of_mem hmem
      rw [heq] at hlower
      exact absurd hlower (by decide)
    exact ⟨ext, Path.extension?_eq_some_iff.mpr ⟨stem, hstem, hdot, hname⟩, hword.mpr heq⟩

/-! ### What an argument means -/

/-- A file that an argument stands for. -/
inductive Means (fs : FileSystem) (c : Config) : String → String → Prop where
  /-- A file stands for itself. It need not be a workflow, and no pattern excludes it. -/
  | file {path : String} (hfile : fs.isFile path = true) : Means fs c path path
  | walked {directory path : String} (hdirectory : fs.isDirectory directory = true)
      (hyields : fs.Yields directory path) (hname : HasWorkflowName path)
      (hkept : ∀ pattern ∈ c.exclude, Glob.isMatch pattern path = false) : Means fs c directory path

/-- The workflows below a directory are the files that a walk yields, with a name of a workflow,
as far as no pattern excludes them. -/
theorem mem_workflowsBelow_iff {fs : FileSystem} {c : Config} {directory path : String} :
    path ∈ workflowsBelow fs c directory ↔ fs.Yields directory path ∧ HasWorkflowName path ∧
      ∀ pattern ∈ c.exclude, Glob.isMatch pattern path = false := by
  rw [workflowsBelow, List.mem_filter, FileSystem.mem_filesBelow_iff, Bool.and_eq_true,
    isWorkflow_iff, Bool.not_eq_true', Config.excludes, List.any_eq_false]
  simp only [Bool.not_eq_true]

/-- What is collected for one argument is what the argument means. A path means a file or a
directory, never both, so the order of the two tests does not matter. -/
theorem mem_filesOfPath_iff {fs : FileSystem} {c : Config} {argument path : String} :
    path ∈ filesOfPath fs c argument ↔ Means fs c argument path := by
  rw [filesOfPath]
  constructor
  · intro h
    -- A file, a directory, or neither; only the first two mean anything.
    split_ifs at h with hfile hdirectory
    · obtain rfl := List.mem_singleton.mp h
      exact .file hfile
    · obtain ⟨hyields, hname, hkept⟩ := mem_workflowsBelow_iff.mp h
      exact .walked hdirectory hyields hname hkept
    · contradiction
  · rintro (hfile | ⟨hdirectory, hyields, hname, hkept⟩)
    · rw [if_pos hfile]
      exact List.mem_singleton_self argument
    · rw [if_neg (FileSystem.not_isFile_of_isDirectory hdirectory), if_pos hdirectory]
      exact mem_workflowsBelow_iff.mpr ⟨hyields, hname, hkept⟩

/-! ### The order of the files -/

/-- Leaving out paths that are the same as their neighbour in front loses none, if paths are
compared by their keys. -/
theorem mem_map_key_distinctAfter {k : List (ℕ ×ₗ String)} (p : String) (paths : List String) :
    k ∈ (distinctAfter p paths).map Path.key ↔ k ∈ (p :: paths).map Path.key := by
  induction paths generalizing p with
  | nil => rfl
  | cons q rest ih =>
    rw [distinctAfter]
    split
    case isTrue hsame => simp [ih, Path.same_iff.mp hsame]
    case isFalse => simp [ih]

/-- Leaving out neighbours loses no path: of the paths with one key at least one is left, and no
key is new. -/
theorem mem_map_key_distinct {k : List (ℕ ×ₗ String)} {paths : List String} :
    k ∈ (distinct paths).map Path.key ↔ k ∈ paths.map Path.key := by
  cases paths with
  | nil => rfl
  | cons p rest => exact mem_map_key_distinctAfter p rest

/-- In a list that is in order, what is left is in strict order. The induction goes along the list
with the last path that was kept in front of it. -/
theorem pairwise_distinctAfter {p : String} {paths : List String}
    (h : ((p :: paths).map Path.key).Pairwise (· ≤ ·)) :
    ((distinctAfter p paths).map Path.key).Pairwise (· < ·) := by
  induction paths generalizing p with
  | nil => simp [distinctAfter]
  | cons q rest ih =>
    rw [List.map_cons, List.map_cons, List.pairwise_cons] at h
    obtain ⟨hp, hrest⟩ := h
    rw [distinctAfter]
    split
    case isTrue hsame =>
      -- The next path is the same as `p`, so the rest is behind `p` as well.
      refine ih ?_
      rwa [List.map_cons, Path.same_iff.mp hsame]
    case isFalse hsame =>
      -- The next path is behind `p`, and so is everything that is not in front of the next path.
      have hq : Path.key p < Path.key q := by
        refine lt_of_le_of_ne (hp _ List.mem_cons_self) fun heq => hsame (Path.same_iff.mpr heq)
      rw [List.map_cons, List.pairwise_cons]
      refine ⟨fun k hk => ?_, ih hrest⟩
      obtain rfl | hmem := List.mem_cons.mp ((mem_map_key_distinctAfter q rest).mp hk)
      · exact hq
      · exact hq.trans_le ((List.pairwise_cons.mp hrest).1 k hmem)

/-- Of paths in order each one is left once. Equal paths stand next to each other then, so that
leaving out neighbours is enough. -/
theorem pairwise_distinct {paths : List String} (h : (paths.map Path.key).Pairwise (· ≤ ·)) :
    ((distinct paths).map Path.key).Pairwise (· < ·) := by
  cases paths with
  | nil => exact .nil
  | cons p rest => exact pairwise_distinctAfter h

/-- No path is spelled anew: what is left is written as it was in the list. -/
theorem distinct_subset (paths : List String) : distinct paths ⊆ paths := by
  have hafter (p : String) (rest : List String) : distinctAfter p rest ⊆ p :: rest := by
    induction rest generalizing p with
    | nil => exact List.Subset.refl _
    | cons q rest ih =>
      rw [distinctAfter]
      split
      · exact List.Subset.trans (ih p) (List.cons_subset_cons p (List.subset_cons_self q rest))
      · exact List.cons_subset_cons p (ih q)
  cases paths with
  | nil => exact List.Subset.refl _
  | cons p rest => exact hafter p rest

/-- Sorting puts paths in order, since their order is that of their keys, which is linear. -/
theorem pairwise_mergeSort_le (paths : List String) :
    ((paths.mergeSort Path.le).map Path.key).Pairwise (· ≤ ·) := by
  rw [List.pairwise_map]
  refine (List.pairwise_mergeSort ?_ ?_ paths).imp Path.le_iff.mp
  · intro p q r hpq hqr
    exact Path.le_iff.mpr ((Path.le_iff.mp hpq).trans (Path.le_iff.mp hqr))
  · intro p q
    simpa [Path.le_iff] using le_total (Path.key p) (Path.key q)

namespace Inputs

section
variable (fs : FileSystem) (c : Config) (paths : List String)

/-- The collected files are in strict order, because they are sorted before neighbours are left
out. -/
theorem pairwise_collect : ((collect fs c paths).files.map Path.key).Pairwise (· < ·) :=
  pairwise_distinct (pairwise_mergeSort_le _)

/-- Up to spelling, the collected files are what some argument means. Neither sorting nor leaving
out what is there twice changes that. -/
theorem mem_map_key_collect {k : List (ℕ ×ₗ String)} :
    k ∈ (collect fs c paths).files.map Path.key ↔
      ∃ a ∈ paths, ∃ x, Means fs c a x ∧ Path.key x = k := by
  rw [collect, mem_map_key_distinct, List.mem_map]
  simp only [List.mem_mergeSort, List.mem_flatMap, mem_filesOfPath_iff]
  constructor
  · rintro ⟨x, ⟨a, ha, hx⟩, rfl⟩
    exact ⟨a, ha, x, hx, rfl⟩
  · rintro ⟨a, ha, x, hx, rfl⟩
    exact ⟨x, ⟨a, ha, hx⟩, rfl⟩

/-- Every file is spelled as some argument means it: of several spellings one is kept, and none is
made up. -/
theorem exists_means_of_mem_collect {f : String} (h : f ∈ (collect fs c paths).files) :
    ∃ a ∈ paths, Means fs c a f := by
  have hmem := List.mem_mergeSort.mp (distinct_subset _ h)
  obtain ⟨a, ha, hf⟩ := List.mem_flatMap.mp hmem
  exact ⟨a, ha, mem_filesOfPath_iff.mp hf⟩

/-- In a well-formed file system every collected path means a file. -/
theorem isFile_of_mem_collect (hfs : fs.root.WellFormed) {f : String}
    (h : f ∈ (collect fs c paths).files) : fs.isFile f = true := by
  obtain ⟨a, -, hfile | ⟨-, hyields, -, -⟩⟩ := exists_means_of_mem_collect fs c paths h
  · exact hfile
  · exact FileSystem.isFile_of_yields hfs hyields

/-- The files are in the order of their paths, no path there twice, and up to spelling they are
what the arguments mean. Each of them can be opened as a file, if directories are well-formed. The
arguments that mean neither files nor directories are missing. It does not matter in which order
the arguments are given, nor how often. -/
theorem collect_means :
    (collect fs c paths).files.Pairwise (fun p q => Path.le p q = true ∧ Path.same p q = false) ∧
    (∀ p, (∃ f ∈ (collect fs c paths).files, Path.same f p = true) ↔
      ∃ a ∈ paths, ∃ x, Means fs c a x ∧ Path.same x p = true) ∧
    (fs.root.WellFormed → ∀ f ∈ (collect fs c paths).files, fs.isFile f = true) ∧
    (collect fs c paths).missing = paths.filter (fun a => !fs.isFile a && !fs.isDirectory a) ∧
    ∀ paths', (∀ a, a ∈ paths' ↔ a ∈ paths) →
      List.Forall₂ (fun f f' => Path.same f f' = true)
        (collect fs c paths').files (collect fs c paths).files := by
  refine ⟨?_, ?_, fun hfs f hf => isFile_of_mem_collect fs c paths hfs hf, rfl, ?_⟩
  · refine (List.pairwise_map.mp (pairwise_collect fs c paths)).imp fun {p q} hlt => ?_
    rw [Path.le_iff, Bool.eq_false_iff, ne_eq, Path.same_iff]
    exact ⟨hlt.le, hlt.ne⟩
  · intro p
    simp only [Path.same_iff]
    exact List.mem_map.symm.trans (mem_map_key_collect fs c paths)
  · intro paths' hpaths
    have hkeys : (collect fs c paths').files.map Path.key
        = (collect fs c paths).files.map Path.key := by
      -- Lists in strict order are equal as soon as they have the same members.
      refine (pairwise_collect fs c paths').eq_of_mem_iff (pairwise_collect fs c paths) fun k => ?_
      simp only [mem_map_key_collect, hpaths]
    rw [← List.forall₂_eq_eq_eq, List.forall₂_map_left_iff, List.forall₂_map_right_iff] at hkeys
    simpa only [Path.same_iff] using hkeys

end

/-- A directory with two workflows and a description of the project. One of the workflows has its
extension in capitals. -/
def flows : FileSystem where
  root := .directory [("flows", .directory [("Main.xaml", .file "<Activity />".toUTF8),
    ("Helper.XAML", .file "<Activity />".toUTF8), ("project.json", .file "\x7b\x7d".toUTF8)])]
  here := []

/-- The directory is given twice in different spellings, together with a file in it that is no
workflow and a path that means nothing. Its workflows are found once, without the excluded one,
and given in reverse the arguments mean the same files. -/
theorem collect_means_flows :
    let c : Config := { exclude := ["**/Helper.XAML"] }
    let paths := ["flows/.", "flows", "gone", "flows/project.json"]
    let files := (collect flows c paths).files
    (∃ f ∈ files, Path.same f "flows/Main.xaml" = true) ∧
      (∃ f ∈ files, Path.same f "flows/project.json" = true) ∧
      (¬∃ f ∈ files, Path.same f "flows/Helper.XAML" = true) ∧
      (∀ f ∈ files, flows.isFile f = true) ∧
      (collect flows c paths).missing = ["gone"] ∧
      List.Forall₂ (fun f f' => Path.same f f' = true)
        (collect flows c ("gone" :: paths.reverse)).files files := by
  intro c paths files
  obtain ⟨-, hfiles, hopen, hmissing, horder⟩ := collect_means flows c paths
  -- What is listed is decided by what the arguments mean.
  refine ⟨(hfiles _).mpr ?_, (hfiles _).mpr ?_, mt (hfiles _).mp ?_, hopen ?_, ?_, horder _ ?_⟩
  · refine ⟨"flows", by decide, "flows/Main.xaml", ?_, by decide⟩
    exact mem_filesOfPath_iff.mp (by decide +kernel)
  · exact ⟨"flows/project.json", by decide, _, .file (by decide +kernel), by decide +kernel⟩
  · have hnone : ∀ a ∈ paths, ∀ x ∈ filesOfPath flows c a,
        ¬Path.same x "flows/Helper.XAML" = true := by decide +kernel
    rintro ⟨a, ha, x, hx, hsame⟩
    exact hnone a ha x (mem_filesOfPath_iff.mpr hx) hsame
  -- The directories are well-formed, the root and the one in it.
  · refine Entry.wellFormed_directory (by decide) (by decide) ?_
    rw [List.forall_mem_singleton]
    refine Entry.wellFormed_directory (by decide) (by decide) ?_
    simp [Entry.wellFormed_file]
  · rw [hmissing]
    decide +kernel
  · intro a
    rw [List.mem_cons, List.mem_reverse]
    refine or_iff_right_of_imp ?_
    rintro rfl
    decide

end Inputs

end WorkflowLint.CommandLine
