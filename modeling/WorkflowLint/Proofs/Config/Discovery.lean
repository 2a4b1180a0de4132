import WorkflowLint.Config.File
import WorkflowLint.Proofs.Path.Above

/-!
# `WorkflowLint.Proofs.Config.Discovery`: the configuration that is found

The search looks into a directory, then into the one above it, and so on. `discover_eq` is one
round of it. Going up ends, so the rounds do (`Path.above_induction`), and every statement below is
proved round by round.

`IsExamined` says into which directories the search looks, and `IsNearest` says where it stops.
Neither follows the search: both speak of the directories above the first one and of the entries
that they have. The search finds what the nearest entry holds, be it of use or not
(`discover_eq_some_iff`), and it finds nothing only if no directory has an entry
(`discover_eq_none_iff`). Two file systems that agree about the entries that are looked at lead to
the same result (`discover_congr`), whatever else is different in them.
-/

set_option autoImplicit false

namespace WorkflowLint

/-- In both file systems a path means something or in neither, and if it does then the same is
read there. -/
def FileSystem.AgreeAt (fs fs' : FileSystem) (path : String) : Prop :=
  fs'.contains path = fs.contains path ∧ (fs.contains path = true → fs'.read path = fs.read path)

namespace Config

/-- The path of the configuration file in a directory. -/
def entryPath (directory : String) : String := Path.join directory fileName

/-- One round of the search: the entry of the directory decides if there is one, and otherwise the
search goes on above. -/
theorem discover_eq (fs : FileSystem) (start : String) :
    discover fs start =
      if fs.contains (entryPath start) then some (load fs (entryPath start))
      else (Path.parent? start).bind (discover fs) := by
  rw [discover, candidates, List.map_cons]
  show ((entryPath start :: _).find? fs.contains).map (load fs) = _
  -- The first candidate is the entry of the directory itself.
  by_cases hentry : fs.contains (entryPath start) = true
  · rw [List.find?_cons_of_pos hentry, if_pos hentry]
    rfl
  · rw [List.find?_cons_of_neg hentry, if_neg hentry]
    cases hparent : Path.parent? start with
    | none =>
      rw [Path.above_of_parent?_eq_none hparent]
      rfl
    | some q =>
      rw [Path.above_of_parent? hparent]
      rfl

/-- Loading a configuration reads its file and nothing else of the file system, so two file
systems that agree on this file agree on the configuration. -/
theorem load_congr {fs fs' : FileSystem} {path : String} (h : fs'.read path = fs.read path) :
    load fs' path = load fs path := by
  rw [load, h, load]

/-! ### Where the search looks -/

/-- The search looks into a directory: it is the first one or above it, and no directory on the way
to it has an entry. -/
def IsExamined (fs : FileSystem) (start directory : String) : Prop :=
  Path.Rises start directory ∧
    ∀ d, Path.Rises start d → Path.Rises d directory → d ≠ directory →
      fs.contains (entryPath d) = false

/-- The nearest directory with an entry: there is no other one on the way to it. -/
def IsNearest (fs : FileSystem) (start directory : String) : Prop :=
  IsExamined fs start directory ∧ fs.contains (entryPath directory) = true

section
variable {fs : FileSystem} {start directory : String}

/-- The search looks into the directory that it starts with, since nothing is on the way there. -/
theorem isExamined_self (fs : FileSystem) (start : String) : IsExamined fs start start :=
  ⟨.refl, fun _ h hback hne => absurd (h.antisymm hback) hne⟩

/-- The search goes on from the directory above as if it had started there, if the first one has
no entry. -/
theorem isExamined_of_parent? {q : String} (hq : Path.parent? start = some q)
    (hentry : fs.contains (entryPath start) = false) (h : IsExamined fs q directory) :
    IsExamined fs start directory := by
  refine ⟨Path.rises_iff.mpr (.inr ⟨q, hq, h.1⟩), fun d hd hrest hne => ?_⟩
  obtain rfl | ⟨q', hq', hd⟩ := Path.rises_iff.mp hd
  · exact hentry
  -- There is one directory directly above, so this is the same one.
  · obtain rfl : q = q' := Option.some.inj (hq.symm.trans hq')
    exact h.2 d hd hrest hne

/-- So the directories that are examined are the first one and, if it has no entry, those that are
examined from the one above it. -/
theorem isExamined_iff :
    IsExamined fs start directory ↔ directory = start ∨
      fs.contains (entryPath start) = false ∧
        ∃ q, Path.parent? start = some q ∧ IsExamined fs q directory := by
  constructor
  · rintro ⟨hrises, hbefore⟩
    obtain heq | ⟨q, hq, hrest⟩ := Path.rises_iff.mp hrises
    · exact .inl heq
    -- The first directory is on the way, so it has no entry, and the rest is seen from above.
    · refine .inr ⟨hbefore start .refl hrises (hrest.ne_of_parent? hq).symm, q, hq, hrest, ?_⟩
      intro d hd
      exact hbefore d (Path.rises_iff.mpr (.inr ⟨q, hq, hd⟩))
  · rintro (rfl | ⟨hentry, q, hq, hexamined⟩)
    · exact isExamined_self fs directory
    · exact isExamined_of_parent? hq hentry hexamined

/-- A directory with an entry is nearest to itself, and nothing else is nearest to it. -/
theorem isNearest_of_contains (hentry : fs.contains (entryPath start) = true) :
    IsNearest fs start directory ↔ directory = start := by
  rw [IsNearest, isExamined_iff, hentry]
  constructor
  · rintro ⟨heq | ⟨hnone, -⟩, -⟩
    · exact heq
    · cases hnone
  · rintro rfl
    exact ⟨.inl rfl, hentry⟩

/-- From a directory without an entry, the nearest one is that of the directory above. If there is
none above, there is no nearest one. -/
theorem isNearest_of_not_contains (hentry : ¬fs.contains (entryPath start) = true) :
    IsNearest fs start directory ↔
      ∃ q, Path.parent? start = some q ∧ IsNearest fs q directory := by
  rw [IsNearest, isExamined_iff]
  constructor
  · rintro ⟨rfl | ⟨-, q, hq, hexamined⟩, hcontains⟩
    · exact absurd hcontains hentry
    · exact ⟨q, hq, hexamined, hcontains⟩
  · rintro ⟨q, hq, hexamined, hcontains⟩
    exact ⟨.inr ⟨Bool.eq_false_iff.mpr hentry, q, hq, hexamined⟩, hcontains⟩

/-! ### What the search finds -/

/-- The nearest entry alone decides what is found. The induction goes up from the directory, one
round of the search at a time. -/
theorem discover_eq_some_iff {found : Except ConfigError Config} :
    discover fs start = some found ↔
      ∃ d, IsNearest fs start d ∧ load fs (entryPath d) = found := by
  induction start using Path.above_induction with
  | step start ih =>
    rw [discover_eq]
    by_cases hentry : fs.contains (entryPath start) = true
    · rw [if_pos hentry, Option.some_inj]
      simp only [isNearest_of_contains hentry, exists_eq_left]
    · rw [if_neg hentry, Option.bind_eq_some_iff]
      simp only [isNearest_of_not_contains hentry]
      constructor
      · rintro ⟨q, hq, hfound⟩
        obtain ⟨d, hd, hload⟩ := (ih q hq).mp hfound
        exact ⟨d, ⟨q, hq, hd⟩, hload⟩
      · rintro ⟨d, ⟨q, hq, hd⟩, hload⟩
        exact ⟨q, hq, (ih q hq).mpr ⟨d, hd, hload⟩⟩

/-- Nothing is found only if there is no entry all the way up: an entry that is of no use is an
answer, too. -/
theorem discover_eq_none_iff :
    discover fs start = none ↔
      ∀ d, Path.Rises start d → fs.contains (entryPath d) = false := by
  induction start using Path.above_induction with
  | step start ih =>
    rw [discover_eq]
    by_cases hentry : fs.contains (entryPath start) = true
    · rw [if_pos hentry]
      refine iff_of_false (Option.some_ne_none _) fun hall => ?_
      exact absurd ((hall start .refl).symm.trans hentry) Bool.false_ne_true
    · rw [if_neg hentry, Option.bind_eq_none_iff]
      constructor
      · intro hnone d hd
        obtain rfl | ⟨q, hq, hd⟩ := Path.rises_iff.mp hd
        · exact Bool.eq_false_iff.mpr hentry
        · exact (ih q hq).mp (hnone q hq) d hd
      · intro hall q hq
        exact (ih q hq).mpr fun d hd => hall d (Path.rises_iff.mpr (.inr ⟨q, hq, hd⟩))

/-- Only the entries that are looked at matter. In each round both file systems give the same
answer for the entry, and the same content if there is one. -/
theorem discover_congr {fs' : FileSystem}
    (h : ∀ d, IsExamined fs start d → fs.AgreeAt fs' (entryPath d)) :
    discover fs' start = discover fs start := by
  induction start using Path.above_induction with
  | step start ih =>
    obtain ⟨hcontains, hread⟩ := h start (isExamined_self fs start)
    rw [discover_eq, discover_eq fs, hcontains]
    by_cases hentry : fs.contains (entryPath start) = true
    · rw [if_pos hentry, if_pos hentry, load_congr (hread hentry)]
    · rw [if_neg hentry, if_neg hentry]
      cases hparent : Path.parent? start with
      | none => rfl
      | some q =>
        refine ih q hparent fun d hd => h d ?_
        exact isExamined_of_parent? hparent (Bool.eq_false_iff.mpr hentry) hd

end

/-- The search goes up one component at a time, so it ends. What it finds is a configuration
exactly if the nearest entry holds one, and a complaint exactly if the nearest entry is of no use,
whatever stands further up; it finds nothing exactly if there is no entry. Where it does not look,
the file system may be anything. -/
theorem discover_nearest (fs : FileSystem) (start : String) :
    (discover fs start =
      if fs.contains (entryPath start) then some (load fs (entryPath start))
      else (Path.parent? start).bind (discover fs)) ∧
    (∀ p q, Path.parent? p = some q → ∃ c, Path.components p = Path.components q ++ [c]) ∧
    (∀ p, Path.parent? p = none → Path.components p = Path.rootOf (Path.isAbsolute p)) ∧
    (∀ c, discover fs start = some (.ok c) ↔
      ∃ d, IsNearest fs start d ∧ load fs (entryPath d) = .ok c) ∧
    (∀ e, discover fs start = some (.error e) ↔
      ∃ d, IsNearest fs start d ∧ load fs (entryPath d) = .error e) ∧
    (discover fs start = none ↔
      ∀ d, Path.Rises start d → fs.contains (entryPath d) = false) ∧
    ∀ fs' : FileSystem, (∀ d, IsExamined fs start d → fs.AgreeAt fs' (entryPath d)) →
      discover fs' start = discover fs start :=
  ⟨discover_eq fs start, fun _ _ => Path.components_of_parent?,
    fun _ => Path.components_of_parent?_eq_none, fun _ => discover_eq_some_iff,
    fun _ => discover_eq_some_iff, discover_eq_none_iff, fun _ => discover_congr⟩

/-- A directory with a broken configuration. There is something beside it, such as a sound
configuration or nothing. -/
def brokenBelow (beside : List (String × Entry)) : FileSystem where
  root := .directory (("flows", .directory [(fileName, .file "\x7b".toUTF8),
    ("sub", .directory [])]) :: beside)
  here := []

/-- The broken configuration is found, although the one above it is sound, and it would be found
just so if the one above it were not there. -/
theorem discover_nearest_brokenBelow :
    let sound := brokenBelow [(fileName, .file "\x7b\x7d".toUTF8)]
    let start := "/flows/sub"
    IsNearest sound start "/flows" ∧ load sound (entryPath "/") = .ok {} ∧
      (∃ e, discover sound start = some (.error e)) ∧
      discover (brokenBelow []) start = discover sound start := by
  intro sound start
  obtain ⟨-, -, -, -, herror, -, hcongr⟩ := discover_nearest sound start
  -- The directory has no entry, and the one above it has one that is broken.
  have hstart : ¬sound.contains (entryPath start) = true := by decide +kernel
  have hflows : sound.contains (entryPath "/flows") = true := by decide +kernel
  have hup : Path.parent? start = some "/flows" := by decide +kernel
  have hnearest : IsNearest sound start "/flows" :=
    (isNearest_of_not_contains hstart).mpr ⟨"/flows", hup, (isNearest_of_contains hflows).mpr rfl⟩
  refine ⟨hnearest, by rfl, ?_, hcongr _ fun d hd => ?_⟩
  · have hbroken : (load sound (entryPath "/flows")).isOk = false := by decide +kernel
    cases hload : load sound (entryPath "/flows") with
    | ok c => simp [hload, Except.isOk, Except.toBool] at hbroken
    | error e => exact ⟨e, (herror e).mpr ⟨"/flows", hnearest, hload⟩⟩
  · obtain rfl | ⟨-, q, hq, hd⟩ := isExamined_iff.mp hd
    · exact ⟨by decide +kernel, fun hentry => absurd hentry hstart⟩
    · obtain rfl : "/flows" = q := Option.some.inj (hup.symm.trans hq)
      -- The search ends here, so the directory above is not looked at.
      obtain rfl | ⟨hnone, -⟩ := isExamined_iff.mp hd
      · exact ⟨by decide +kernel, fun _ => by decide +kernel⟩
      · exact absurd (hnone.symm.trans hflows) Bool.false_ne_true

end Config

end WorkflowLint
