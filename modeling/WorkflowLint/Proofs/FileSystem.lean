import WorkflowLint.FileSystem
import WorkflowLint.Proofs.Path
import WorkflowLint.Proofs.Success

/-!
# `WorkflowLint.Proofs.FileSystem`: what a walk through a directory yields

A walk goes down from a directory and makes the path of a file on its way, by joining the names
that it passes to the path of the directory. `Entry.Leads` says where names lead without a walk,
and `mem_filesBelow_iff` says that the walk misses no file that names lead to and makes no other
path.

The paths that a walk makes are not followed by it. In a file system whose directories are as
directories are (`Entry.WellFormed`: the names in one are distinct, and each can be a segment of a
path), following such a path ends at the file for which it was made (`isFile_of_yields`). One join
is one step (`way_join`): a path with a name joined to it is followed like the path, and then the
name is.
-/

set_option autoImplicit false

namespace WorkflowLint

/-- Names lead from an entry to another one, each being a name in the directory that the names in
front of it lead to. -/
inductive Entry.Leads : Entry → List String → Entry → Prop where
  | here (e : Entry) : Leads e [] e
  | down {entries : List (String × Entry)} {name : String} {names : List String} {e found : Entry}
      (hmem : (name, e) ∈ entries) (h : Leads e names found) :
      Leads (.directory entries) (name :: names) found

/-- A text that can be the name of an entry in a directory. -/
structure FileSystem.IsName (s : String) : Prop where
  ne_empty : s ≠ ""
  ne_here : s ≠ "."
  ne_up : s ≠ ".."
  slash_free : '/' ∉ s.toList
  size_le : s.utf8ByteSize ≤ longestName

instance (s : String) : Decidable (FileSystem.IsName s) :=
  decidable_of_iff (s ≠ "" ∧ s ≠ "." ∧ s ≠ ".." ∧ '/' ∉ s.toList ∧
      s.utf8ByteSize ≤ FileSystem.longestName)
    ⟨fun ⟨h₁, h₂, h₃, h₄, h₅⟩ => ⟨h₁, h₂, h₃, h₄, h₅⟩,
      fun ⟨h₁, h₂, h₃, h₄, h₅⟩ => ⟨h₁, h₂, h₃, h₄, h₅⟩⟩

/-- The directories in an entry have distinct entries, each with a name that it can have. -/
def Entry.WellFormed (e : Entry) : Prop :=
  ∀ names entries, e.Leads names (.directory entries) →
    (entries.map (·.1)).Nodup ∧ ∀ x ∈ entries, FileSystem.IsName x.1

/-- A file has no directories in it, so nothing is asked of it. -/
theorem Entry.wellFormed_file (content : ByteArray) : (Entry.file content).WellFormed := by
  intro names entries hleads
  cases hleads

/-- A directory is well-formed if its own names are distinct and allowed and what stands under
them is well-formed. Concrete file systems are checked with this, level by level. -/
theorem Entry.wellFormed_directory {entries : List (String × Entry)}
    (hnodup : (entries.map (·.1)).Nodup) (hnames : ∀ x ∈ entries, FileSystem.IsName x.1)
    (hentries : ∀ x ∈ entries, x.2.WellFormed) : (Entry.directory entries).WellFormed := by
  intro names found hleads
  cases hleads with
  | here => exact ⟨hnodup, hnames⟩
  | down hmem hbelow => exact hentries _ hmem _ found hbelow

/-- What is in a well-formed directory is well-formed, since names that lead on from there lead on
from the directory as well. -/
theorem Entry.WellFormed.of_mem {entries : List (String × Entry)} {name : String} {e : Entry}
    (h : (Entry.directory entries).WellFormed) (hmem : (name, e) ∈ entries) : e.WellFormed :=
  fun names found hleads => h (name :: names) found (.down hmem hleads)

namespace FileSystem

/-! ### The walk -/

/-- A walk through the directory at a path makes the path of a file: names lead to the file from
the directory, and joined to the directory's path they give the file's, which is not refused. -/
def Yields (fs : FileSystem) (directory path : String) : Prop :=
  ∃ entries names content, fs.find directory = .ok (.directory entries) ∧
    (Entry.directory entries).Leads names (.file content) ∧
    path = names.foldl Path.join directory ∧ refusal? path = none

/-- The walk through several entries goes through each of them, under the path with its name
joined. -/
theorem mem_filesOfAll_iff {path x : String} {entries : List (String × Entry)} :
    x ∈ filesOfAll path entries ↔
      ∃ name e, (name, e) ∈ entries ∧ x ∈ filesOf (Path.join path name) e := by
  induction entries with
  | nil => simp [filesOfAll]
  | cons first rest ih =>
    obtain ⟨name, e⟩ := first
    rw [filesOfAll, List.mem_append, ih]
    constructor
    · rintro (hx | ⟨name', e', hmem, hx⟩)
      · exact ⟨name, e, List.mem_cons_self, hx⟩
      · exact ⟨name', e', List.mem_cons_of_mem _ hmem, hx⟩
    · rintro ⟨name', e', hmem, hx⟩
      obtain heq | hmem := List.mem_cons.mp hmem
      · obtain ⟨rfl, rfl⟩ := Prod.mk.inj heq
        exact .inl hx
      · exact .inr ⟨name', e', hmem, hx⟩

/-- Every path that a walk makes belongs to a file, and the names that were joined to the first
path lead to that file. -/
theorem exists_leads_of_mem_filesOf {path x : String} (e : Entry) (h : x ∈ filesOf path e) :
    ∃ names content, e.Leads names (.file content) ∧ x = names.foldl Path.join path := by
  match e with
  | .file content =>
    rw [filesOf, List.mem_singleton] at h
    exact ⟨[], content, .here _, h⟩
  | .directory entries =>
    rw [filesOf] at h
    -- The recursion is on the entry, and what is in a directory is smaller than the directory.
    obtain ⟨name, e, hmem, hx⟩ := mem_filesOfAll_iff.mp h
    obtain ⟨names, content, hleads, hpath⟩ := exists_leads_of_mem_filesOf e hx
    exact ⟨name :: names, content, .down hmem hleads, hpath⟩
termination_by sizeOf e
decreasing_by
  have hlt := List.sizeOf_lt_of_mem hmem
  simp only [Prod.mk.sizeOf_spec, Entry.directory.sizeOf_spec] at hlt ⊢
  omega

/-- The walk misses no file: wherever names lead to one, the path with these names joined is made.
The induction is on how the names lead there, and the path grows with each of them. -/
theorem mem_filesOf_of_leads {e found : Entry} {names : List String} (h : e.Leads names found) :
    ∀ {content : ByteArray} (path : String), found = .file content →
      names.foldl Path.join path ∈ filesOf path e := by
  induction h with
  | here e =>
    rintro content path rfl
    exact List.mem_singleton_self path
  -- The first name is joined, and the walk goes on in its entry with the longer path.
  | @down entries name names e found hmem h ih =>
    intro content path hfound
    rw [filesOf, mem_filesOfAll_iff]
    exact ⟨name, e, hmem, ih (Path.join path name) hfound⟩

/-- The files below a directory are those that names lead to, under paths that are not refused. If
the path is no directory, there are none. -/
theorem mem_filesBelow_iff {fs : FileSystem} {directory path : String} :
    path ∈ fs.filesBelow directory ↔ fs.Yields directory path := by
  rw [filesBelow, Yields]
  split
  case h_1 entries hfind =>
    rw [List.mem_filter, Option.isNone_iff_eq_none]
    constructor
    · rintro ⟨hmem, hallowed⟩
      obtain ⟨names, content, hleads, hpath⟩ :=
        exists_leads_of_mem_filesOf (.directory entries) hmem
      exact ⟨entries, names, content, hfind, hleads, hpath, hallowed⟩
    -- The path means one directory only.
    · rintro ⟨entries', names, content, hfind', hleads, rfl, hallowed⟩
      obtain rfl : entries = entries' := by simpa [hfind] using hfind'
      exact ⟨mem_filesOf_of_leads hleads directory rfl, hallowed⟩
  case h_2 hfind =>
    simp only [List.not_mem_nil, false_iff]
    rintro ⟨entries, names, content, hfind', -⟩
    exact hfind entries hfind'

/-! ### Following what a walk makes -/

/-- Segments are followed one after the other, and an error on the way is the error of the whole. -/
theorem follow_append (way : Way) (front back : List String) :
    follow way (front ++ back) = follow way front >>= fun next => follow next back := by
  induction front generalizing way with
  | nil => rfl
  | cons s front ih =>
    rw [List.cons_append, follow, follow]
    cases step way s with
    | error e => rfl
    | ok next => exact ih next

/-- A path is refused if it has a null character, is empty or is too long, and otherwise it is
not. -/
theorem refusal?_eq_none_iff {path : String} :
    refusal? path = none ↔
      '\x00' ∉ path.toList ∧ path ≠ "" ∧ path.utf8ByteSize ≤ longestPath := by
  rw [refusal?]
  split_ifs <;> simp_all

/-- What is in front of a path that is not refused is not refused either, unless it is empty. All
other grounds for a refusal pass on to longer paths. -/
theorem refusal?_of_append {path rest : String} (h : refusal? (path ++ rest) = none)
    (hpath : path ≠ "") : refusal? path = none := by
  rw [refusal?_eq_none_iff] at h ⊢
  obtain ⟨hzero, -, hsize⟩ := h
  rw [String.toList_append, List.mem_append, not_or] at hzero
  rw [String.utf8ByteSize_append] at hsize
  exact ⟨hzero.1, hpath, by omega⟩

/-- What a path means is the entry at the end of the way that it is followed on. -/
theorem find_eq_ok_iff {fs : FileSystem} {path : String} {e : Entry} :
    fs.find path = .ok e ↔ ∃ name up, fs.way path = .ok ((name, e) :: up) := by
  rw [find, bind_eq_ok_iff]
  constructor
  · rintro ⟨w, hway, htop⟩
    match w with
    | [] => cases htop
    | (name, e') :: up =>
      obtain rfl := Except.ok.inj htop
      exact ⟨name, up, hway⟩
  · rintro ⟨name, up, hway⟩
    exact ⟨_, hway, rfl⟩

/-- A path means one entry, so it is not a file and a directory at once. -/
theorem not_isFile_of_isDirectory {fs : FileSystem} {path : String}
    (h : fs.isDirectory path = true) : ¬fs.isFile path = true := by
  rw [isDirectory] at h
  split at h
  case h_1 entries hfind => simp [isFile, hfind]
  case h_2 => cases h

/-- A path that is not refused is followed from the root if it is absolute, and otherwise from the
working directory, which is itself followed from the root. -/
theorem way_eq_ok_iff {fs : FileSystem} {path : String} {w : Way} :
    fs.way path = .ok w ↔ refusal? path = none ∧ ∃ first,
      follow [("", fs.root)] (if Path.isAbsolute path then [] else fs.here) = .ok first ∧
        follow first (Path.segments path) = .ok w := by
  -- A path that is refused has no start, and any other one has the start that the statement
  -- names.
  rw [way, bind_eq_ok_iff, start]
  cases refusal? path with
  | some e => simp
  | none => simp

/-- A segment is followed in a directory. It stays there, leads up or leads to an entry. These are
all ways in which a step succeeds, so that proofs about steps need not open the definition. -/
theorem step_cases {w next : Way} {segment : String} (h : step w segment = .ok next) :
    ∃ name entries up, w = (name, .directory entries) :: up ∧
      ((segment = "" ∨ segment = ".") ∧ next = w ∨
        segment = ".." ∧ next = (if up.isEmpty then w else up) ∨
        segment ≠ "" ∧ ∃ e, entry? entries segment = some e ∧ next = (segment, e) :: w) := by
  match w with
  | [] => cases h
  | (_, .file _) :: _ => cases h
  | (name, .directory entries) :: up =>
    refine ⟨name, entries, up, rfl, ?_⟩
    rw [step] at h
    -- The tests come in the order of the definition.
    by_cases hstay : segment = "" ∨ segment = "."
    · rw [if_pos (by simpa using hstay)] at h
      exact .inl ⟨hstay, (Except.ok.inj h).symm⟩
    rw [if_neg (by simpa using hstay)] at h
    by_cases hup : segment = ".."
    · rw [if_pos (by simpa using hup)] at h
      exact .inr (.inl ⟨hup, (Except.ok.inj h).symm⟩)
    rw [if_neg (by simpa using hup)] at h
    split at h
    · cases h
    · cases hentry : entry? entries segment with
      | none => rw [hentry] at h; cases h
      | some e =>
        rw [hentry] at h
        exact .inr (.inr ⟨(not_or.mp hstay).1, e, rfl, (Except.ok.inj h).symm⟩)

/-- Behind a slash at the end of a path nothing happens: the empty segment stays where it is. -/
theorem follow_of_append_empty {w next : Way} {front : List String}
    (h : follow w (front ++ [""]) = .ok next) : follow w front = .ok next := by
  rw [follow_append] at h
  obtain ⟨last, hfront, hlast⟩ := bind_eq_ok_iff.mp h
  obtain ⟨stayed, hstep, hnext⟩ := bind_eq_ok_iff.mp hlast
  obtain rfl : stayed = next := Except.ok.inj hnext
  obtain ⟨name, entries, up, -, ⟨-, rfl⟩ | ⟨hup, -⟩ | ⟨hne, -⟩⟩ := step_cases hstep
  · exact hfront
  · contradiction
  · contradiction

/-- A path with a name joined to it is followed like the path, and then the name is. This holds
however the directory's path ends. -/
theorem way_join {fs : FileSystem} {directory name : String} {w next : Way}
    (hway : fs.way directory = .ok w) (hname : '/' ∉ name.toList) (hstep : step w name = .ok next)
    (hallowed : refusal? (Path.join directory name) = none) :
    fs.way (Path.join directory name) = .ok next := by
  obtain ⟨hdirectory, first, hfirst, hfollow⟩ := way_eq_ok_iff.mp hway
  have hne : directory ≠ "" := (refusal?_eq_none_iff.mp hdirectory).2.1
  have habsolute : Path.isAbsolute (Path.join directory name) = Path.isAbsolute directory := by
    obtain ⟨rest, hrest⟩ := Path.exists_join_eq directory name
    rw [hrest, Path.isAbsolute_append hne]
  -- Whether the name comes behind the segments or in the place of an empty one, what stands in
  -- front of it is followed to the directory.
  have hfront : ∃ front, Path.segments (Path.join directory name) = front ++ [name] ∧
      follow first front = .ok w := by
    obtain hsegments | ⟨front, hfront, hsegments⟩ := Path.segments_join hne hname
    · exact ⟨_, hsegments, hfollow⟩
    · exact ⟨front, hsegments, follow_of_append_empty (hfront ▸ hfollow)⟩
  obtain ⟨front, hsegments, hfront⟩ := hfront
  refine way_eq_ok_iff.mpr ⟨hallowed, first, habsolute ▸ hfirst, ?_⟩
  rw [hsegments, follow_append]
  exact bind_eq_ok_iff.mpr ⟨w, hfront, bind_eq_ok_iff.mpr ⟨next, hstep, rfl⟩⟩

/-! ### Well-formed file systems -/

/-- In a directory with distinct names each entry is found under its name. With equal names, only
the first one would be. -/
theorem entry?_of_mem {entries : List (String × Entry)} {name : String} {e : Entry}
    (hnodup : (entries.map (·.1)).Nodup) (hmem : (name, e) ∈ entries) :
    entry? entries name = some e := by
  induction entries with
  | nil => contradiction
  | cons first rest ih =>
    rw [List.map_cons, List.nodup_cons] at hnodup
    obtain rfl | hmem := List.mem_cons.mp hmem
    · simp [ entry?]
    -- The first name is another one, because this name comes again behind it.
    · have hne : first.1 ≠ name := by
        rintro rfl
        exact hnodup.1 (List.mem_map.mpr ⟨_, hmem, rfl⟩)
      rw [ entry?, List.find?_cons_of_neg (by simpa using hne)]
      exact ih hnodup.2 hmem

/-- A name leads to its entry. Names that stay, lead up or are too long are excluded by what a
name may be. -/
theorem step_of_isName {entries : List (String × Entry)} {s name : String} {e : Entry} {up : Way}
    (hname : IsName name) (hentry : entry? entries name = some e) :
    step ((s, .directory entries) :: up) name
      = .ok ((name, e) :: (s, .directory entries) :: up) := by
  have hsize : ¬longestName < name.utf8ByteSize := Nat.not_lt.mpr hname.size_le
  simp [step, hname.ne_empty, hname.ne_here, hname.ne_up, hsize, hentry]

/-- A step leads to a well-formed entry again, whichever of the three kinds it is. The whole way
is meant, as a later step may lead back up. -/
theorem wellFormed_of_step {w next : Way} {s : String} (hw : ∀ x ∈ w, x.2.WellFormed)
    (h : step w s = .ok next) : ∀ x ∈ next, x.2.WellFormed := by
  obtain ⟨name, entries, up, rfl, ⟨-, rfl⟩ | ⟨-, rfl⟩ | ⟨-, e, hentry, rfl⟩⟩ := step_cases h
  · exact hw
  · -- Going up only drops what is at the end of the way, if anything.
    split_ifs
    · exact hw
    · exact (List.forall_mem_cons.mp hw).2
  -- Going down leads to an entry of a well-formed directory.
  · have hmem : (s, e) ∈ entries := by
      obtain ⟨x, hfind, rfl⟩ := Option.map_eq_some_iff.mp hentry
      obtain rfl : x.1 = s := by simpa using List.find?_some hfind
      exact List.mem_of_find?_eq_some hfind
    have htop : (Entry.directory entries).WellFormed := (List.forall_mem_cons.mp hw).1
    exact List.forall_mem_cons.mpr ⟨htop.of_mem hmem, hw⟩

/-- So do several steps, by induction on the segments: what is on the way stays well-formed. -/
theorem wellFormed_of_follow {w next : Way} {segments : List String}
    (hw : ∀ x ∈ w, x.2.WellFormed) (h : follow w segments = .ok next) :
    ∀ x ∈ next, x.2.WellFormed := by
  induction segments generalizing w with
  | nil =>
    obtain rfl := Except.ok.inj h
    exact hw
  | cons s rest ih =>
    obtain ⟨between, hstep, hrest⟩ := bind_eq_ok_iff.mp h
    exact ih (wellFormed_of_step hw hstep) hrest

/-- What a path means in a well-formed file system is well-formed, however the path gets there. -/
theorem wellFormed_of_find {fs : FileSystem} {path : String} {e : Entry}
    (hfs : fs.root.WellFormed) (h : fs.find path = .ok e) : e.WellFormed := by
  obtain ⟨name, up, hway⟩ := find_eq_ok_iff.mp h
  obtain ⟨-, first, hfirst, hfollow⟩ := way_eq_ok_iff.mp hway
  have hroot : ∀ x ∈ [("", fs.root)], x.2.WellFormed := by simpa using hfs
  exact wellFormed_of_follow (wellFormed_of_follow hroot hfirst) hfollow (name, e)
    List.mem_cons_self

/-- Names that lead from one entry to another lead to it also when they are joined to the path of
the first one. Each name is one step; the invariant is that the path so far means the entry so
far. -/
theorem find_foldl_join {fs : FileSystem} {e found : Entry} {names : List String}
    (hleads : e.Leads names found) :
    ∀ {directory : String}, e.WellFormed → fs.find directory = .ok e →
      refusal? (names.foldl Path.join directory) = none →
      fs.find (names.foldl Path.join directory) = .ok found := by
  induction hleads with
  | here e =>
    intro directory _ hfind _
    exact hfind
  | @down entries name names e found hmem hleads ih =>
    intro directory hwell hfind hallowed
    obtain ⟨hnodup, hnames⟩ := hwell [] entries (.here _)
    obtain ⟨s, up, hway⟩ := find_eq_ok_iff.mp hfind
    -- The walk comes through shorter paths than the one it makes, so none of them is refused.
    have hjoin : refusal? (Path.join directory name) = none := by
      obtain ⟨rest, hrest⟩ := Path.exists_foldl_join_eq names (Path.join directory name)
      rw [List.foldl_cons, hrest] at hallowed
      refine refusal?_of_append hallowed ?_
      obtain ⟨first, hfirst⟩ := Path.exists_join_eq directory name
      have hne := (refusal?_eq_none_iff.mp (way_eq_ok_iff.mp hway).1).2.1
      simp [hfirst, hne]
    have hname : IsName name := hnames _ hmem
    have hnext := way_join hway hname.slash_free
      (step_of_isName hname (entry?_of_mem hnodup hmem)) hjoin
    exact ih (hwell.of_mem hmem) (find_eq_ok_iff.mpr ⟨_, _, hnext⟩) hallowed

/-- A walk through a well-formed file system makes only paths that mean files. Without this, the
paths could be read differently from how they were written. -/
theorem isFile_of_yields {fs : FileSystem} (hfs : fs.root.WellFormed) {directory path : String}
    (h : fs.Yields directory path) : fs.isFile path = true := by
  obtain ⟨entries, names, content, hfind, hleads, rfl, hallowed⟩ := h
  have hfound := find_foldl_join hleads (wellFormed_of_find hfs hfind) hfind hallowed
  rw [isFile, hfound]

end FileSystem

end WorkflowLint
