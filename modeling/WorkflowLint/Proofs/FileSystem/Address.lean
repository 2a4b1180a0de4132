import WorkflowLint.Proofs.FileSystem
import WorkflowLint.Proofs.Path.Spelling

/-!
# `WorkflowLint.Proofs.FileSystem.Address`: which file a path means

There are no links in a file system, so a file has one address: the names on the way down to it from
the root. A path that does not lead up adds the names among its segments to the address of where it
starts (`addressOf_follow`), and nothing else about its spelling matters (`follow_named`). So two
relative paths that do not lead up mean the same file exactly if their bare components are the same
(`address?_eq_iff`).

What a walk yields has the components of the directory's path and the names behind them
(`Path.components_foldl_join`). It is spelled like the directory's path and does not lead up either.
-/

set_option autoImplicit false

namespace WorkflowLint

/-! ### Paths that a walk makes -/

namespace Path

/-- Joining names to a path leaves it absolute or relative, as they are written behind it. -/
theorem isAbsolute_foldl_join (names : List String) {directory : String}
    (hdirectory : directory ≠ "") :
    isAbsolute (names.foldl join directory) = isAbsolute directory := by
  obtain ⟨rest, hrest⟩ := exists_foldl_join_eq names directory
  rw [hrest, isAbsolute_append hdirectory]

/-- A name that is joined to a path adds one component, however the path ends: behind a slash
there was an empty segment, which is no component. -/
theorem components_join {directory name : String} (hdirectory : directory ≠ "")
    (hname : FileSystem.IsName name) :
    components (join directory name) = components directory ++ [.name name] := by
  have hlast (front : List String) : componentsOf (isAbsolute directory) true (front ++ [name])
      = componentsOf (isAbsolute directory) true front ++ [.name name] := by
    rw [componentsOf_append_singleton]
    simp [isFiller, componentOf, hname.ne_empty, hname.ne_here, hname.ne_up]
  rw [components_eq, components_eq,
    show isAbsolute (join directory name) = _ from isAbsolute_foldl_join [name] hdirectory]
  obtain hsegments | ⟨front, hfront, hsegments⟩ := segments_join hdirectory hname.slash_free
  · rw [hsegments, hlast, List.append_assoc]
  · -- The empty segment behind a slash was no component.
    rw [hsegments, hlast, hfront, componentsOf_append_singleton]
    simp [isFiller]

/-- Several names add a component each, in their order: this is how the path of a file in a walk
is put together. -/
theorem components_foldl_join {names : List String}
    (hnames : ∀ name ∈ names, FileSystem.IsName name) {directory : String}
    (hdirectory : directory ≠ "") :
    components (names.foldl join directory) = components directory ++ names.map .name := by
  induction names generalizing directory with
  | nil => rw [List.foldl_nil, List.map_nil, List.append_nil]
  | cons name names ih =>
    -- The path grows, so it does not become empty.
    have hjoin : join directory name ≠ "" := by
      obtain ⟨rest, hrest⟩ := exists_join_eq directory name
      simp [hrest, hdirectory]
    rw [List.foldl_cons, ih (fun n hn => hnames n (List.mem_cons_of_mem _ hn)) hjoin,
      components_join hdirectory (hnames name List.mem_cons_self), List.append_assoc]
    rfl

/-- A relative path that does not lead up. -/
structure Descends (path : String) : Prop where
  relative : isAbsolute path = false
  no_up : .up ∉ components path

/-- A path that does not lead up still does not when names are joined to it, since two full stops
are no name. -/
theorem Descends.foldl_join {names : List String} (hnames : ∀ name ∈ names, FileSystem.IsName name)
    {directory : String} (hdirectory : directory ≠ "") (h : Descends directory) :
    Descends (names.foldl join directory) where
  relative := (isAbsolute_foldl_join names hdirectory).trans h.relative
  no_up := by simp [components_foldl_join hnames hdirectory, h.no_up]

/-- A path that does not lead up has no segment that would. -/
theorem Descends.up_not_mem_segments {path : String} (h : Descends path) :
    ".." ∉ segments path := by
  intro hmem
  -- Two full stops are a name as far as segments go, and they become the component that leads up.
  have hnamed : ".." ∈ named (segments path) := List.mem_filter.mpr ⟨hmem, by decide⟩
  have hbare : .up ∈ bare path := by
    rw [bare_eq]
    exact List.mem_append_right _ (List.mem_map.mpr ⟨_, hnamed, rfl⟩)
  exact h.no_up (List.mem_of_mem_filter hbare)

/-- Of two such paths the bare components are the same exactly if the names among their segments
are. -/
theorem Descends.bare_eq_iff {p q : String} (hp : Descends p) (hq : Descends q) :
    bare p = bare q ↔ named (segments p) = named (segments q) := by
  rw [bare_eq, bare_eq, hp.relative, hq.relative, List.append_cancel_left_eq,
    (List.map_injective_iff.mpr componentOf_injective).eq_iff]

end Path

/-! ### Addresses -/

/-- Names that lead somewhere in a well-formed entry are names that entries can have. -/
theorem Entry.WellFormed.isName_of_leads {e found : Entry} {names : List String}
    (h : e.WellFormed) (hleads : e.Leads names found) :
    ∀ name ∈ names, FileSystem.IsName name := by
  induction hleads with
  | here e => exact fun _ hname => absurd hname List.not_mem_nil
  | @down entries name names e found hmem _ ih =>
    rw [List.forall_mem_cons]
    exact ⟨(h [] entries (.here _)).2 _ hmem, ih (h.of_mem hmem)⟩

namespace FileSystem

/-- The address of what a path means. -/
def address? (fs : FileSystem) (path : String) : Option (List String) :=
  (fs.way path).toOption.map addressOf

/-- One more step down adds one name to the address. The name of the root is left out, so there
has to be a way already. -/
theorem addressOf_cons (x : String × Entry) {w : Way} (hw : w ≠ []) :
    addressOf (x :: w) = addressOf w ++ [x.1] := by
  have hlength : 1 ≤ (w.map (·.1)).reverse.length := by
    rw [List.length_reverse, List.length_map]
    exact List.length_pos_iff.mpr hw
  rw [addressOf, List.map_cons, List.reverse_cons, List.drop_append_of_le_length hlength]
  rfl

/-- A segment that does not lead up stays where it is if it is a filler, and otherwise goes down
by its name. -/
theorem step_of_ne_up {w next : Way} {s : String} (hup : s ≠ "..") (h : step w s = .ok next) :
    Path.named [s] = [] ∧ next = w ∨
      Path.named [s] = [s] ∧ w ≠ [] ∧ ∃ e, next = (s, e) :: w := by
  obtain ⟨name, entries, up, rfl, ⟨rfl | rfl, rfl⟩ | ⟨rfl, -⟩ | ⟨hne, e, -, rfl⟩⟩ := step_cases h
  · exact .inl ⟨rfl, rfl⟩
  · exact .inl ⟨rfl, rfl⟩
  · contradiction
  · by_cases hdot : s = "."
    · -- A full stop is not looked up, even if there is an entry of this name.
      subst hdot
      exact .inl ⟨rfl, (Except.ok.inj h).symm⟩
    · refine .inr ⟨?_, List.cons_ne_nil _ _, e, rfl⟩
      simp [Path.named, hne, hdot]

/-- Fillers lead nowhere: following only the names among the segments ends in the same place. -/
theorem follow_named {w next : Way} {segments : List String} (hup : ".." ∉ segments)
    (h : follow w segments = .ok next) : follow w (Path.named segments) = .ok next := by
  induction segments generalizing w with
  | nil => exact h
  | cons s rest ih =>
    rw [List.mem_cons, not_or] at hup
    obtain ⟨between, hstep, hrest⟩ := bind_eq_ok_iff.mp h
    have hcons : Path.named (s :: rest) = Path.named [s] ++ Path.named rest :=
      List.filter_append [s] rest
    rw [hcons]
    -- A filler is dropped from the names and did not move; a name is kept.
    obtain ⟨hfiller, rfl⟩ | ⟨hname, -⟩ := step_of_ne_up (Ne.symm hup.1) hstep
    · rw [hfiller]
      exact ih hup.2 hrest
    · rw [hname]
      exact bind_eq_ok_iff.mpr ⟨between, hstep, ih hup.2 hrest⟩

/-- The names among the segments are added to the address. So the address of what a path means is
that of its start and the names of the path. -/
theorem addressOf_follow {w next : Way} {segments : List String} (hup : ".." ∉ segments)
    (h : follow w segments = .ok next) :
    addressOf next = addressOf w ++ Path.named segments := by
  induction segments generalizing w with
  | nil =>
    obtain rfl := Except.ok.inj h
    exact (List.append_nil _).symm
  | cons s rest ih =>
    rw [List.mem_cons, not_or] at hup
    obtain ⟨between, hstep, hrest⟩ := bind_eq_ok_iff.mp h
    have hcons : Path.named (s :: rest) = Path.named [s] ++ Path.named rest :=
      List.filter_append [s] rest
    rw [hcons, ih hup.2 hrest]
    -- A filler adds nothing on either side, and a name is added at the end of the address.
    obtain ⟨hfiller, rfl⟩ | ⟨hname, hw, e, rfl⟩ := step_of_ne_up (Ne.symm hup.1) hstep
    · rw [hfiller, List.nil_append]
    · rw [hname, addressOf_cons _ hw, List.append_assoc]

section
variable {fs : FileSystem} {p q : String}

/-- A path that means a file leads to it, and the way is the one that reading goes. -/
theorem exists_way_of_isFile (h : fs.isFile p = true) : ∃ w, fs.way p = .ok w := by
  rw [isFile] at h
  split at h
  case h_1 content hfind =>
    obtain ⟨name, up, hway⟩ := find_eq_ok_iff.mp hfind
    exact ⟨_, hway⟩
  case h_2 => cases h

/-- The ways of two such paths start in the same directory: both paths are relative, and that is
where relative paths start. -/
theorem exists_follow_of_descends (hp : Path.Descends p) (hq : Path.Descends q) {w w' : Way}
    (hway : fs.way p = .ok w) (hway' : fs.way q = .ok w') :
    ∃ first, follow first (Path.segments p) = .ok w ∧ follow first (Path.segments q) = .ok w' := by
  obtain ⟨-, first, hfirst, hfollow⟩ := way_eq_ok_iff.mp hway
  obtain ⟨-, first', hfirst', hfollow'⟩ := way_eq_ok_iff.mp hway'
  rw [hp.relative] at hfirst
  rw [hq.relative] at hfirst'
  obtain rfl : first = first' := Except.ok.inj (hfirst.symm.trans hfirst')
  exact ⟨first, hfollow, hfollow'⟩

/-- Two relative paths that do not lead up have the same address exactly if they have the same bare
components, given that they lead anywhere. -/
theorem address?_eq_iff (hp : Path.Descends p) (hq : Path.Descends q) {w w' : Way}
    (hway : fs.way p = .ok w) (hway' : fs.way q = .ok w') :
    fs.address? p = fs.address? q ↔ Path.bare p = Path.bare q := by
  obtain ⟨first, hfollow, hfollow'⟩ := exists_follow_of_descends hp hq hway hway'
  rw [address?, address?, hway, hway', hp.bare_eq_iff hq]
  show some (addressOf w) = some (addressOf w') ↔ _
  rw [addressOf_follow hp.up_not_mem_segments hfollow,
    addressOf_follow hq.up_not_mem_segments hfollow', Option.some_inj,
    List.append_cancel_left_eq]

/-- Whatever else the spelling does, the same is read. Both paths are reduced to their names and
then follow the same steps. -/
theorem read_eq_of_bare_eq (hp : Path.Descends p) (hq : Path.Descends q)
    (hfile : fs.isFile p = true) (hfile' : fs.isFile q = true) (h : Path.bare p = Path.bare q) :
    fs.read p = fs.read q := by
  obtain ⟨w, hway⟩ := exists_way_of_isFile hfile
  obtain ⟨w', hway'⟩ := exists_way_of_isFile hfile'
  obtain ⟨first, hfollow, hfollow'⟩ := exists_follow_of_descends hp hq hway hway'
  -- Following the names alone gives the same ways, and the names are the same.
  have hnamed := follow_named hp.up_not_mem_segments hfollow
  have hnamed' := follow_named hq.up_not_mem_segments hfollow'
  rw [(hp.bare_eq_iff hq).mp h] at hnamed
  obtain rfl : w = w' := Except.ok.inj (hnamed.symm.trans hnamed')
  rw [read, find, hway, read, find, hway']

end

end FileSystem

end WorkflowLint
