import Mathlib.Data.List.TakeWhile
import WorkflowLint.Proofs.RuleChoice
import WorkflowLint.Proofs.Sorted

/-!
# `WorkflowLint.Proofs.Url`: which web addresses a document has

The search for addresses goes through a text from the left, takes an address where one
starts and goes on behind its end. What it finds can be said without a search. The
characters that end an address cut a text into runs (`IsRun`). A run has at most one
address: what is left of the run from the first place on at which a scheme stands with
something behind it (`IsFirst`). The search finds the addresses of the runs and nothing
else (`mem_findIn_iff`).

* `at?_append`: an address at the front of a text goes to the end of the run.
* `mem_findIn_append`: the search takes the address of the first run, however far into the
  run it starts, and goes on behind the run.
* `isRun_cons` and `isRun_append`: the runs of a text are taken off its front in the same
  way.

`Document.urls_announced_or_found` puts the addresses of a document together: the values of
attributes that are announced as addresses, and the addresses of runs. All of them start
with a scheme and have no white space in them. Searching them again finds none that is not
there already. An address of a run has no address inside but itself. An announced one may
have others, because a quote or a bracket does not end it; but then it is the value of an
attribute, and the search went through it before.
-/

set_option autoImplicit false

namespace WorkflowLint

namespace Url

/-! ### Pieces of a text -/

/-- No character of a list ends an address. -/
def Unbroken (piece : List Char) : Prop := ∀ c ∈ piece, isEnd c = false

/-- A list is empty or starts with a character that ends an address. -/
def Breaks (rest : List Char) : Prop := ∀ c ∈ rest.head?, isEnd c = true

/-- A list starts with a scheme, and at least one character follows it. -/
def Opens (s : List Char) : Prop := ∃ scheme ∈ schemes, ∃ c rest, s = scheme.toList ++ c :: rest

instance (piece : List Char) : Decidable (Unbroken piece) := List.decidableBAll _ piece

/-- No scheme has a character that ends an address, so a scheme is never cut off by one. -/
theorem unbroken_of_mem_schemes : ∀ scheme ∈ schemes, Unbroken scheme.toList := by
  decide +kernel

/-- The characters up to the first that ends an address are those of the first piece, since the
piece has no such character and what follows starts with one. -/
theorem takeWhile_piece {piece rest : List Char} (hpiece : Unbroken piece) (hrest : Breaks rest) :
    (piece ++ rest).takeWhile (fun c => !isEnd c) = piece := by
  have hnone : rest.takeWhile (fun c => !isEnd c) = [] := by
    cases rest with
    | nil => rfl
    | cons c rest => simp [hrest c rfl]
  rw [List.takeWhile_append_of_pos (fun c hc => by simp [hpiece c hc]), hnone, List.append_nil]

/-- What has no end of an address in it and stands in front of a list stands in front of its
first piece. -/
theorem prefix_piece {l piece rest : List Char} (hl : Unbroken l) (hrest : Breaks rest)
    (h : l <+: piece ++ rest) : l <+: piece := by
  rcases List.prefix_or_prefix_of_prefix h (List.prefix_append piece rest) with h' | ⟨t, rfl⟩
  · exact h'
  · -- Were it longer than the piece, it would go over the end behind the piece.
    have ht : t <+: rest := (List.prefix_append_right_inj piece).mp h
    cases t with
    | nil => simp
    | cons c t =>
      obtain ⟨u, rfl⟩ := ht
      have hc : isEnd c = false := hl c (by simp)
      rw [hrest c rfl] at hc
      cases hc

/-- A list that does not start with an end of an address starts with a piece. -/
theorem exists_piece {c : Char} (rest : List Char) (hc : isEnd c = false) :
    ∃ piece behind, c :: rest = piece ++ behind ∧ piece ≠ [] ∧ Unbroken piece ∧
      Breaks behind := by
  refine ⟨(c :: rest).takeWhile (fun c => !isEnd c), (c :: rest).dropWhile (fun c => !isEnd c),
    List.takeWhile_append_dropWhile.symm, ?_, ?_, ?_⟩
  · simp [hc]
  · intro d hd
    simpa using List.mem_takeWhile_imp hd
  · intro d hd
    rw [← List.find?_eq_head?_dropWhile_not] at hd
    exact List.find?_some hd

/-- Behind a scheme in front of a list, the rest of the first piece comes before an end. -/
theorem takeWhile_drop_scheme {scheme : String} {body rest : List Char} (hbody : Unbroken body)
    (hrest : Breaks rest) :
    ((scheme.toList ++ body ++ rest).drop scheme.length).takeWhile (fun c => !isEnd c) = body := by
  rw [← String.length_toList, List.append_assoc, List.drop_left, takeWhile_piece hbody hrest]

/-- An address at the front of a list is the whole first piece. The search tries the schemes in
their order, but all that open the piece lead to the same address. -/
theorem at?_append {piece rest url : List Char} (hpiece : Unbroken piece) (hrest : Breaks rest) :
    at? (piece ++ rest) = some url ↔ Opens piece ∧ url = piece := by
  have hsound : ∀ url, at? (piece ++ rest) = some url → Opens piece ∧ url = piece := by
    intro url h
    obtain ⟨scheme, hscheme, h⟩ := List.exists_of_findSome?_eq_some h
    simp only [List.isPrefixOf_iff_prefix] at h
    split at h
    · rename_i hfront
      obtain ⟨body, rfl⟩ := prefix_piece (unbroken_of_mem_schemes scheme hscheme) hrest hfront
      have hbody : Unbroken body := fun c hc => hpiece c (List.mem_append_right _ hc)
      rw [takeWhile_drop_scheme hbody hrest] at h
      cases body with
      | nil => cases h
      | cons c body => exact ⟨⟨scheme, hscheme, c, body, rfl⟩, (Option.some.inj h).symm⟩
    · cases h
  constructor
  -- That nothing else is found was shown above; it remains that the address is found.
  · exact hsound url
  · rintro ⟨⟨scheme, hscheme, c, body, rfl⟩, rfl⟩
    cases hat : at? (scheme.toList ++ c :: body ++ rest) with
    | some url => rw [(hsound url hat).2]
    | none =>
      -- The search for a scheme does not pass this one over.
      have hbody : Unbroken (c :: body) := fun c hc => hpiece c (List.mem_append_right _ hc)
      have hfront : scheme.toList <+: scheme.toList ++ c :: body ++ rest :=
        (List.prefix_append _ _).trans (List.prefix_append _ _)
      have hnone := List.findSome?_eq_none_iff.mp hat scheme hscheme
      simp only [List.isPrefixOf_iff_prefix] at hnone
      rw [if_pos hfront, takeWhile_drop_scheme hbody hrest] at hnone
      cases hnone

/-! ### The address of a piece -/

/-- The part of a piece from the first place on at which an address opens: an address opens
there, and wherever else one opens in the piece lies behind that place. -/
structure IsFirst (piece url : List Char) : Prop where
  part : url <:+ piece
  opens : Opens url
  first : ∀ other, other <:+ piece → Opens other → other <:+ url

/-- The empty piece has no address, because a scheme is not empty. -/
theorem not_isFirst_nil {url : List Char} : ¬ IsFirst [] url := by
  intro h
  obtain ⟨scheme, -, c, rest, rfl⟩ := h.opens
  simpa using List.suffix_nil.mp h.part

/-- Where an address opens at the front of a piece, it is the whole piece: no other place is in
front of this one. -/
theorem isFirst_of_opens {piece url : List Char} (h : Opens piece) :
    IsFirst piece url ↔ url = piece := by
  constructor
  · intro hurl
    exact hurl.part.eq_of_length_le (hurl.first piece List.suffix_rfl h).length_le
  · rintro rfl
    exact ⟨List.suffix_rfl, h, fun _ hother _ => hother⟩

/-- A character at which no address opens does not matter: the address of the piece is that of the
rest. -/
theorem isFirst_cons {c : Char} {piece url : List Char} (h : ¬ Opens (c :: piece)) :
    IsFirst (c :: piece) url ↔ IsFirst piece url := by
  -- Where an address opens is not the front of this list, so it is in the rest.
  have hpart : ∀ {l}, Opens l → (l <:+ c :: piece ↔ l <:+ piece) := by
    intro l hl
    rw [List.suffix_cons_iff, or_iff_right]
    rintro rfl
    exact h hl
  constructor
  · intro hurl
    exact ⟨(hpart hurl.opens).mp hurl.part, hurl.opens,
      fun other hother ho => hurl.first other ((hpart ho).mpr hother) ho⟩
  · intro hurl
    exact ⟨(hpart hurl.opens).mpr hurl.part, hurl.opens,
      fun other hother ho => hurl.first other ((hpart ho).mp hother) ho⟩

/-- The search takes the address of the first piece and goes on behind the piece. Up to the place
where the address opens the search finds nothing, and then it takes all that is left. -/
theorem mem_findIn_append {piece rest url : List Char} (hpiece : Unbroken piece)
    (hrest : Breaks rest) :
    url ∈ findIn (piece ++ rest) ↔ IsFirst piece url ∨ url ∈ findIn rest := by
  -- The search comes to the address character by character, so the induction is on the piece.
  induction piece with
  | nil => exact (or_iff_right not_isFirst_nil).symm
  | cons c piece ih =>
    by_cases hopens : Opens (c :: piece)
    · have hat : at? (c :: (piece ++ rest)) = some (c :: piece) :=
        (at?_append hpiece hrest).mpr ⟨hopens, rfl⟩
      rw [List.cons_append, findIn, hat, isFirst_of_opens hopens]
      simp
    · have hat : at? (c :: (piece ++ rest)) = none := by
        refine Option.eq_none_iff_forall_not_mem.mpr fun url hurl => ?_
        exact hopens ((at?_append hpiece hrest).mp hurl).1
      rw [List.cons_append, findIn, hat, isFirst_cons hopens]
      exact ih fun d hd => hpiece d (List.mem_cons_of_mem c hd)

/-- No address starts at a character that ends one, so the search may go on behind it. -/
theorem findIn_cons {c : Char} (hc : isEnd c = true) (s : List Char) :
    findIn (c :: s) = findIn s := by
  have hbreaks : Breaks (c :: s) := by simpa [Breaks] using hc
  have hunbroken : Unbroken [] := by simp [Unbroken]
  have hat : at? (c :: s) = none := by
    refine Option.eq_none_iff_forall_not_mem.mpr fun url hurl => ?_
    obtain ⟨⟨scheme, -, d, rest, h⟩, -⟩ := (at?_append hunbroken hbreaks).mp hurl
    simp at h
  rw [findIn, hat]

/-! ### Runs -/

/-- A run of a list of characters: a stretch of it in which no character ends an address,
and which such a character, or an end of the list, bounds on either side. -/
def IsRun (s run : List Char) : Prop :=
  run ≠ [] ∧ Unbroken run ∧ ∃ before after, s = before ++ (run ++ after) ∧
    (∀ c ∈ before.getLast?, isEnd c = true) ∧ ∀ c ∈ after.head?, isEnd c = true

/-- An empty list has no runs, since runs are not empty. -/
theorem not_isRun_nil {run : List Char} : ¬ IsRun [] run := by
  rintro ⟨hne, -, before, after, h, -, -⟩
  simp_all

/-- A character that ends an address belongs to no run, and it bounds the run behind it as well as
the start of a list does. -/
theorem isRun_cons {c : Char} {s run : List Char} (hc : isEnd c = true) :
    IsRun (c :: s) run ↔ IsRun s run := by
  constructor
  · rintro ⟨hne, hrun, before, after, h, hbefore, hafter⟩
    -- In front of the run stands nothing or the character; nothing would make it part of the run.
    cases before with
    | nil =>
      obtain ⟨d, run, rfl⟩ := List.exists_cons_of_ne_nil hne
      obtain ⟨rfl, -⟩ := List.cons.inj h
      rw [hrun c List.mem_cons_self] at hc
      cases hc
    | cons d before =>
      obtain ⟨rfl, rfl⟩ := List.cons.inj h
      refine ⟨hne, hrun, before, after, rfl, ?_, hafter⟩
      intro e he
      exact hbefore e (List.mem_getLast?_cons he)
  · rintro ⟨hne, hrun, before, after, rfl, hbefore, hafter⟩
    refine ⟨hne, hrun, c :: before, after, rfl, ?_, hafter⟩
    cases before with
    | nil => simpa using hc
    | cons d before => simpa using hbefore

/-- The runs of a list are its first piece and the runs behind it. -/
theorem isRun_append {piece rest run : List Char} (hne : piece ≠ []) (hpiece : Unbroken piece)
    (hrest : Breaks rest) : IsRun (piece ++ rest) run ↔ run = piece ∨ IsRun rest run := by
  constructor
  · rintro ⟨hrunne, hrun, before, after, h, hbefore, hafter⟩
    -- The run starts behind the piece or within it.
    rcases List.append_eq_append_iff.mp h with ⟨behind, rfl, hbehind⟩ | ⟨front, rfl, hfront⟩
    · refine .inr ⟨hrunne, hrun, behind, after, hbehind, ?_, hafter⟩
      intro c hc
      exact hbefore c (List.mem_getLast?_append_of_mem_getLast? hc)
    · -- What is in front of the run is part of the piece, so nothing bounds the run there.
      have hnil : before = [] := by
        refine List.getLast?_eq_none_iff.mp (Option.eq_none_iff_forall_not_mem.mpr fun c hc => ?_)
        have hfalse := hpiece c (List.mem_append_left _ (List.mem_of_getLast? hc))
        rw [hbefore c hc] at hfalse
        cases hfalse
      subst hnil
      left
      rw [← takeWhile_piece hpiece hrest, h, List.nil_append, takeWhile_piece hrun hafter]
  · rintro (rfl | ⟨hrunne, hrun, before, after, rfl, hbefore, hafter⟩)
    · exact ⟨hne, hpiece, [], rest, rfl, by simp, hrest⟩
    · refine ⟨hrunne, hrun, piece ++ before, after, (List.append_assoc ..).symm, ?_, hafter⟩
      cases before with
      | nil =>
        -- The run would follow the piece directly, but an end stands there.
        obtain ⟨d, run, rfl⟩ := List.exists_cons_of_ne_nil hrunne
        have hd := hrest d rfl
        rw [hrun d List.mem_cons_self] at hd
        cases hd
      | cons d before => simpa using hbefore

/-- The addresses in a list of characters are those of its runs. The list is taken apart run by
run, and each step leaves a shorter list. -/
theorem mem_findIn_iff (s : List Char) {url : List Char} :
    url ∈ findIn s ↔ ∃ run, IsRun s run ∧ IsFirst run url := by
  match s with
  | [] => simp [findIn, not_isRun_nil]
  | c :: rest =>
    cases hc : isEnd c with
    | true =>
      rw [findIn_cons hc, mem_findIn_iff rest]
      simp only [isRun_cons hc]
    | false =>
      obtain ⟨piece, behind, hsplit, hne, hpiece, hbehind⟩ := exists_piece rest hc
      -- The piece is not empty, so what is behind it is shorter.
      have hshorter : behind.length ≤ rest.length := by
        have hpos := List.length_pos_iff.mpr hne
        have hlength := congrArg List.length hsplit
        rw [List.length_cons, List.length_append] at hlength
        omega
      rw [hsplit, mem_findIn_append hpiece hbehind, mem_findIn_iff behind]
      simp only [isRun_append hne hpiece hbehind, or_and_right, exists_or, exists_eq_left]
termination_by s.length

/-! ### Texts and attributes -/

/-- The same for texts, which are lists of characters: an address is what a run of the text starts
with. -/
theorem mem_find_iff {text url : String} :
    url ∈ find text ↔ ∃ run, IsRun text.toList run ∧ IsFirst run url.toList := by
  rw [← mem_findIn_iff, find, List.mem_map]
  constructor
  · rintro ⟨l, hl, rfl⟩
    rwa [String.toList_ofList]
  · intro h
    exact ⟨url.toList, h, String.ofList_toList⟩

/-- A text starts with a scheme and has no white space in it. -/
structure IsAddress (s : String) : Prop where
  scheme : ∃ scheme ∈ schemes, scheme.toList <+: s.toList
  solid : ∀ c ∈ s.toList, Text.isSpace c = false

/-- The test on the value of an attribute: it starts with a scheme and has no white space in it. -/
theorem isPlain_iff {s : String} : isPlain s = true ↔ IsAddress s := by
  rw [isPlain, Bool.and_eq_true, List.any_eq_true, Bool.not_eq_true', List.any_eq_false]
  simp only [Text.startsWith, List.isPrefixOf_iff_prefix, Bool.not_eq_true]
  exact ⟨fun h => ⟨h.1, h.2⟩, fun h => ⟨h.scheme, h.solid⟩⟩

/-- The address of a run has no end of an address in it. -/
theorem unbroken_of_isFirst {s run url : List Char} (hrun : IsRun s run) (h : IsFirst run url) :
    Unbroken url := by
  obtain ⟨-, hunbroken, -⟩ := hrun
  intro c hc
  exact hunbroken c (h.part.subset hc)

/-- What the search finds starts with a scheme and has no white space in it. The first holds
because an address opens there, the second because white space ends one. -/
theorem isAddress_of_mem_find {text url : String} (h : url ∈ find text) : IsAddress url := by
  obtain ⟨run, hrun, hurl⟩ := mem_find_iff.mp h
  obtain ⟨scheme, hscheme, c, rest, heq⟩ := hurl.opens
  refine ⟨⟨scheme, hscheme, heq ▸ List.prefix_append _ _⟩, ?_⟩
  intro c hc
  -- White space is the first of the four things that end an address.
  have hend := unbroken_of_isFirst hrun hurl c hc
  simp only [isEnd, Bool.or_eq_false_iff] at hend
  exact hend.1.1.1

/-- An address that was found in a text has no other address in it, as it is a run of its own and
opens at its front. -/
theorem eq_of_mem_find {text url inner : String} (h : url ∈ find text) (hinner : inner ∈ find url) :
    inner = url := by
  obtain ⟨run, hrun, hurl⟩ := mem_find_iff.mp h
  have hunbroken : Unbroken url.toList := unbroken_of_isFirst hrun hurl
  have hend : Breaks [] := by simp [Breaks]
  rw [mem_find_iff, ← mem_findIn_iff, ← List.append_nil url.toList,
    mem_findIn_append hunbroken hend, isFirst_of_opens hurl.opens] at hinner
  rcases hinner with hinner | hinner
  · exact String.toList_inj.mp hinner
  · simp [findIn] at hinner

/-- The name of an attribute announces an address. -/
def IsHinted (a : Xml.Attribute) : Prop := ∃ hint ∈ hints, hint.toList <:+: a.name.toList

/-- An attribute yields its value, if its name announces an address and the value is one, and
whatever the search finds in the value. -/
theorem mem_ofAttribute_iff {a : Xml.Attribute} {url : String} :
    url ∈ ofAttribute a ↔ (IsHinted a ∧ a.value = url ∧ IsAddress url) ∨ url ∈ find a.value := by
  have hhint : (hints.any fun hint => Text.occurs hint a.name) = true ↔ IsHinted a := by
    simp only [List.any_eq_true, Text.occurs, Text.occursIn_iff, IsHinted]
  rw [ofAttribute, List.mem_append]
  refine or_congr_left ?_
  split
  · rename_i h
    -- The value is taken as it is.
    rw [Bool.and_eq_true, hhint, isPlain_iff] at h
    rw [List.mem_singleton]
    constructor
    · rintro rfl
      exact ⟨h.1, rfl, h.2⟩
    · exact fun h => h.2.1.symm
  · rename_i h
    -- Otherwise only the search is left.
    rw [Bool.and_eq_true, hhint, isPlain_iff] at h
    refine iff_of_false List.not_mem_nil ?_
    rintro ⟨hhinted, rfl, haddress⟩
    exact h ⟨hhinted, haddress⟩

end Url

/-! ### Documents -/

/-- An element starts with a text when the text is the first thing in its content. -/
theorem Xml.Element.leadingText?_eq_some_iff {e : Xml.Element} {text : String} :
    e.leadingText? = some text ↔ ∃ rest, e.content = .text text :: rest := by
  rw [leadingText?]
  cases e.content with
  | nil => simp
  | cons node rest => cases node <;> simp

namespace Document

/-- An address is the value of an attribute whose name announces one. -/
def Announces (d : Document) (url : String) : Prop :=
  ∃ e ∈ d.elements, ∃ a ∈ e.head.attributes,
    Url.IsHinted a ∧ a.value = url ∧ Url.IsAddress url

/-- An element is a string literal and starts with a text. A string literal is an element
`String` in no namespace or in the language's own. It starts with a text when nothing is in
front of the text, neither an element nor a comment. -/
def IsLiteral (d : Document) (e : Xml.Element) (text : String) : Prop :=
  e.name = "String" ∧ (e.head.ns = none ∨ e.head.ns = some d.xamlUri) ∧
    ∃ rest, e.content = .text text :: rest

/-- A text that addresses are searched in: the value of an attribute, or the text of a string
literal. -/
def Holds (d : Document) (text : String) : Prop :=
  ∃ e ∈ d.elements, (∃ a ∈ e.head.attributes, a.value = text) ∨ d.IsLiteral e text

/-- The text of an element is looked at when the element is a string literal, and only the text
that it starts with. -/
theorem mem_ofLiteral_iff {d : Document} {e : Xml.Element} {url : String} :
    url ∈ Url.ofLiteral d.xamlUri e ↔ ∃ text, d.IsLiteral e text ∧ url ∈ Url.find text := by
  have hns : (e.head.ns.all fun ns => ns == d.xamlUri) = true
      ↔ e.head.ns = none ∨ e.head.ns = some d.xamlUri := by
    cases e.head.ns <;> simp
  rw [Url.ofLiteral]
  simp only [Bool.and_eq_true, beq_iff_eq, hns, IsLiteral]
  split
  · rename_i h
    simp only [← Xml.Element.leadingText?_eq_some_iff]
    cases e.leadingText? with
    | none => simp
    | some text => simp [h]
  · rename_i h
    refine iff_of_false List.not_mem_nil ?_
    rintro ⟨text, ⟨hname, hns, -⟩, -⟩
    exact h ⟨hname, hns⟩

/-- The addresses of a document are those announced by an attribute and those that the search
finds in a text. The list of addresses has no repetition and an order of its own, which play no
part here. -/
theorem mem_urls_iff {d : Document} {url : String} :
    url ∈ d.urls.toList ↔ d.Announces url ∨ ∃ text, d.Holds text ∧ url ∈ Url.find text := by
  rw [urls, Words.mem_toList_ofList]
  simp only [List.mem_flatMap, List.mem_append, Url.mem_ofAttribute_iff, mem_ofLiteral_iff]
  constructor
  · rintro ⟨e, he, ⟨a, ha, h | h⟩ | ⟨text, htext, h⟩⟩
    · exact .inl ⟨e, he, a, ha, h⟩
    · exact .inr ⟨a.value, ⟨e, he, .inl ⟨a, ha, rfl⟩⟩, h⟩
    · exact .inr ⟨text, ⟨e, he, .inr htext⟩, h⟩
  · rintro (⟨e, he, a, ha, h⟩ | ⟨text, ⟨e, he, ⟨a, ha, rfl⟩ | htext⟩, h⟩)
    · exact ⟨e, he, .inl ⟨a, ha, .inl h⟩⟩
    · exact ⟨e, he, .inl ⟨a, ha, .inr h⟩⟩
    · exact ⟨e, he, .inr ⟨text, htext, h⟩⟩

/-- Searching an address of a document finds addresses of the document. -/
theorem mem_urls_of_mem_find {d : Document} {url inner : String} (h : url ∈ d.urls.toList)
    (hinner : inner ∈ Url.find url) : inner ∈ d.urls.toList := by
  rcases mem_urls_iff.mp h with ⟨e, he, a, ha, -, hvalue, -⟩ | ⟨text, -, hfound⟩
  · -- An announced address is itself a text that is searched.
    have hholds : d.Holds url := ⟨e, he, .inl ⟨a, ha, hvalue⟩⟩
    exact mem_urls_iff.mpr (.inr ⟨url, hholds, hinner⟩)
  · rwa [Url.eq_of_mem_find hfound hinner]

/-- The addresses of a document are the announced ones and the addresses of the runs of the
texts that it holds. They start with a scheme and have no white space in them, and an
address that the search finds inside of one of them is one of them. -/
theorem urls_announced_or_found (d : Document) :
    (∀ url, url ∈ d.urls.toList ↔ d.Announces url ∨ ∃ text, d.Holds text ∧
      ∃ run, Url.IsRun text.toList run ∧ Url.IsFirst run url.toList) ∧
    (∀ url ∈ d.urls.toList, Url.IsAddress url) ∧
    ∀ url ∈ d.urls.toList, ∀ inner ∈ Url.find url, inner ∈ d.urls.toList := by
  refine ⟨?_, ?_, fun url hurl inner => mem_urls_of_mem_find hurl⟩
  · intro url
    simp only [mem_urls_iff, Url.mem_find_iff]
  · intro url hurl
    rcases mem_urls_iff.mp hurl with ⟨e, -, a, -, -, -, haddress⟩ | ⟨text, -, hfound⟩
    · exact haddress
    · exact Url.isAddress_of_mem_find hfound

/-- A document with an announced address that has others inside, and with a string literal. -/
def quotedUrls : String :=
  "<A BaseUrl=\"http://a.b/?u=https://c'http://https://d]e\">" ++
  "<String>see http://x.y, or not</String></A>"

/-- The quote and the bracket do not end the announced address. They end the two addresses
inside, each of which has a second scheme in it. The literal has an address that goes to the
end of its run, with the comma. -/
theorem urls_announced_or_found_quoted :
    ∃ d, Document.read quotedUrls "Main.xaml" = .ok d ∧
      (∃ url ∈ d.urls.toList, Url.IsAddress url ∧
        ∃ inner ∈ Url.find url, inner ≠ url ∧ inner ∈ d.urls.toList) ∧
      (∃ e ∈ d.elements, d.IsLiteral e "see http://x.y, or not") ∧
      "http://x.y," ∈ d.urls.toList := by
  obtain ⟨d, hread, ⟨url, hurl, inner, hinner, hne⟩, e, he, hname, hns, hcontent⟩ :
      ∃ d, Document.read quotedUrls "Main.xaml" = .ok d ∧
        (∃ url ∈ d.urls.toList, ∃ inner ∈ Url.find url, inner ≠ url) ∧
        ∃ e ∈ d.elements, e.name = "String" ∧ e.head.ns = none ∧
          e.leadingText? = some "see http://x.y, or not" :=
    exists_ok_of_any (by decide +kernel)
  obtain ⟨hmem, haddress, hclosed⟩ := urls_announced_or_found d
  have hliteral : d.IsLiteral e "see http://x.y, or not" :=
    ⟨hname, .inl hns, Xml.Element.leadingText?_eq_some_iff.mp hcontent⟩
  have hrun : ∃ run, Url.IsRun "see http://x.y, or not".toList run ∧
      Url.IsFirst run "http://x.y,".toList :=
    Url.mem_find_iff.mp (by decide +kernel)
  exact ⟨d, hread, ⟨url, hurl, haddress url hurl, inner, hinner, hne,
    hclosed url hurl inner hinner⟩, ⟨e, he, hliteral⟩,
    (hmem _).mpr (.inr ⟨_, ⟨e, he, .inr hliteral⟩, hrun⟩)⟩

end Document

end WorkflowLint
