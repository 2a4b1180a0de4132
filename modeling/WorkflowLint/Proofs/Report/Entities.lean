import WorkflowLint.Report.Html

/-!
# `WorkflowLint.Proofs.Report.Entities`: texts in a page mean themselves

A text is escaped in five passes over the whole of it, and each pass sees what the passes before it
wrote. The order of the passes makes this harmless: ampersands go first, and no later pass writes a
character that one behind it looks for. So the five passes are one pass, in which every character
with an entity is written as the entity and every other one as itself (`toList_escapeText`).

A browser reads entities from the left to the right, as `unescapeText` does, and it gets the text
back (`unescapeText_escapeText`): no entity is the beginning of another one, and an ampersand is
written as nothing but the beginning of an entity (`Entitled`). That holds for texts that look
escaped already, because their ampersands are escaped like all others.
-/

set_option autoImplicit false

namespace WorkflowLint.Report

/-! ### Entities -/

/-- The characters that mean something in markup, each with the entity that stands for it. -/
def entities : List (Char × String) :=
  [('&', "&amp;"), ('<', "&lt;"), ('>', "&gt;"), ('"', "&quot;"), ('\'', "&#39;")]

/-- A character as a page shows it: its entity, if it has one. -/
def escapeChar (c : Char) : List Char :=
  match entities.find? fun e => e.1 == c with
  | some e => e.2.toList
  | none => [c]

/-- The characters that entities and others stand for, read from the left to the right. The first
ones, as many as the number says, belong to an entity that has been read. -/
def readEntities : Nat → List Char → List Char
  | _, [] => []
  | n + 1, _ :: rest => readEntities n rest
  | 0, c :: rest =>
    match entities.find? fun e => e.2.toList.isPrefixOf (c :: rest) with
    | some e => e.1 :: readEntities (e.2.toList.length - 1) rest
    | none => c :: readEntities 0 rest

/-- The text that a text with entities stands for. -/
def unescapeText (s : String) : String := String.ofList (readEntities 0 s.toList)

/-- An entity is an ampersand and a name, in which no character has an entity. -/
theorem exists_name_of_mem : ∀ e ∈ entities, ∃ name, e.2.toList = '&' :: name ∧
    ∀ c ∈ name, c ∉ entities.map (·.1) := by
  have hhead : ∀ e ∈ entities, e.2.toList.head? = some '&' := by decide +kernel
  have htail : ∀ e ∈ entities,
      (e.2.toList.tail.all fun c => !(entities.map (·.1)).contains c) = true := by decide +kernel
  intro e he
  -- The table is small enough to look at each of its entities; the name is what is behind the
  -- ampersand.
  obtain ⟨name, hname⟩ := List.head?_eq_some_iff.mp (hhead e he)
  refine ⟨name, hname, ?_⟩
  have hplain := htail e he
  rw [hname, List.tail_cons, List.all_eq_true] at hplain
  intro c hc
  simpa using hplain c hc

/-- A character of the table is written as its entity: no earlier row of the table is about the
same character. -/
theorem escapeChar_of_mem : ∀ e ∈ entities, escapeChar e.1 = e.2.toList := by decide +kernel

/-- Any other character is written as itself. -/
theorem escapeChar_of_not_mem {c : Char} (h : c ∉ entities.map (·.1)) : escapeChar c = [c] := by
  have hnone : (entities.find? fun e => e.1 == c) = none := by
    rw [List.find?_eq_none]
    intro e he heq
    exact h (List.mem_map.mpr ⟨e, he, by simpa using heq⟩)
  rw [escapeChar, hnone]

/-- A character has an entity, or it is written as itself. -/
theorem escapeChar_cases (c : Char) :
    (∃ e ∈ entities, c = e.1 ∧ escapeChar c = e.2.toList) ∨
      c ∉ entities.map (·.1) ∧ escapeChar c = [c] := by
  by_cases h : c ∈ entities.map (·.1)
  · obtain ⟨e, he, rfl⟩ := List.mem_map.mp h
    exact .inl ⟨e, he, rfl, escapeChar_of_mem e he⟩
  · exact .inr ⟨h, escapeChar_of_not_mem h⟩

/-! ### Five passes as one -/

/-- What becomes of one character in the five passes. -/
def passChar (c : Char) : List Char :=
  Text.substituteIn '\'' "&#39;".toList <| Text.substituteIn '"' "&quot;".toList <|
    Text.substituteIn '>' "&gt;".toList <| Text.substituteIn '<' "&lt;".toList <|
      Text.substituteIn '&' "&amp;".toList [c]

/-- A pass goes through a text character by character, so it may be done on what each character
has become. -/
theorem substituteIn_flatMap (c : Char) (w : List Char) (f : Char → List Char) (l : List Char) :
    Text.substituteIn c w (l.flatMap f) = l.flatMap fun x => Text.substituteIn c w (f x) :=
  List.flatMap_assoc

/-- So five passes over a text are five passes over each of its characters. -/
theorem toList_escapeText_eq_passChar (s : String) :
    (escapeText s).toList = s.toList.flatMap passChar := by
  -- A text is its characters, one after the other.
  have hchars : s.toList = s.toList.flatMap fun c => [c] := by simp
  simp only [escapeText, Text.substitute, String.toList_ofList]
  rw [hchars, substituteIn_flatMap, substituteIn_flatMap, substituteIn_flatMap,
    substituteIn_flatMap, substituteIn_flatMap, ← hchars]
  rfl

/-- A pass leaves a character alone that it does not look for. -/
theorem substituteIn_singleton {c d : Char} (h : d ≠ c) (w : List Char) :
    Text.substituteIn c w [d] = [d] := by
  simp [Text.substituteIn, h]

/-- The five passes make of a character what one pass does. Those of the table are tried out, and
the others are passed over five times. -/
theorem passChar_eq (c : Char) : passChar c = escapeChar c := by
  obtain ⟨e, he, rfl, hescape⟩ | ⟨hnot, hescape⟩ := escapeChar_cases c
  · have hpass : ∀ e ∈ entities, passChar e.1 = e.2.toList := by decide +kernel
    rw [hpass e he, hescape]
  · simp only [entities, List.map_cons, List.map_nil, List.mem_cons, List.not_mem_nil, or_false,
      not_or] at hnot
    -- No pass looks for this character, so each of them leaves it as it is.
    obtain ⟨hamp, hlt, hgt, hquot, hapos⟩ := hnot
    rw [hescape, passChar, substituteIn_singleton hamp, substituteIn_singleton hlt,
      substituteIn_singleton hgt, substituteIn_singleton hquot, substituteIn_singleton hapos]

/-- An escaped text has the characters of the text, each written as its entity if it has one. -/
theorem toList_escapeText (s : String) : (escapeText s).toList = s.toList.flatMap escapeChar := by
  rw [toList_escapeText_eq_passChar]
  exact congrArg (List.flatMap · s.toList) (funext passChar_eq)

/-! ### What an escaped text holds -/

/-- No character that has an entity is written as itself, but for the ampersands of the
entities. -/
theorem not_mem_flatMap_escapeChar {d : Char} (hd : d ∈ entities.map (·.1)) (hamp : d ≠ '&')
    (l : List Char) : d ∉ l.flatMap escapeChar := by
  intro hmem
  obtain ⟨c, -, hc⟩ := List.mem_flatMap.mp hmem
  obtain ⟨e, he, rfl, hescape⟩ | ⟨hnot, hescape⟩ := escapeChar_cases c
  -- The character is written with an ampersand and a name; it could only be the ampersand.
  · obtain ⟨name, hname, hplain⟩ := exists_name_of_mem e he
    rw [hescape, hname, List.mem_cons] at hc
    rcases hc with rfl | hc
    · exact hamp rfl
    · exact hplain d hc hd
  · rw [hescape, List.mem_singleton] at hc
    exact hnot (hc ▸ hd)

/-- Every ampersand in a list starts an entity. -/
def Entitled (l : List Char) : Prop :=
  ∀ rest, '&' :: rest <:+ l → ∃ e ∈ entities, e.2.toList <+: '&' :: rest

/-- Nothing has no ampersands, so there is none that could start no entity. -/
theorem entitled_nil : Entitled [] := by
  intro rest hrest
  cases List.suffix_nil.mp hrest

/-- Other characters in front change nothing: every ampersand is still one of the list behind
them. -/
theorem Entitled.append {front l : List Char} (hl : Entitled l) (hfront : '&' ∉ front) :
    Entitled (front ++ l) := by
  induction front with
  | nil => exact hl
  | cons c front ih =>
    rw [List.mem_cons, not_or] at hfront
    intro rest hrest
    rcases List.suffix_cons_iff.mp hrest with heq | hrest
    · exact absurd (List.cons.inj heq).1 hfront.1
    · exact ih hfront.2 rest hrest

/-- What a character is written as, in front of such a list, makes one again. An entity brings one
ampersand, which starts it; a name brings none. -/
theorem Entitled.escapeChar {l : List Char} (hl : Entitled l) (c : Char) :
    Entitled (escapeChar c ++ l) := by
  obtain ⟨e, he, rfl, hescape⟩ | ⟨hnot, hescape⟩ := escapeChar_cases c
  · obtain ⟨name, hname, hplain⟩ := exists_name_of_mem e he
    have hamp : '&' ∉ name := fun hmem => hplain '&' hmem (by decide)
    intro rest hrest
    rw [hescape, hname, List.cons_append] at hrest
    rcases List.suffix_cons_iff.mp hrest with heq | hrest
    · -- This is the ampersand of the entity itself.
      rw [(List.cons.inj heq).2, ← List.cons_append, ← hname]
      exact ⟨e, he, List.prefix_append _ _⟩
    · exact hl.append hamp rest hrest
  · rw [hescape]
    refine hl.append fun hmem => hnot ?_
    rw [← List.mem_singleton.mp hmem]
    decide

/-- So every ampersand of an escaped text starts an entity. -/
theorem entitled_flatMap_escapeChar (l : List Char) : Entitled (l.flatMap escapeChar) := by
  induction l with
  | nil => exact entitled_nil
  | cons c l ih =>
    rw [List.flatMap_cons]
    exact ih.escapeChar c

/-! ### Reading entities -/

/-- The characters of an entity that has been read are passed over. -/
theorem readEntities_length (front rest : List Char) :
    readEntities front.length (front ++ rest) = readEntities 0 rest := by
  induction front with
  | nil => rfl
  | cons c front ih => exact ih

/-- No entity is the beginning of another one, so only one can stand in front of a text. -/
theorem entity_unique {d e : Char × String} (hd : d ∈ entities) (he : e ∈ entities)
    {l : List Char} (hdl : d.2.toList <+: l) (hel : e.2.toList <+: l) : d = e := by
  have hfree : ∀ d ∈ entities, ∀ e ∈ entities, d.2.toList <+: e.2.toList → d = e := by
    decide +kernel
  -- Of two beginnings of a list one is the beginning of the other.
  rcases List.prefix_or_prefix_of_prefix hdl hel with h | h
  · exact hfree d hd e he h
  · exact (hfree e he d hd h).symm

/-- In front of a text that starts with an entity, this entity is found. -/
theorem find?_entity {e : Char × String} (he : e ∈ entities) (rest : List Char) :
    (entities.find? fun d => d.2.toList.isPrefixOf (e.2.toList ++ rest)) = some e := by
  have hfront : e.2.toList <+: e.2.toList ++ rest := List.prefix_append _ _
  cases hfind : entities.find? fun d => d.2.toList.isPrefixOf (e.2.toList ++ rest) with
  | none =>
    -- The entity itself would have been found.
    have hnot := List.find?_eq_none.mp hfind e he
    exact absurd (List.isPrefixOf_iff_prefix.mpr hfront) hnot
  | some d =>
    have hd := List.find?_some hfind
    rw [List.isPrefixOf_iff_prefix] at hd
    rw [entity_unique (List.mem_of_find?_eq_some hfind) he hd hfront]

/-- A character that is no ampersand starts no entity, since every entity starts with one. -/
theorem find?_entity_eq_none {c : Char} (hc : c ≠ '&') (rest : List Char) :
    (entities.find? fun d => d.2.toList.isPrefixOf (c :: rest)) = none := by
  rw [List.find?_eq_none]
  intro d hd hstarts
  obtain ⟨name, hname, -⟩ := exists_name_of_mem d hd
  rw [List.isPrefixOf_iff_prefix, hname, List.cons_prefix_cons] at hstarts
  exact hc hstarts.1.symm

/-- What a character is written as is read as the character, whatever stands behind it. -/
theorem readEntities_escapeChar (c : Char) (rest : List Char) :
    readEntities 0 (escapeChar c ++ rest) = c :: readEntities 0 rest := by
  obtain ⟨e, he, rfl, hescape⟩ | ⟨hnot, hescape⟩ := escapeChar_cases c
  · obtain ⟨name, hname, -⟩ := exists_name_of_mem e he
    have hfind := find?_entity he rest
    rw [hname, List.cons_append] at hfind
    rw [hescape, hname, List.cons_append, readEntities, hfind]
    show e.1 :: readEntities (e.2.toList.length - 1) (name ++ rest) = _
    rw [hname, List.length_cons, Nat.add_sub_cancel, readEntities_length]
  -- The ampersand has an entity, so this character is another one.
  · have hamp : c ≠ '&' := by
      rintro rfl
      exact hnot (by decide)
    rw [hescape, List.singleton_append, readEntities, find?_entity_eq_none hamp]

/-- So an escaped text is read back character by character. -/
theorem readEntities_flatMap_escapeChar (l : List Char) :
    readEntities 0 (l.flatMap escapeChar) = l := by
  induction l with
  | nil => rfl
  | cons c l ih => rw [List.flatMap_cons, readEntities_escapeChar, ih]

/-- Reading the entities of an escaped text gives the text, even if it had entities before it was
escaped. -/
theorem unescapeText_escapeText (s : String) : unescapeText (escapeText s) = s := by
  rw [unescapeText, toList_escapeText, readEntities_flatMap_escapeChar, String.ofList_toList]

/-- Escaping is faithful. A text is escaped as if its characters were written one by one, each as
its entity if it has one. In the result no angle bracket and no quote is left, and every ampersand
starts an entity. Reading the entities from the left to the right gives the text back, so different
texts stay different. -/
theorem escapeText_entities (s : String) :
    escapeText s = String.ofList (s.toList.flatMap escapeChar) ∧
    (∀ c ∈ ['<', '>', '"', '\''], c ∉ (escapeText s).toList) ∧
    (∀ rest, '&' :: rest <:+ (escapeText s).toList →
      ∃ e ∈ entities, e.2.toList <+: '&' :: rest) ∧
    unescapeText (escapeText s) = s ∧
    ∀ t, escapeText t = escapeText s → t = s := by
  refine ⟨?_, fun c hc => ?_, ?_, unescapeText_escapeText s, fun t h => ?_⟩
  · rw [← toList_escapeText, String.ofList_toList]
  · have hentity : ∀ c ∈ ['<', '>', '"', '\''], c ∈ entities.map (·.1) ∧ c ≠ '&' := by
      simp [entities]
    rw [toList_escapeText]
    exact not_mem_flatMap_escapeChar (hentity c hc).1 (hentity c hc).2 s.toList
  · rw [toList_escapeText]
    exact entitled_flatMap_escapeChar s.toList
  · rw [← unescapeText_escapeText t, h, unescapeText_escapeText]

/-- A tag whose attribute looks escaped already: its ampersand is escaped as well, so the text is
told apart from the one that it looks like. -/
theorem escapeText_entities_twiceEscaped :
    escapeText "<a b='&lt;'>" = "&lt;a b=&#39;&amp;lt;&#39;&gt;" ∧
    '<' ∉ (escapeText "<a b='&lt;'>").toList ∧
    (∃ e ∈ entities, e.2.toList <+: "&gt;".toList) ∧
    unescapeText "&lt;a b=&#39;&amp;lt;&#39;&gt;" = "<a b='&lt;'>" ∧
    escapeText "<a b='<'>" ≠ escapeText "<a b='&lt;'>" := by
  obtain ⟨-, hplain, hentitled, hread, hinjective⟩ := escapeText_entities "<a b='&lt;'>"
  have hescaped : escapeText "<a b='&lt;'>" = "&lt;a b=&#39;&amp;lt;&#39;&gt;" := by
    decide +kernel
  refine ⟨hescaped, hplain '<' (by decide), ?_, hescaped ▸ hread, fun h => ?_⟩
  · exact hentitled "gt;".toList (by rw [hescaped]; decide +kernel)
  · exact absurd (hinjective _ h) (by decide +kernel)

end WorkflowLint.Report
