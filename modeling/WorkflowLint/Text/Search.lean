/-!
# `WorkflowLint.Text.Search`: looking for words in a text

Texts are `String`s; what is asked about them is asked of their lists of
characters, so that every answer is a recursion on a list:

* `startsWith` and `occurs`: a word at the front of a text, or anywhere in it;
* `endsWith`: a word at the end of a text;
* `pieces`: a text cut at every occurrence of a character;
* `substitute`: every occurrence of one character written as a word.
-/

set_option autoImplicit false

namespace WorkflowLint.Text

/-- Whether the word `w` stands somewhere in the list `s`. -/
def occursIn (w : List Char) : List Char → Bool
  | [] => w.isEmpty
  | c :: s => w.isPrefixOf (c :: s) || occursIn w s

/-- A word stands somewhere in a list when it is one of the list's stretches. -/
theorem occursIn_iff {w s : List Char} : occursIn w s = true ↔ w <:+: s := by
  induction s with
  | nil => rw [occursIn, List.isEmpty_iff, List.infix_nil]
  | cons c s ih =>
    rw [occursIn, Bool.or_eq_true, List.isPrefixOf_iff_prefix, ih, List.infix_cons_iff]

/-- Whether the word `w` stands somewhere in the text `s`. -/
def occurs (w s : String) : Bool := occursIn w.toList s.toList

/-- Whether the text `s` starts with the word `w`. -/
def startsWith (w s : String) : Bool := w.toList.isPrefixOf s.toList

/-- Whether the text `s` ends with the word `w`. -/
def endsWith (w s : String) : Bool := w.toList.isSuffixOf s.toList

/-- A list of characters cut at every `sep`: one piece more than there are
separators, the separators left out. -/
def cut (sep : Char) : List Char → List (List Char)
  | [] => [[]]
  | c :: s =>
    if c = sep then [] :: cut sep s
    else
      match cut sep s with
      | [] => [[c]]
      | p :: ps => (c :: p) :: ps

/-- A text cut at every `sep`. -/
def pieces (sep : Char) (s : String) : List String := (cut sep s.toList).map String.ofList

/-- Every occurrence of the character `c` in a list written as the word `w`. -/
def substituteIn (c : Char) (w : List Char) (s : List Char) : List Char :=
  s.flatMap fun x => if x = c then w else [x]

/-- Every occurrence of the character `c` in a text written as the word `w`. -/
def substitute (c : Char) (w : String) (s : String) : String :=
  String.ofList (substituteIn c w.toList s.toList)

/-- The parts in order, `sep` between neighbours. -/
def join (sep : String) (parts : List String) : String := sep.intercalate parts

end WorkflowLint.Text
