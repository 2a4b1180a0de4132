import WorkflowLint.Xml.Character
import WorkflowLint.Xml.Error

/-!
# `WorkflowLint.Xml.Cursor`: reading on in a text

A cursor is the text still to be read together with the place where it starts.
Every reading step returns a later cursor with a proof of how much was read, so
that loops over a text end by the length of what is left.
-/

set_option autoImplicit false

namespace WorkflowLint.Xml

/-- The rest of a text and the place where it starts. -/
structure Cursor where
  rest : List Char
  here : Position

namespace Cursor

/-- How many characters are left. -/
def size (c : Cursor) : Nat := c.rest.length

/-- A cursor at or behind `c`. -/
abbrev Upto (c : Cursor) : Type := { r : Cursor // r.size ≤ c.size }

/-- A cursor behind `c`. -/
abbrev Beyond (c : Cursor) : Type := { r : Cursor // r.size < c.size }

/-- The cursor where a text starts. -/
def start (text : List Char) : Cursor := ⟨text, .first⟩

/-- Reads the characters that satisfy `p`, up to the first that does not. -/
def span (c : Cursor) (p : Char → Bool) : List Char × c.Upto :=
  let read := c.rest.takeWhile p
  (read, ⟨⟨c.rest.dropWhile p, read.foldl Position.after c.here⟩, by
    have h : (c.rest.dropWhile p).length ≤ c.rest.length := (List.dropWhile_suffix p).length_le
    exact h⟩)

/-- Reads white space. -/
def spaces (c : Cursor) : c.Upto := (c.span isSpace).2

/-- Whether the word `w` comes next. -/
def startsWith (c : Cursor) (w : String) : Bool := w.toList.isPrefixOf c.rest

/-- Reads one character. -/
def next? (c : Cursor) : Option (Char × c.Beyond) :=
  match h : c.rest with
  | [] => none
  | x :: r => some (x, ⟨⟨r, c.here.after x⟩, by simp [size, h]⟩)

/-- Reads `n` characters without looking at them. -/
def skip (c : Cursor) (n : Nat) : c.Upto :=
  ⟨⟨c.rest.drop n, (c.rest.take n).foldl Position.after c.here⟩, by simp [size]⟩

/-- Reads the word that starts with `x` and goes on with `w`, if it comes next. -/
def word? (c : Cursor) (x : Char) (w : List Char) : Option c.Beyond :=
  match h : c.rest with
  | [] => none
  | y :: r =>
    if x = y && w.isPrefixOf r then
      some ⟨⟨r.drop w.length, (x :: w).foldl Position.after c.here⟩, by
        simp only [size, h, List.length_drop, List.length_cons]
        omega⟩
    else none

/-- The first character of a list that no document may hold, with its place. -/
def firstIllegal? (here : Position) : List Char → Option (Char × Position)
  | [] => none
  | x :: r => if isLegal x then firstIllegal? (here.after x) r else some (x, here)

/-- A list that starts at `here`, if a document may hold all its characters. -/
def legal (here : Position) (text : List Char) : Except Error Unit :=
  match firstIllegal? here text with
  | none => .ok ()
  | some (x, p) => .error (.illegalChar x p)

/-- Reads the characters that satisfy `p`; all that is read must be legal, and so
must be the character that ends it. -/
def chars (c : Cursor) (p : Char → Bool) : Except Error (List Char × c.Upto) := do
  let (read, r) := c.span fun x => p x && isLegal x
  match r.val.rest with
  | x :: _ => if isLegal x then .ok (read, r) else .error (.illegalChar x r.val.here)
  | [] => .ok (read, r)

/-- The characters in front of the first occurrence of `w`, or all of them, and
what is left; `acc` holds those already passed, last one first. -/
def breakAt (w : List Char) (acc : List Char) (s : List Char) : List Char × List Char :=
  match s with
  | [] => (acc.reverse, [])
  | x :: r => if w.isPrefixOf (x :: r) then (acc.reverse, x :: r) else breakAt w (x :: acc) r

/-- What is left behind a break is no longer than the text, so a scan that goes on there comes to
an end. -/
theorem length_breakAt_le (w acc s : List Char) : (breakAt w acc s).2.length ≤ s.length := by
  induction s generalizing acc with
  | nil => simp [breakAt]
  | cons x r ih =>
    rw [breakAt]
    split
    · simp
    · exact Nat.le_trans (ih _) (by simp)

/-- Reads up to the word `w`, which ends the passage and is read too. -/
def upTo (c : Cursor) (w : String) : Except Error (List Char × c.Upto) := do
  let split := breakAt w.toList [] c.rest
  legal c.here split.1
  let r : Cursor := ⟨split.2, split.1.foldl Position.after c.here⟩
  if r.startsWith w then
    let after := r.skip w.length
    .ok (split.1, ⟨after.val, Nat.le_trans after.property (length_breakAt_le _ _ _)⟩)
  else .error (.expectedWord w r.here)

/-- Reads the character `x`, which has to come next. -/
def expect (c : Cursor) (x : Char) : Except Error c.Beyond :=
  match c.next? with
  | none => .error .endOfText
  | some (y, r) => if y = x then .ok r else .error (.expectedChar x y c.here)

end Cursor

end WorkflowLint.Xml
