import WorkflowLint.Json.Quoted

/-!
# `WorkflowLint.Proofs.Json.Quoted`: a quoted text reads back

`quote` puts an escape in place of quotes, backslashes and control characters;
`scan` cuts what it finds behind an opening quote into marks and joins them into
a text. The two are inverse: behind an opening quote, `scan_escaped` finds the
text that was written, however the characters go on behind the closing quote.

`markOf` names the mark that the escape of a character is cut into. The proof has
one step for each of the two passes of `scan`: `marks_escape` for the cutting,
where the escape of a character is one mark, and `textOf_markOf` for the joining,
where that mark is the character again. A control character below 32 is no half
of a pair, so no mark joins with the next one.
-/

set_option autoImplicit false

namespace WorkflowLint.Json

/-- The mark that the escape of a character is read as. Control characters
without a letter of their own are written by number. -/
def markOf (c : Char) : Mark :=
  if (letters.find? fun l => l.1 == c).isNone && c.toNat < 0x20 then .unit c.toNat else .char c

/-- The last two digits of a code unit below 32 give it back. -/
theorem unit?_digitChar : ∀ n < 0x20,
    unit? '0' '0' (Nat.digitChar (n / 16)) (Nat.digitChar (n % 16)) = some n := by
  decide

/-- A letter behind a backslash means the character it was written for. -/
theorem unescape?_of_mem : ∀ l ∈ letters, unescape? l.2 = some l.1 ∧ l.2 ≠ 'u' := by
  decide

/-- A character without a letter of its own is neither a quote nor a backslash. -/
theorem ne_of_find?_letters {c : Char} (h : (letters.find? fun l => l.1 == c) = none) :
    c ≠ '"' ∧ c ≠ '\\' := by
  have hall := List.find?_eq_none.mp h
  refine ⟨?_, ?_⟩
  · rintro rfl
    exact hall ('"', '"') (by decide) (by decide)
  · rintro rfl
    exact hall ('\\', '\\') (by decide) (by decide)

/-- The escape of a character is cut into one mark. A character has an escape by letter, one by
number, or stands for itself, and the three agree on the width of what they read. -/
theorem marks_escape (c : Char) (done : List Mark) (width : Nat) (rest : List Char) :
    marks done width (escape c ++ rest)
      = marks (markOf c :: done) (width + (escape c).length) rest := by
  unfold escape markOf
  split
  · -- A letter stands for the character, and it is not the `u` of a number.
    rename_i l letter hfind
    have hl : l = c := by simpa using List.find?_some hfind
    obtain ⟨hletter, hu⟩ := unescape?_of_mem _ (List.mem_of_find?_eq_some hfind)
    subst hl
    simp only [hfind, Option.isNone_some, Bool.false_and, Bool.false_eq_true, if_false,
      List.cons_append, List.nil_append, List.length_cons, List.length_nil]
    rw [marks.eq_def]
    simp [hu, hletter]
  · rename_i hfind
    -- Without a letter, a control character is written by its number, and any other one as it is.
    by_cases hc : c.toNat < 0x20
    · simp only [hc, hfind, byNumber, if_true, Option.isNone_none, decide_true, Bool.and_self,
        List.cons_append, List.nil_append, List.length_cons, List.length_nil]
      rw [marks]
      simp [unit?_digitChar c.toNat hc]
    -- A quote or a backslash would have had a letter.
    · obtain ⟨hquote, hslash⟩ := ne_of_find?_letters hfind
      simp only [hc, if_false, decide_false, Bool.and_false, Bool.false_eq_true,
        List.cons_append, List.nil_append, List.length_cons, List.length_nil]
      rw [marks.eq_def]
      simp [hslash, hc]

/-- The marks of a written text are those of its characters, up to the quote that
closes it. -/
theorem marks_flatMap_escape (cs : List Char) (done : List Mark) (width : Nat)
    (rest : List Char) :
    marks done width (cs.flatMap escape ++ '"' :: rest)
      = (done.reverse ++ cs.map markOf, .closed (width + (cs.flatMap escape).length + 1)) := by
  induction cs generalizing done width with
  | nil => simp [marks]
  | cons c cs ih =>
      rw [List.flatMap_cons, List.append_assoc, marks_escape, ih]
      simp [Nat.add_assoc]

/-- Joining the marks of characters gives the characters: the only units that are written are
those of control characters, which are never one half of a pair. -/
theorem textOf_markOf (width : Nat) (cs done : List Char) :
    textOf (.closed width) done (cs.map markOf) = .ok (String.ofList (done.reverse ++ cs)) := by
  induction cs generalizing done with
  | nil => simp [textOf]
  | cons c cs ih =>
      rw [List.map_cons, markOf]
      split
      · rename_i hc
        have hlt : c.toNat < 0x20 := by simpa using (Bool.and_eq_true_iff.mp hc).2
        -- A unit this small is no surrogate, so it is a character of its own.
        have hlow : isLow c.toNat = false := by simp [isLow]; omega
        have hhigh : isHigh c.toNat = false := by simp [isHigh]; omega
        rw [textOf.eq_def]
        simp [hlow, hhigh, ih]
      · rw [textOf, ih]
        simp

/-- Behind an opening quote, the text that was written is found again. -/
theorem scan_escaped (s : String) (rest : List Char) :
    scan (s.toList.flatMap escape ++ '"' :: rest)
      = .ok (.ok s, (s.toList.flatMap escape).length + 1) := by
  rw [scan, marks_flatMap_escape]
  simp [textOf_markOf]

end WorkflowLint.Json
