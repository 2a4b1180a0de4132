import WorkflowLint.Json.Decode
import WorkflowLint.Proofs.Json.Numeral
import WorkflowLint.Proofs.Json.Quoted

/-!
# `WorkflowLint.Proofs.Json.RoundTrip`: a written value reads back

Writing a value and reading the text gives the value again, in every layout that
puts nothing but white space between tokens, for every value whose numbers read
back and that is not nested too deep: `fromText_write`.

The text is read in three passes, and each has its own lemma.

* `tokensFrom_write`: the tokens of a written value are `tokensOf` it, with the
  tokens of what stands behind. A number is the one token whose end is decided by
  what follows, so the lemma asks for a text that does not go on with it; between
  the parts of a value that is white space, a comma or a bracket.
* `build_tokensOf`: those tokens take the builder from "a value has to come" to
  the state that a complete value leads to, whatever is open around it.
* `toJson_ofJson`: the tree that was built is the value.

`Readable room v` says that the numbers of `v` read back and that at most `room`
lists and objects are nested in it. It is a relation and not a computation, so
that inductions on it hand over one hypothesis for each item.
-/

set_option autoImplicit false

namespace WorkflowLint.Json

/-- A layout that puts nothing but white space between tokens. -/
structure Layout.Blank (l : Layout) : Prop where
  lead : ∀ level, ∀ c ∈ l.lead level, isSpace c = true
  gap : ∀ c ∈ l.gap, isSpace c = true

/-- The compact layout puts nothing at all between tokens. -/
theorem Layout.blank_compact : Layout.compact.Blank where
  lead _ _ hc := by cases hc
  gap _ hc := by cases hc

/-- The pretty layout is blank: it puts a line break and an indentation in front of a value and
one blank behind a colon. -/
theorem Layout.blank_pretty : Layout.pretty.Blank where
  lead level c hc := by
    rcases List.mem_cons.mp hc with rfl | hc
    · decide
    · rw [List.eq_of_mem_replicate hc]
      decide
  gap c hc := by
    rw [List.mem_singleton.mp hc]
    decide

/-- A value whose numbers read back and in which at most `room` lists and objects
are nested. -/
inductive Readable : Nat → Json → Prop where
  | null (room : Nat) : Readable room .null
  | bool (room : Nat) (b : Bool) : Readable room (.bool b)
  | number (room : Nat) {n : Number} (h : n.ReadsBack) : Readable room (.number n)
  | string (room : Nat) (s : String) : Readable room (.string s)
  | array {room : Nat} {items : List Json} (h : ∀ v ∈ items, Readable room v) :
      Readable (room + 1) (.array items)
  | object {room : Nat} {members : List (String × Json)}
      (h : ∀ m ∈ members, Readable room m.2) : Readable (room + 1) (.object members)

/-! ### Tokens -/

mutual

/-- The tokens of a value. -/
def tokensOf : Json → List Token
  | .null => [.null]
  | .bool b => [.bool b]
  | .number n => [.number (.ok n)]
  | .string s => [.string (.ok s)]
  | .array [] => [.openList, .closeList]
  | .array (v :: rest) => .openList :: (tokensOf v ++ tokensOfItems rest ++ [.closeList])
  | .object [] => [.openObject, .closeObject]
  | .object ((key, v) :: rest) =>
    .openObject :: .string (.ok key) :: .colon ::
      (tokensOf v ++ tokensOfMembers rest ++ [.closeObject])

/-- The tokens of further items of a list. -/
def tokensOfItems : List Json → List Token
  | [] => []
  | v :: rest => .comma :: (tokensOf v ++ tokensOfItems rest)

/-- The tokens of further members of an object. -/
def tokensOfMembers : List (String × Json) → List Token
  | [] => []
  | (key, v) :: rest =>
    .comma :: .string (.ok key) :: .colon :: (tokensOf v ++ tokensOfMembers rest)

end

/-- White space has no tokens, so the scan goes on with what stands behind it. -/
theorem tokensFrom_blank {ws : List Char} (hws : ∀ c ∈ ws, isSpace c = true)
    (rest : List Char) : tokensFrom 0 (ws ++ rest) = tokensFrom 0 rest := by
  induction ws with
  | nil => rfl
  | cons c ws ih =>
      rw [List.cons_append, tokensFrom, if_pos (hws c (by simp))]
      exact ih fun d hd => hws d (List.mem_cons_of_mem _ hd)

/-- The characters of a token already read have no tokens: the scan passes over as many of them as
it has counted. -/
theorem tokensFrom_length (front rest : List Char) :
    tokensFrom front.length (front ++ rest) = tokensFrom 0 rest := by
  induction front with
  | nil => rfl
  | cons c front ih => exact ih

/-- A token with the characters that belong to it, and the tokens behind. -/
theorem tokensFrom_tokenAt {c : Char} {front rest : List Char} {token : Token}
    (hc : isSpace c = false) (htoken : tokenAt c (front ++ rest) = (token, front.length))
    (hlast : token.isLast = false) :
    tokensFrom 0 (c :: (front ++ rest)) = token :: tokensFrom 0 rest := by
  rw [tokensFrom, if_neg (by simp [hc]), htoken]
  simp only [hlast, Bool.false_eq_true, if_false]
  rw [tokensFrom_length]

/-- A character that is a token by itself: a bracket, a brace, a comma or a colon. -/
theorem tokensFrom_mark (c : Char) {rest : List Char} {token : Token} (hc : isSpace c = false)
    (htoken : tokenAt c rest = (token, 0)) (hlast : token.isLast = false) :
    tokensFrom 0 (c :: rest) = token :: tokensFrom 0 rest :=
  (tokensFrom_tokenAt hc htoken hlast : tokensFrom 0 (c :: ([] ++ rest)) = _)

/-- A quoted text is one token, which holds the text without its quotes and escapes. -/
theorem tokensFrom_quote (s : String) (rest : List Char) :
    tokensFrom 0 (quote s ++ rest) = .string (.ok s) :: tokensFrom 0 rest := by
  have htoken : tokenAt '"' (s.toList.flatMap escape ++ ['"'] ++ rest)
      = (.string (.ok s), (s.toList.flatMap escape ++ ['"']).length) := by
    show stringToken _ = _
    rw [stringToken, List.append_assoc]
    simp only [List.cons_append, List.nil_append]
    rw [scan_escaped]
    simp
  exact tokensFrom_tokenAt (by decide) htoken rfl

/-- A number that reads back is one token, as long as what stands behind it does not go on with
the number. -/
theorem tokensFrom_number {n : Number} (hn : n.ReadsBack) {rest : List Char}
    (hr : EndsNumeral rest) :
    tokensFrom 0 (n.text ++ rest) = .number (.ok n) :: tokensFrom 0 rest := by
  obtain ⟨c, cs, htext, hc, htoken⟩ := hn
  rw [htext, List.cons_append]
  exact tokensFrom_tokenAt hc (htoken rest hr) rfl

/-- White space in front of what ends a numeral ends it too. -/
theorem EndsNumeral.blank {ws rest : List Char} (hws : ∀ c ∈ ws, isSpace c = true)
    (hr : EndsNumeral rest) : EndsNumeral (ws ++ rest) := by
  cases ws with
  | nil => exact hr
  | cons c ws =>
      refine endsNumeral_cons ?_ _
      have hc := hws c (by simp)
      simp only [isSpace, Bool.or_eq_true, decide_eq_true_eq] at hc
      rcases hc with ((rfl | rfl) | rfl) | rfl <;> decide

section
variable {l : Layout} (hl : l.Blank)
include hl

/-- The end of a list or object ends a numeral, whether or not white space stands in front of the
bracket. -/
theorem endsNumeral_close {c : Char} (hc : goesOn c = false) (level : Nat) (rest : List Char) :
    EndsNumeral (l.lead level ++ c :: rest) :=
  (endsNumeral_cons hc rest).blank (hl.lead level)

/-- Further items of a list have the tokens of their values, if each value has. -/
theorem tokensFrom_writeItems {items : List Json}
    (hitems : ∀ v ∈ items, ∀ level rest, EndsNumeral rest →
      tokensFrom 0 (write l level v ++ rest) = tokensOf v ++ tokensFrom 0 rest)
    (level : Nat) {rest : List Char} (hr : EndsNumeral rest) :
    tokensFrom 0 (writeItems l level items ++ rest)
        = tokensOfItems items ++ tokensFrom 0 rest ∧
      EndsNumeral (writeItems l level items ++ rest) := by
  induction items with
  | nil => exact ⟨rfl, hr⟩
  | cons v items ih =>
      obtain ⟨htokens, hends⟩ := ih fun w hw => hitems w (List.mem_cons_of_mem _ hw)
      -- A comma comes first, so the numeral in front of it ends there.
      refine ⟨?_, endsNumeral_cons (by decide) _⟩
      simp only [writeItems, tokensOfItems, List.cons_append, List.append_assoc]
      rw [tokensFrom_mark ',' (by decide) rfl rfl, tokensFrom_blank (hl.lead level),
        hitems v (by simp) level _ hends, htokens]

/-- Further members of an object have the tokens of their keys and values, if each
value has. -/
theorem tokensFrom_writeMembers {members : List (String × Json)}
    (hmembers : ∀ m ∈ members, ∀ level rest, EndsNumeral rest →
      tokensFrom 0 (write l level m.2 ++ rest) = tokensOf m.2 ++ tokensFrom 0 rest)
    (level : Nat) {rest : List Char} (hr : EndsNumeral rest) :
    tokensFrom 0 (writeMembers l level members ++ rest)
        = tokensOfMembers members ++ tokensFrom 0 rest ∧
      EndsNumeral (writeMembers l level members ++ rest) := by
  induction members with
  | nil => exact ⟨rfl, hr⟩
  | cons m members ih =>
      obtain ⟨key, v⟩ := m
      obtain ⟨htokens, hends⟩ := ih fun w hw => hmembers w (List.mem_cons_of_mem _ hw)
      refine ⟨?_, endsNumeral_cons (by decide) _⟩
      simp only [writeMembers, tokensOfMembers, List.cons_append, List.append_assoc]
      rw [tokensFrom_mark ',' (by decide) rfl rfl, tokensFrom_blank (hl.lead level),
        tokensFrom_quote, tokensFrom_mark ':' (by decide) rfl rfl, tokensFrom_blank hl.gap,
        hmembers (key, v) (by simp) level _ hends, htokens]

/-- The text of a value has the tokens of the value, and what stands behind has its own. What
stands behind must not go on with a number, so that the scanner sees where a number ends; in a
list or an object a comma or a bracket stands there. -/
theorem tokensFrom_write {room : Nat} {v : Json} (hv : Readable room v) :
    ∀ level rest, EndsNumeral rest →
      tokensFrom 0 (write l level v ++ rest) = tokensOf v ++ tokensFrom 0 rest := by
  induction hv with
  | null room => intro level rest _; rfl
  | bool room b => intro level rest _; cases b <;> rfl
  | number room hn =>
      intro level rest hr
      rw [write, tokensOf]
      exact tokensFrom_number hn hr
  | string room s =>
      intro level rest _
      rw [write, tokensOf]
      exact tokensFrom_quote s rest
  -- The text of a list: a bracket, the first item, the further items with their commas, a
  -- bracket.
  | @array room items _ ih =>
      intro level rest _
      cases items with
      | nil => rfl
      | cons v items =>
          obtain ⟨htokens, hends⟩ := tokensFrom_writeItems hl
            (fun w hw => ih w (List.mem_cons_of_mem _ hw)) (level + 1)
            (endsNumeral_close hl (by decide) level rest :
              EndsNumeral (l.lead level ++ ']' :: rest))
          simp only [write, tokensOf, List.cons_append, List.append_assoc, List.nil_append]
          rw [tokensFrom_mark '[' (by decide) rfl rfl, tokensFrom_blank (hl.lead (level + 1)),
            ih v (by simp) (level + 1) _ hends, htokens, tokensFrom_blank (hl.lead level),
            tokensFrom_mark ']' (by decide) rfl rfl]
  -- The text of an object is the same with a key and a colon in front of each value.
  | @object room members _ ih =>
      intro level rest _
      cases members with
      | nil => rfl
      | cons m members =>
          obtain ⟨key, v⟩ := m
          obtain ⟨htokens, hends⟩ := tokensFrom_writeMembers hl
            (fun w hw => ih w (List.mem_cons_of_mem _ hw)) (level + 1)
            (endsNumeral_close hl (by decide) level rest :
              EndsNumeral (l.lead level ++ '\x7d' :: rest))
          simp only [write, tokensOf, List.cons_append, List.append_assoc, List.nil_append]
          rw [tokensFrom_mark '\x7b' (by decide) rfl rfl, tokensFrom_blank (hl.lead (level + 1)),
            tokensFrom_quote, tokensFrom_mark ':' (by decide) rfl rfl, tokensFrom_blank hl.gap,
            ih (key, v) (by simp) (level + 1) _ hends, htokens, tokensFrom_blank (hl.lead level),
            tokensFrom_mark '\x7d' (by decide) rfl rfl]

end

/-! ### Trees -/

/-- What comes of a step with some tokens still to come. -/
def Step.resume (rest : List Token) : Step → Reading × List Token
  | .next expected stack => build expected stack rest
  | .done r => (r, rest)

/-- Building takes one step for each token. -/
theorem build_cons (expected : Expected) (stack : List Frame) (token : Token)
    (rest : List Token) :
    build expected stack (token :: rest) = (Step.of expected stack token).resume rest := by
  rw [build]
  cases Step.of expected stack token <;> rfl

/-- Where the first or a further item of a list may come, a value is a value. -/
theorem build_item {expected : Expected} (h : expected = .firstItem ∨ expected = .nextItem)
    (v : Json) (stack : List Frame) (rest : List Token) :
    build expected stack (tokensOf v ++ rest) = build .value stack (tokensOf v ++ rest) := by
  -- The first token of a value is none that these two states treat in their own way.
  rcases h with rfl | rfl
  all_goals
    match v with
    | .null | .bool _ | .number _ | .string _ | .array [] | .array (_ :: _) | .object []
    | .object (_ :: _) => simp [tokensOf, build_cons, Step.of]

mutual

/-- The tokens of a value lead to where the complete value leads. The three statements call each
other as values, items and members hold each other. -/
theorem build_tokensOf (stack : List Frame) (rest : List Token) : ∀ v : Json,
    build .value stack (tokensOf v ++ rest)
      = (Step.complete (Reading.ofJson v) stack).resume rest
  | .null => build_cons _ _ _ _
  | .bool _ => build_cons _ _ _ _
  | .number _ => build_cons _ _ _ _
  | .string _ => build_cons _ _ _ _
  | .array [] => by
      simp [tokensOf, build_cons, Step.of, Step.value, Step.resume, Reading.ofJson, ofItems]
  | .array (v :: vs) => by
      simp only [tokensOf, List.cons_append, List.append_assoc, List.nil_append, build_cons,
        Step.of, Step.value]
      -- The bracket opens a list, and the first item is put into it.
      show build .firstItem (.list [] :: stack) _ = _
      rw [build_item (.inl rfl), build_tokensOf _ _ v]
      show build .more (.list [Reading.ofJson v] :: stack) _ = _
      rw [build_tokensOfItems stack rest [Reading.ofJson v] vs]
      rfl
  | .object [] => by
      simp [tokensOf, build_cons, Step.of, Step.value, Step.resume, Reading.ofJson, ofMembers]
  | .object ((key, v) :: ms) => by
      simp only [tokensOf, List.cons_append, List.append_assoc, List.nil_append, build_cons,
        Step.of, Step.value]
      -- The brace opens an object, the key is kept until its value is complete.
      show build .firstKey (.object [] :: stack) _ = _
      rw [build_cons]
      show build .colon (.member [] (.ok key) :: stack) _ = _
      rw [build_cons]
      show build .value (.member [] (.ok key) :: stack) _ = _
      rw [build_tokensOf _ _ v]
      show build .more (.object [(.ok key, Reading.ofJson v)] :: stack) _ = _
      rw [build_tokensOfMembers stack rest [(.ok key, Reading.ofJson v)] ms]
      rfl

/-- The tokens of further items and of the end of the list lead to where the list
leads; `done` holds the items in front in reverse. -/
theorem build_tokensOfItems (stack : List Frame) (rest : List Token) (done : List Reading) :
    ∀ vs : List Json,
      build .more (.list done :: stack) (tokensOfItems vs ++ .closeList :: rest)
        = (Step.complete (.array (done.reverse ++ ofItems vs) none) stack).resume rest
  | [] => by simp [tokensOfItems, build_cons, Step.of, ofItems]
  | v :: vs => by
      simp only [tokensOfItems, List.cons_append, List.append_assoc, build_cons, Step.of]
      show build .nextItem (.list done :: stack) _ = _
      rw [build_item (.inr rfl), build_tokensOf _ _ v]
      show build .more (.list (Reading.ofJson v :: done) :: stack) _ = _
      rw [build_tokensOfItems stack rest (Reading.ofJson v :: done) vs]
      simp [ofItems]

/-- The tokens of further members and of the end of the object lead to where the
object leads; `done` holds the members in front in reverse. -/
theorem build_tokensOfMembers (stack : List Frame) (rest : List Token)
    (done : List (Except Fault String × Reading)) :
    ∀ ms : List (String × Json),
      build .more (.object done :: stack) (tokensOfMembers ms ++ .closeObject :: rest)
        = (Step.complete (.object (done.reverse ++ ofMembers ms) none) stack).resume rest
  | [] => by simp [tokensOfMembers, build_cons, Step.of, ofMembers]
  | (key, v) :: ms => by
      simp only [tokensOfMembers, List.cons_append, List.append_assoc, build_cons, Step.of]
      show build .nextKey (.object done :: stack) _ = _
      rw [build_cons]
      show build .colon (.member done (.ok key) :: stack) _ = _
      rw [build_cons]
      show build .value (.member done (.ok key) :: stack) _ = _
      rw [build_tokensOf _ _ v]
      show build .more (.object ((.ok key, Reading.ofJson v) :: done) :: stack) _ = _
      rw [build_tokensOfMembers stack rest ((.ok key, Reading.ofJson v) :: done) ms]
      simp [ofMembers]

end

/-! ### Values -/

/-- The values of the items' trees are the items, if that is so for each. -/
theorem itemsToJson_ofItems {room : Nat} {items : List Json}
    (hitems : ∀ v ∈ items, (Reading.ofJson v).toJson room = .ok v) :
    itemsToJson room (ofItems items) = .ok items := by
  induction items with
  | nil => rfl
  | cons v items ih =>
      rw [ofItems, itemsToJson, hitems v (by simp),
        ih fun w hw => hitems w (List.mem_cons_of_mem _ hw)]
      rfl

/-- The values of the members' trees are the members, if that is so for each. -/
theorem membersToJson_ofMembers {room : Nat} {members : List (String × Json)}
    (hmembers : ∀ m ∈ members, (Reading.ofJson m.2).toJson room = .ok m.2) :
    membersToJson room (ofMembers members) = .ok members := by
  induction members with
  | nil => rfl
  | cons m members ih =>
      obtain ⟨key, v⟩ := m
      rw [ofMembers, membersToJson, hmembers (key, v) (by simp),
        ih fun w hw => hmembers w (List.mem_cons_of_mem _ hw)]
      rfl

/-- The value of a value's tree is the value, with as much room as it needs. -/
theorem toJson_ofJson {room : Nat} {v : Json} (hv : Readable room v) :
    (Reading.ofJson v).toJson room = .ok v := by
  induction hv with
  | null room => rfl
  | bool room b => rfl
  | number room _ => rfl
  | string room s => rfl
  | array _ ih =>
      rw [Reading.ofJson, Reading.toJson, itemsToJson_ofItems ih]
      rfl
  | object _ ih =>
      rw [Reading.ofJson, Reading.toJson, membersToJson_ofMembers ih]
      rfl

/-- A value that is readable in some room is readable in more: each level of nesting takes one
from the room, and a list or an object needs at least one. -/
theorem Readable.mono {room more : Nat} {v : Json} (hv : Readable room v) (h : room ≤ more) :
    Readable more v := by
  induction hv generalizing more with
  | null _ => exact .null more
  | bool _ b => exact .bool more b
  | number _ hn => exact .number more hn
  | string _ s => exact .string more s
  | array _ ih =>
      -- The room is a successor, so the larger one is, too.
      obtain ⟨more, rfl⟩ := Nat.exists_eq_add_one_of_ne_zero (by omega : more ≠ 0)
      exact .array fun v hv => ih v hv (by omega)
  | object _ ih =>
      obtain ⟨more, rfl⟩ := Nat.exists_eq_add_one_of_ne_zero (by omega : more ≠ 0)
      exact .object fun m hm => ih m hm (by omega)

/-- A list of texts can be read, in one level more than a text, which needs none. -/
theorem readable_ofStrings (room : Nat) (l : List String) :
    Readable (room + 1) (.ofStrings l) := by
  refine .array fun v hv => ?_
  obtain ⟨s, _, rfl⟩ := List.mem_map.mp hv
  exact .string room s

/-- A count that fits into 64 bits can be read. -/
theorem readable_ofNat (room : Nat) {n : Nat} (hn : n < UInt64.size) : Readable room (.ofNat n) :=
  .number room (readsBack_ofNat hn)

/-! ### Texts -/

/-- The tree of a written value is the value's own, with nothing behind it. -/
theorem read_write {l : Layout} (hl : l.Blank) {room : Nat} {v : Json} (hv : Readable room v) :
    Script.read (String.ofList (write l 0 v)) = ⟨Reading.ofJson v, false⟩ := by
  have htokens : tokens (String.ofList (write l 0 v)) = tokensOf v ++ [] := by
    rw [tokens, String.toList_ofList, ← List.append_nil (write l 0 v),
      tokensFrom_write hl hv 0 [] endsNumeral_nil, tokensFrom]
  rw [Script.read, htokens, build_tokensOf [] [] v]
  rfl

/-- Whatever is decoded from the text of a value is decoded from its tree. -/
theorem fromText_write {α : Type} (d : Decode.Decoder α) {l : Layout} (hl : l.Blank)
    {room : Nat} {v : Json} (hv : Readable room v) :
    Decode.fromText d (String.ofList (write l 0 v)) = d (Reading.ofJson v) := by
  rw [Decode.fromText, read_write hl hv]
  cases d (Reading.ofJson v) <;> rfl

/-- The value of a value's tree, read outside of all lists and objects. -/
theorem any_ofJson {room : Nat} {v : Json} (hv : Readable room v) (h : room ≤ greatestDepth) :
    Decode.any 0 (Reading.ofJson v) = .ok v := by
  rw [Decode.any, Nat.sub_zero, toJson_ofJson (hv.mono h)]
  rfl

end WorkflowLint.Json
