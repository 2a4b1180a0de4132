import WorkflowLint.Json.Token

/-!
# `WorkflowLint.Json.Reading`: a JSON text read as far as it goes

A reading is the tree of values of a text, and where the text goes wrong the
tree says so at that place. Complaints are therefore found by walking the tree in
reading order, and whoever walks it can complain about an unwanted value in front
of a broken one. A value that nobody wants is only checked with `skipFault?`.

`Reading.ofTokens` builds the tree with a stack of the lists and objects that
are open, one token at a time. `Reading.toJson` makes a value of a tree and
bounds how deep it may nest.
-/

set_option autoImplicit false

namespace WorkflowLint.Json

/-- The values of a text as far as it could be read. -/
inductive Reading where
  | null
  | bool (b : Bool)
  | number (n : Except Fault Number)
  | string (s : Except Fault String)
  /-- A list, with what is wrong behind its items. -/
  | array (items : List Reading) (fault? : Option Trouble)
  /-- An object, with what is wrong behind its members. -/
  | object (members : List (Except Fault String × Reading)) (fault? : Option Trouble)
  /-- A place where no value could be read. -/
  | broken (t : Trouble)

/-! ### Building -/

/-- A list or an object that is open, with what was read of it in reverse. -/
inductive Frame where
  | list (items : List Reading)
  | object (members : List (Except Fault String × Reading))
  /-- An object that waits for the value of a key. -/
  | member (members : List (Except Fault String × Reading)) (key : Except Fault String)

/-- What has to come next. -/
inductive Expected where
  | value
  | firstItem
  | nextItem
  | firstKey
  | nextKey
  | colon
  /-- A comma or the end of the innermost list or object. -/
  | more
deriving DecidableEq, Repr

/-- The tree of a text that goes wrong inside the open frames, `r` being the
innermost value. -/
def cutOff (t : Trouble) : List Frame → Reading → Reading
  | [], r => r
  | .list items :: stack, r => cutOff t stack (.array (r :: items).reverse (some t))
  | .object members :: stack, _ => cutOff t stack (.object members.reverse (some t))
  | .member members key :: stack, r =>
    cutOff t stack (.object ((key, r) :: members).reverse (some t))

/-- The tree of a text that goes wrong behind the items or members of the
innermost frame. -/
def stop (t : Trouble) : List Frame → Reading
  | [] => .broken t
  | .list items :: stack => cutOff t stack (.array items.reverse (some t))
  | .object members :: stack => cutOff t stack (.object members.reverse (some t))
  | .member members key :: stack =>
    cutOff t stack (.object ((key, .broken t) :: members).reverse (some t))

/-- The tree of a text that goes wrong where a value should be. -/
def noValue (t : Trouble) (stack : List Frame) : Reading := cutOff t stack (.broken t)

/-- What is wrong with a text that ends. -/
def atEnd : Expected → List Frame → Reading
  | .value, stack => noValue (.always .endInValue) stack
  | .firstItem, stack => stop (.always .endInList) stack
  | .nextItem, stack => stop (.always .endInValue) stack
  | .firstKey, stack => stop (.always .endInObject) stack
  | .nextKey, stack => stop ⟨.endInValue, .endInObject⟩ stack
  | .colon, stack => noValue (.always .endInObject) stack
  | .more, .list items :: stack => stop (.always .endInList) (.list items :: stack)
  | .more, stack => stop (.always .endInObject) stack

/-- What a token leads to: more is to come, or the tree is finished. -/
inductive Step where
  | next (expected : Expected) (stack : List Frame)
  | done (r : Reading)

/-- What a complete value leads to. -/
def Step.complete (r : Reading) : List Frame → Step
  | [] => .done r
  | .list items :: stack => .next .more (.list (r :: items) :: stack)
  | .member members key :: stack => .next .more (.object ((key, r) :: members) :: stack)
  | .object members :: stack => .next .more (.object members :: stack)

/-- What a token leads to where a value has to come. -/
def Step.value (stack : List Frame) : Token → Step
  | .openList => .next .firstItem (.list [] :: stack)
  | .openObject => .next .firstKey (.object [] :: stack)
  | .null => complete .null stack
  | .bool b => complete (.bool b) stack
  | .number n => complete (.number n) stack
  | .string s => complete (.string s) stack
  | .brokenString t => .done (noValue t stack)
  | .broken t => .done (noValue t stack)
  | _ => .done (noValue (.always .expectedValue) stack)

/-- What a token leads to where a key has to come. -/
def Step.key : List Frame → Token → Step
  | .object members :: stack, .string s => .next .colon (.member members s :: stack)
  | stack, .brokenString t => .done (stop t stack)
  | stack, _ => .done (stop (.always .keyNotString) stack)

/-- What a token leads to. -/
def Step.of : Expected → List Frame → Token → Step
  | .value, stack, token => value stack token
  | .firstItem, .list items :: stack, .closeList => complete (.array items.reverse none) stack
  | .firstItem, stack, token => value stack token
  | .nextItem, stack, .closeList => .done (stop ⟨.trailingComma, .expectedValue⟩ stack)
  | .nextItem, stack, token => value stack token
  | .firstKey, .object members :: stack, .closeObject =>
    complete (.object members.reverse none) stack
  | .firstKey, stack, token => key stack token
  | .nextKey, stack, .closeObject => .done (stop ⟨.trailingComma, .keyNotString⟩ stack)
  | .nextKey, stack, token => key stack token
  | .colon, stack, .colon => .next .value stack
  | .colon, stack, _ => .done (noValue (.always .expectedColon) stack)
  | .more, .list items :: stack, .comma => .next .nextItem (.list items :: stack)
  | .more, .list items :: stack, .closeList => complete (.array items.reverse none) stack
  | .more, .list items :: stack, _ =>
    .done (stop (.always .expectedCommaOrBracket) (.list items :: stack))
  | .more, .object members :: stack, .comma => .next .nextKey (.object members :: stack)
  | .more, .object members :: stack, .closeObject =>
    complete (.object members.reverse none) stack
  | .more, stack, _ => .done (stop (.always .expectedCommaOrBrace) stack)

/-- The tree that tokens make, when `stack` is open and `next` has to come; and
the tokens behind it. -/
def build (next : Expected) (stack : List Frame) : List Token → Reading × List Token
  | [] => (atEnd next stack, [])
  | token :: rest =>
    match Step.of next stack token with
    | .next next stack => build next stack rest
    | .done r => (r, rest)

/-- The tree of a text, and whether anything stands behind its value. -/
structure Script where
  reading : Reading
  surplus : Bool

/-- The tree of a text. -/
def Script.read (s : String) : Script :=
  let (reading, rest) := build .value [] (tokens s)
  ⟨reading, !rest.isEmpty⟩

/-! ### Walking -/

mutual

/-- The first complaint about a value that is only skipped. -/
def Reading.skipFault? : Reading → Option Fault
  | .array items fault? => (skipItems? items).or (fault?.map (·.skipped))
  | .object members fault? => (skipMembers? members).or (fault?.map (·.skipped))
  | .broken t => some t.skipped
  | _ => none

/-- The first complaint about items that are only skipped. -/
def skipItems? : List Reading → Option Fault
  | [] => none
  | r :: rest => r.skipFault?.or (skipItems? rest)

/-- The first complaint about members that are only skipped. -/
def skipMembers? : List (Except Fault String × Reading) → Option Fault
  | [] => none
  | (_, r) :: rest => r.skipFault?.or (skipMembers? rest)

end

/-- A result, unless something is wrong behind it. -/
def finish {α : Type} (fault? : Option Trouble) (a : α) : Except Fault α :=
  match fault? with
  | some t => .error t.used
  | none => .ok a

mutual

/-- The value of a tree in which at most `room` lists and objects may be nested. -/
def Reading.toJson (room : Nat) : Reading → Except Fault Json
  | .null => .ok .null
  | .bool b => .ok (.bool b)
  | .number n => n.map .number
  | .string s => s.map .string
  | .array items fault? =>
    match room with
    | 0 => .error .tooDeep
    | room + 1 => do
      let values ← itemsToJson room items
      finish fault? (.array values)
  | .object members fault? =>
    match room with
    | 0 => .error .tooDeep
    | room + 1 => do
      let values ← membersToJson room members
      finish fault? (.object values)
  | .broken t => .error t.used

/-- The values of items. -/
def itemsToJson (room : Nat) : List Reading → Except Fault (List Json)
  | [] => .ok []
  | r :: rest => do
    let value ← r.toJson room
    let values ← itemsToJson room rest
    .ok (value :: values)

/-- The values of members. -/
def membersToJson (room : Nat) :
    List (Except Fault String × Reading) → Except Fault (List (String × Json))
  | [] => .ok []
  | (key, r) :: rest => do
    let key ← key
    let value ← r.toJson room
    let values ← membersToJson room rest
    .ok ((key, value) :: values)

end

/-- How many lists and objects may be nested in a value that is used. -/
def greatestDepth : Nat := 127

mutual

/-- The tree of a value, in which nothing is wrong. -/
def Reading.ofJson : Json → Reading
  | .null => .null
  | .bool b => .bool b
  | .number n => .number (.ok n)
  | .string s => .string (.ok s)
  | .array items => .array (ofItems items) none
  | .object members => .object (ofMembers members) none

/-- The trees of values. -/
def ofItems : List Json → List Reading
  | [] => []
  | v :: rest => Reading.ofJson v :: ofItems rest

/-- The trees of members. -/
def ofMembers : List (String × Json) → List (Except Fault String × Reading)
  | [] => []
  | (key, v) :: rest => (.ok key, Reading.ofJson v) :: ofMembers rest

end

end WorkflowLint.Json
