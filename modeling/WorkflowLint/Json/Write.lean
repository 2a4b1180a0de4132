import WorkflowLint.Decimal.Shortest
import WorkflowLint.Json.Quoted
import WorkflowLint.Json.Value
import WorkflowLint.Sorted

/-!
# `WorkflowLint.Json.Write`: writing JSON

One writer serves two layouts. The compact one writes a value on one line
without blanks; the pretty one gives every item and member a line of its own and
indents it by two blanks for each list and object around it. Members are written
in their order. `canonical` orders them by their keys first and keeps of members
with the same key the last one.
-/

set_option autoImplicit false

namespace WorkflowLint.Json

/-- Where a writer puts blanks and line ends. -/
structure Layout where
  /-- What stands in front of an item or member inside so many lists and objects,
  and in front of the bracket that closes them. -/
  lead : Nat → List Char
  /-- What stands behind the colon of a member. -/
  gap : List Char

/-- Everything on one line. -/
def Layout.compact : Layout := ⟨fun _ => [], []⟩

/-- Every item and member on a line of its own. -/
def Layout.pretty : Layout := ⟨fun level => '\n' :: List.replicate (2 * level) ' ', [' ']⟩

/-- A number in decimal. What is no finite number is written as no value. -/
def Number.text : Number → List Char
  | .integer n => if n < 0 then '-' :: Nat.toDigits 10 n.natAbs else Nat.toDigits 10 n.natAbs
  | .float x => ((Decimal.shortText? x).getD "null").toList

mutual

/-- A value that stands inside `level` lists and objects. -/
def write (l : Layout) (level : Nat) : Json → List Char
  | .null => "null".toList
  | .bool true => "true".toList
  | .bool false => "false".toList
  | .number n => n.text
  | .string s => quote s
  | .array [] => "[]".toList
  | .array (v :: rest) =>
    '[' :: (l.lead (level + 1) ++ write l (level + 1) v ++ writeItems l (level + 1) rest ++
      l.lead level ++ [']'])
  | .object [] => "\x7b\x7d".toList
  | .object ((key, v) :: rest) =>
    '\x7b' :: (l.lead (level + 1) ++ quote key ++ ':' :: l.gap ++ write l (level + 1) v ++
      writeMembers l (level + 1) rest ++ l.lead level ++ ['\x7d'])

/-- Further items of a list. -/
def writeItems (l : Layout) (level : Nat) : List Json → List Char
  | [] => []
  | v :: rest => ',' :: (l.lead level ++ write l level v ++ writeItems l level rest)

/-- Further members of an object. -/
def writeMembers (l : Layout) (level : Nat) : List (String × Json) → List Char
  | [] => []
  | (key, v) :: rest =>
    ',' :: (l.lead level ++ quote key ++ ':' :: l.gap ++ write l level v ++
      writeMembers l level rest)

end

/-- A value on one line. -/
def compact (v : Json) : String := String.ofList (write .compact 0 v)

/-- A value with every item and member on a line of its own. -/
def pretty (v : Json) : String := String.ofList (write .pretty 0 v)

mutual

/-- A value whose objects have their members in the order of their keys, of
members with the same key the last one. -/
def canonical : Json → Json
  | .array items => .array (canonicalItems items)
  | .object members => .object (Table.ofList (canonicalMembers members)).entries
  | v => v

/-- Items in canonical form. -/
def canonicalItems : List Json → List Json
  | [] => []
  | v :: rest => canonical v :: canonicalItems rest

/-- Members with values in canonical form, in their own order. -/
def canonicalMembers : List (String × Json) → List (String × Json)
  | [] => []
  | (key, v) :: rest => (key, canonical v) :: canonicalMembers rest

end

end WorkflowLint.Json
