/-!
# `WorkflowLint.Json.Value`: JSON values

A number is a whole number where it was written as one and fits into 64 bits,
and a floating-point number otherwise. The members of an object keep their
order and may repeat a key; whoever looks a key up decides what that means.
-/

set_option autoImplicit false

namespace WorkflowLint

namespace Json

/-- A JSON number. -/
inductive Number where
  | integer (n : Int)
  | float (x : Float)

/-- A number as a floating-point number, the closest one where it is whole. -/
def Number.toFloat : Number → Float
  | integer n => if n < 0 then -n.natAbs.toUInt64.toFloat else n.natAbs.toUInt64.toFloat
  | float x => x

end Json

/-- A JSON value. -/
inductive Json where
  | null
  | bool (b : Bool)
  | number (n : Json.Number)
  | string (s : String)
  | array (items : List Json)
  | object (members : List (String × Json))

namespace Json

instance : Inhabited Json := ⟨null⟩

/-- A list of texts as a value. -/
def ofStrings (l : List String) : Json := .array (l.map .string)

/-- A natural number as a value. -/
def ofNat (n : Nat) : Json := .number (.integer n)

/-- A floating-point number as a value. -/
def ofFloat (x : Float) : Json := .number (.float x)

/-- The last member with a key. -/
def member? (key : String) : Json → Option Json
  | object members => (members.reverse.find? fun m => m.1 == key).map (·.2)
  | _ => none

end Json

end WorkflowLint
