import WorkflowLint.Json.Decode

/-!
# `WorkflowLint.Json.Shape`: values of known shape

What is decoded from a whole value, rather than while a text is read, is taken
from it part by part: `fields?` gives the fields of a record, `variant` the one
of several names that a value says.
-/

set_option autoImplicit false

namespace WorkflowLint.Json

/-- What a value is, in a complaint. -/
def Found.ofJson : Json → Found
  | .null => .null
  | .bool b => .bool b
  | .number n => Decode.ofNumber n
  | .string s => .string s
  | .array _ => .list
  | .object _ => .object

/-- The thing whose name a value says: by a text, or by an object with the name
as its only key and `null` as its value. -/
def variant {α : Type} (names : List (String × α)) (v : Json) : Except Error α :=
  let named (s : String) : Except Error α :=
    match names.find? fun n => n.1 == s with
    | some (_, a) => .ok a
    | none => .error (.unknownName s (names.map (·.1)))
  match v with
  | .string s => named s
  | .object [(key, value)] =>
    match named key, value with
    | .ok a, .null => .ok a
    | .ok _, value => .error (.wrongType (.ofJson value) "unit")
    | .error e, _ => .error e
  | .object _ => .error (.wrongValue .object "map with a single key")
  | v => .error (.wrongType (.ofJson v) "string or map")

/-- The values of a record's fields, in the order of the fields, with `none` for
those that are not given. An object gives them by name, no name twice; a list
gives them by position. -/
def fields? (names : List String) : Json → Option (List (Option Json))
  | .object members =>
    if names.all fun n => (members.filter fun m => m.1 == n).length ≤ 1 then
      some (names.map fun n => (members.find? fun m => m.1 == n).map (·.2))
    else none
  | .array items =>
    if items.length ≤ names.length then
      some (items.map some ++ List.replicate (names.length - items.length) none)
    else none
  | _ => none

/-- The text that a value is. -/
def string? : Json → Option String
  | .string s => some s
  | _ => none

/-- The number that a value is. -/
def float? : Json → Option Float
  | .number n => some n.toFloat
  | _ => none

/-- The items of a list, if each of them is as it should be. -/
def list? {α : Type} (f : Json → Option α) : Json → Option (List α)
  | .array items => items.mapM f
  | _ => none

/-- The table that an object of texts is; of members with the same key the last
one counts. -/
def table? : Json → Option (Table String)
  | .object members => do
    let entries ← members.mapM fun m => m.2.string?.map fun s => (m.1, s)
    some (.ofList entries)
  | _ => none

/-- A table of texts as an object. -/
def ofTable (t : Table String) : Json := .object (t.entries.map fun e => (e.1, .string e.2))

end WorkflowLint.Json
