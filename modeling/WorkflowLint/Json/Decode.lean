import WorkflowLint.Decimal.Shortest
import WorkflowLint.Json.Reading
import WorkflowLint.Json.Write
import WorkflowLint.Text.Shown

/-!
# `WorkflowLint.Json.Decode`: from JSON texts to records

A decoder walks a reading in reading order and stops at the first thing that is
not as it should be. Texts, counts and lists are decoded by what they are. A
record is decoded from an object by the names of its fields, in any order, where
members with other names are skipped; or from a list by the positions of its
fields. Fields that are not given keep the value that they have at the start.
-/

set_option autoImplicit false

namespace WorkflowLint.Json

/-! ### Complaints -/

/-- What was found where something else was wanted. -/
inductive Found where
  | null
  | bool (b : Bool)
  | integer (n : Int)
  | float (x : Float)
  | string (s : String)
  | list
  | object

/-- What was found, in words. -/
def Found.text : Found → String
  | null => "null"
  | bool b => "boolean `" ++ (if b then "true" else "false") ++ "`"
  | integer n => "integer `" ++ toString n ++ "`"
  | float x => "floating point `" ++ (Decimal.shortText? x).getD "null" ++ "`"
  | string s => "string " ++ Text.shown s
  | list => "sequence"
  | object => "map"

/-- Why a text or a value cannot be decoded. -/
inductive Error where
  /-- The text goes wrong. -/
  | fault (f : Fault)
  | wrongType (found : Found) (wanted : String)
  | wrongValue (found : Found) (wanted : String)
  | repeated (field : String)
  | unknownName (name : String) (names : List String)
  /-- A record given as a list has more than `count` items altogether, of which
  there are more than fields. In a text this shows as `f` behind the last field. -/
  | surplus (count : Nat) (f : Fault)
  /-- None of the shapes that were tried fits. -/
  | noShape (name : String)

/-- Names in words, each between backquotes. -/
def listNames (names : List String) : String :=
  let quoted := names.map fun n => "`" ++ n ++ "`"
  match quoted with
  | [one] => one
  | _ => "one of " ++ ", ".intercalate quoted

/-- The complaint about a text in words. -/
def Error.message : Error → String
  | fault f => f.message
  | wrongType found wanted => "invalid type: " ++ found.text ++ ", expected " ++ wanted
  | wrongValue found wanted => "invalid value: " ++ found.text ++ ", expected " ++ wanted
  | repeated field => "duplicate field `" ++ field ++ "`"
  | unknownName name names => "unknown variant `" ++ name ++ "`, expected " ++ listNames names
  | surplus _ f => f.message
  | noShape name => "data did not match any variant of untagged enum " ++ name

/-- The complaint about a value that did not come as a text, in words. Such a
list is known as a whole. -/
def Error.valueMessage : Error → String
  | surplus count _ => "invalid length " ++ toString count ++ ", expected fewer elements in array"
  | e => e.message

namespace Decode

/-! ### Plain values -/

/-- Makes something of a reading, or complains. -/
abbrev Decoder (α : Type) := Reading → Except Error α

/-- A result or a complaint about the text. -/
def lift {α : Type} : Except Fault α → Except Error α
  | .ok a => .ok a
  | .error f => .error (.fault f)

/-- What a number is, in a complaint. -/
def ofNumber : Number → Found
  | .integer n => .integer n
  | .float x => .float x

/-- The complaint about a value that is not what was wanted. A plain value is
read first; of lists and objects only the bracket is. -/
def mismatch {α : Type} (wanted : String) : Reading → Except Error α
  | .null => .error (.wrongType .null wanted)
  | .bool b => .error (.wrongType (.bool b) wanted)
  | .number n => do
    let n ← lift n
    .error (.wrongType (ofNumber n) wanted)
  | .string s => do
    let s ← lift s
    .error (.wrongType (.string s) wanted)
  | .array _ _ => .error (.wrongType .list wanted)
  | .object _ _ => .error (.wrongType .object wanted)
  | .broken t => .error (.fault t.used)

/-- A text. -/
def string : Decoder String
  | .string s => lift s
  | r => mismatch "a string" r

/-- A value that may be left out by saying `null`. -/
def nullable {α : Type} (d : Decoder α) : Decoder (Option α)
  | .null => .ok none
  | r => (d r).map some

/-- A count. -/
def count : Decoder Nat
  | .number n => do
    match ← lift n with
    | .integer k =>
      if k < 0 then .error (.wrongValue (.integer k) "usize") else .ok k.toNat
    | .float x => .error (.wrongType (.float x) "usize")
  | r => mismatch "usize" r

/-- Any value, inside `depth` lists and objects. -/
def any (depth : Nat) : Decoder Json := fun r => lift (r.toJson (greatestDepth - depth))

/-- The items of a list, one after the other. -/
def items {α : Type} (d : Decoder α) : List Reading → Except Error (List α)
  | [] => .ok []
  | r :: rest => do
    let a ← d r
    let others ← items d rest
    .ok (a :: others)

/-- A list. -/
def list {α : Type} (d : Decoder α) : Decoder (List α)
  | .array readings fault? => do
    let found ← items d readings
    lift (finish fault? found)
  | r => mismatch "a sequence" r

/-- The members of an object, one after the other. -/
def members {α : Type} (d : Decoder α) :
    List (Except Fault String × Reading) → Except Error (List (String × α))
  | [] => .ok []
  | (key, r) :: rest => do
    let key ← lift key
    let a ← d r
    let others ← members d rest
    .ok ((key, a) :: others)

/-- A table; of members with the same key the last one counts. -/
def table {α : Type} (d : Decoder α) : Decoder (Table α)
  | .object readings fault? => do
    let found ← members d readings
    lift (finish fault? (.ofList found))
  | r => mismatch "a map" r

/-! ### Records -/

/-- A field of a record: its name, and what its value does to the record. -/
structure RecordField (σ : Type) where
  name : String
  set : σ → Decoder σ

/-- A record with the fields that an object gives. A field's name may be given
once; `given` holds those that have been. -/
def fieldsByName {σ : Type} (fields : List (RecordField σ)) (given : List String) (start : σ) :
    List (Except Fault String × Reading) → Except Error σ
  | [] => .ok start
  | (key, r) :: rest => do
    let key ← lift key
    match fields.find? fun f => f.name == key with
    | some f =>
      if given.contains key then .error (.repeated key)
      else
        let next ← f.set start r
        fieldsByName fields (key :: given) next rest
    | none =>
      match r.skipFault? with
      | some f => .error (.fault f)
      | none => fieldsByName fields given start rest

/-- What the end of a list shows to a reader who wants no more items. -/
def surplusFault? (rest : List Reading) (fault? : Option Trouble) : Option Fault :=
  if rest.isEmpty then
    fault?.map fun t =>
      if t.used = .trailingComma ∨ t.used = .endInList then t.used else .trailingCharacters
  else some .trailingCharacters

/-- A record with the fields that a list gives by their positions, and the items
behind them. -/
def fieldsByPosition {σ : Type} (start : σ) :
    List (RecordField σ) → List Reading → Except Error (σ × List Reading × Bool)
  | [], rest => .ok (start, rest, true)
  | _ :: _, [] => .ok (start, [], false)
  | f :: fields, r :: rest => do
    let next ← f.set start r
    fieldsByPosition next fields rest

/-- A record, from an object or from a list. -/
def record {σ : Type} (wanted : String) (fields : List (RecordField σ)) (start : σ) : Decoder σ
  | .object readings fault? => do
    let found ← fieldsByName fields [] start readings
    lift (finish fault? found)
  | .array readings fault? => do
    let (found, rest, full) ← fieldsByPosition start fields readings
    if full then
      match surplusFault? rest fault? with
      | some f => .error (.surplus readings.length f)
      | none => .ok found
    else lift (finish fault? found)
  | r => mismatch wanted r

/-- What a text holds, nothing else standing behind it. -/
def fromText {α : Type} (d : Decoder α) (s : String) : Except Error α := do
  let script := Script.read s
  let a ← d script.reading
  if script.surplus then .error (.fault .trailingCharacters) else .ok a

/-- What a value holds. Its objects are walked in the order of their keys. -/
def fromValue {α : Type} (d : Decoder α) (v : Json) : Except Error α :=
  d (.ofJson v.canonical)

end Decode

end WorkflowLint.Json
