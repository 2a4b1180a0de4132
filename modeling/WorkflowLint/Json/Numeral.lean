import WorkflowLint.Decimal.Literal
import WorkflowLint.Json.Fault
import WorkflowLint.Json.Value

/-!
# `WorkflowLint.Json.Numeral`: numbers in JSON texts

A numeral is kept as its digits first. Its value is a whole number where it has
neither places nor a power and fits into 64 bits. Otherwise it is a
floating-point number computed from a significand of at most 64 bits, made of the
first digits that fit, and one multiplication or division by a power of ten.
-/

set_option autoImplicit false

namespace WorkflowLint.Json

/-- The digits of a number. -/
structure Numeral where
  negative : Bool
  whole : List Char
  /-- The digits behind the point, if there is one. -/
  places : Option (List Char)
  /-- The power of ten: whether it is negative, and its digits. -/
  power : Option (Bool × List Char)
deriving DecidableEq, Repr

/-! ### Reading digits -/

/-- The digits at the front of a list, and what follows them. -/
def digits (s : List Char) : List Char × List Char :=
  (s.takeWhile Char.isDigit, s.dropWhile Char.isDigit)

/-- The complaint where a digit is missing: the end of the text is a fault of its
own where the number is used. -/
def missingDigit : List Char → Trouble
  | [] => ⟨.endInValue, .invalidNumber⟩
  | _ => .always .invalidNumber

/-- At least one digit. -/
def someDigits (s : List Char) : Except Trouble (List Char × List Char) :=
  match digits s with
  | ([], _) => .error (missingDigit s)
  | found => .ok found

/-- The digits of the whole part. A zero in front of other digits is refused. -/
def wholeDigits (s : List Char) : Except Trouble (List Char × List Char) := do
  let (found, rest) ← someDigits s
  if found.head? = some '0' ∧ found.length ≠ 1 then .error (.always .invalidNumber)
  else .ok (found, rest)

/-- The digits behind a point, if there is one. -/
def placeDigits : List Char → Except Trouble (Option (List Char) × List Char)
  | '.' :: s => do
    let (found, rest) ← someDigits s
    .ok (some found, rest)
  | s => .ok (none, s)

/-- The power of ten, if there is one. -/
def powerDigits : List Char → Except Trouble (Option (Bool × List Char) × List Char)
  | [] => .ok (none, [])
  | c :: s =>
    if c = 'e' ∨ c = 'E' then do
      let (negative, s) := Decimal.signed s
      let (found, rest) ← someDigits s
      .ok (some (negative, found), rest)
    else .ok (none, c :: s)

/-- The numeral at the front of a list, and what follows it. -/
def Numeral.scan (s : List Char) : Except Trouble (Numeral × List Char) := do
  let (negative, s) :=
    match s with
    | '-' :: rest => (true, rest)
    | rest => (false, rest)
  let (whole, s) ← wholeDigits s
  let (places, s) ← placeDigits s
  let (power, s) ← powerDigits s
  .ok (⟨negative, whole, places, power⟩, s)

/-! ### Values -/

/-- One more than the largest significand. -/
def significandBound : Nat := 0x10000000000000000

/-- A significand with as many more digits as fit, and the digits that do not. -/
def absorb (significand : Nat) : List Char → Nat × List Char
  | [] => (significand, [])
  | c :: rest =>
    let next := 10 * significand + (c.toNat - '0'.toNat)
    if next < significandBound then absorb next rest else (significand, c :: rest)

/-- The power `10 ^ n`. -/
def tenTo (n : Nat) : Float := Decimal.nearestScaled 1 n

/-- The greatest power of ten that is a finite number. -/
def greatestPower : Nat := 308

/-- A number times `10 ^ n`. -/
def scaleUp (x : Float) (n : Nat) : Except Fault Float :=
  if n ≤ greatestPower then
    let y := x * tenTo n
    if y.isInf then .error .numberOutOfRange else .ok y
  else if x == 0 then .ok x
  else .error .numberOutOfRange

/-- A number divided by `10 ^ n`, in two steps where the power is not finite.
Nothing is left of a significand that is divided by more. -/
def scaleDown (x : Float) (n : Nat) : Float :=
  if n ≤ greatestPower then x / tenTo n
  else if n ≤ 2 * greatestPower then x / tenTo greatestPower / tenTo (n - greatestPower)
  else 0

/-- The number `significand · 10 ^ e`. -/
def scale (significand : Nat) (e : Int) : Except Fault Float :=
  let x := significand.toUInt64.toFloat
  if 0 ≤ e then scaleUp x e.toNat else .ok (scaleDown x (-e).toNat)

/-- One more than the largest power that is taken literally. -/
def powerBound : Nat := 0x80000000

/-- The size of a numeral as a floating-point number. -/
def Numeral.size (n : Numeral) : Except Fault Float :=
  let (first, dropped) := absorb 0 n.whole
  let places := n.places.getD []
  let (significand, left) := absorb first places
  let e : Int := (dropped.length : Int) - ((places.length : Int) - left.length)
  match n.power with
  | none => scale significand e
  | some (negative, digits) =>
    let power := Decimal.ofDigits digits
    if power < powerBound then scale significand (if negative then e - power else e + power)
    else if negative ∨ significand = 0 then .ok 0
    else .error .numberOutOfRange

/-- The floating-point number that a numeral stands for. -/
def Numeral.float (n : Numeral) : Except Fault Number := do
  let x ← n.size
  .ok (.float (if n.negative then -x else x))

/-- The size of the least whole number. -/
def greatestNegative : Nat := 0x8000000000000000

/-- The number that a numeral stands for. -/
def Numeral.value (n : Numeral) : Except Fault Number :=
  let whole := Decimal.ofDigits n.whole
  if n.places.isSome || n.power.isSome then n.float
  else if n.negative then
    if 0 < whole ∧ whole ≤ greatestNegative then .ok (.integer (-(whole : Int))) else n.float
  else if whole < significandBound then .ok (.integer whole)
  else n.float

end WorkflowLint.Json
