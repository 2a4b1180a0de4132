import WorkflowLint.Decimal.Binary

/-!
# `WorkflowLint.Decimal.Shortest`: the fewest digits that read back

A decimal fraction reads back as a floating-point number exactly when it lies in
the interval of all reals that round to that number. `shortest` looks for a
fraction with one digit in this interval, then with two, and so on up to
seventeen, which always suffice. With a given number of digits there are two
candidates, the neighbours of the number on the grid of such fractions, because
the interval contains the number itself.
-/

set_option autoImplicit false

namespace WorkflowLint.Decimal

/-- The decimal fraction `digits · 10 ^ exponent`. -/
structure Fraction where
  digits : Nat
  exponent : Int
deriving DecidableEq, Repr

/-- How many digits a number has in decimal. -/
def digitCount (n : Nat) : Nat := (Nat.toDigits 10 n).length

/-- The largest `p` with `10 ^ p ≤ n / d`, for positive `n` and `d`. -/
def decade (n d : Nat) : Int :=
  if d ≤ n then (digitCount (n / d) : Int) - 1
  else -(digitCount ((d + n - 1) / n - 1) : Int)

/-- The interval of the reals that round to `m · 2 ^ q`: its ends in quarters of
`2 ^ q`, and whether they belong to it. Below a power of two the numbers lie
twice as close. -/
structure Interval where
  lo : Nat
  hi : Nat
  closed : Bool
deriving DecidableEq, Repr

/-- The interval around `m · 2 ^ q`. -/
def Interval.around (m : Nat) (q : Int) : Interval where
  lo := if m = leadingBit ∧ leastExponent < q then 4 * m - 1 else 4 * m - 2
  hi := 4 * m + 2
  closed := m % 2 = 0

/-- Whether the fraction `n / d` of quarters lies in the interval. -/
def Interval.holds (i : Interval) (n d : Nat) : Bool :=
  if i.closed then i.lo * d ≤ n && n ≤ i.hi * d else i.lo * d < n && n < i.hi * d

/-- The candidate with `count` digits, if there is one: of the neighbours of
`m · 2 ^ q` on the grid the one that reads back, of two the nearer, in a tie the
even one. -/
def candidate? (m : Nat) (q p : Int) (i : Interval) (count : Nat) : Option Fraction :=
  let e : Int := p - count + 1
  -- `c · 10 ^ e` is `c · n / d` quarters of `2 ^ q`.
  let n := 4 * upper 10 e * lower 2 q
  let d := lower 10 e * upper 2 q
  let value := 4 * m * d
  let below := value / n
  let holdsBelow := i.holds (below * n) d
  let holdsAbove := i.holds ((below + 1) * n) d
  if holdsBelow && holdsAbove then some ⟨roundDiv value n, e⟩
  else if holdsBelow then some ⟨below, e⟩
  else if holdsAbove then some ⟨below + 1, e⟩
  else none

/-- The fewest digits that read back as `m · 2 ^ q`, for positive `m`. -/
def shortest (m : Nat) (q : Int) : Fraction :=
  let p := decade (m * upper 2 q) (lower 2 q)
  let i := Interval.around m q
  (((List.range 17).map (· + 1)).findSome? (candidate? m q p i)).getD ⟨m, 0⟩

/-- A fraction without zeros at the end of its digits; `fuel` bounds how many are
taken away. -/
def Fraction.trim : Nat → Fraction → Fraction
  | 0, f => f
  | fuel + 1, f =>
    if f.digits % 10 = 0 ∧ f.digits ≠ 0 then trim fuel ⟨f.digits / 10, f.exponent + 1⟩ else f

/-- The least decimal exponent of a number that is written out. -/
def leastPlain : Int := -5

/-- The greatest decimal exponent of a number that is written out. -/
def greatestPlain : Int := 15

/-- A positive fraction in decimal: written out where the exponent of its first
digit is between `leastPlain` and `greatestPlain`, with `.0` behind whole
numbers, and by its digits and a power of ten otherwise. -/
def Fraction.text (f : Fraction) : String :=
  let t := f.trim 20
  let digits := Nat.toDigits 10 t.digits
  let p : Int := t.exponent + digits.length - 1
  let zeros (n : Nat) : List Char := List.replicate n '0'
  String.ofList <|
    if leastPlain ≤ p ∧ p ≤ greatestPlain then
      if 0 ≤ t.exponent then digits ++ zeros t.exponent.toNat ++ ".0".toList
      else if 0 ≤ p then
        digits.take (p.toNat + 1) ++ '.' :: digits.drop (p.toNat + 1)
      else "0.".toList ++ zeros ((-p).toNat - 1) ++ digits
    else
      digits.take 1 ++
      (if digits.length = 1 then [] else '.' :: digits.drop 1) ++
      (if p < 0 then "e-".toList else "e+".toList) ++ Nat.toDigits 10 p.natAbs

/-- A finite number with the fewest digits that read back; `none` for all
others. -/
def shortText? (x : Float) : Option String :=
  match Parts.of x with
  | .finite negative m q =>
    let sign := if negative then "-" else ""
    if m = 0 then some (sign ++ "0.0") else some (sign ++ (shortest m q).text)
  | _ => none

end WorkflowLint.Decimal
