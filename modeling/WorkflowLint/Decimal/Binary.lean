/-!
# `WorkflowLint.Decimal.Binary`: floating-point numbers as exact fractions

A finite number of double precision is `± m · 2 ^ q` for whole numbers `m` and
`q`. `Parts.of` takes a number apart into these from its bits, and `nearest`
goes the other way: it rounds a fraction to the closest number, a tie to the one
with the even last bit. Everything in between is arithmetic on whole numbers.
-/

set_option autoImplicit false

namespace WorkflowLint.Decimal

/-! ### Numbers taken apart -/

/-- The parts of a floating-point number. -/
inductive Parts where
  | notANumber
  | infinite (negative : Bool)
  /-- The number `m · 2 ^ q`, or its opposite. -/
  | finite (negative : Bool) (m : Nat) (q : Int)
deriving DecidableEq, Repr

/-- The number of bits of a significand that are stored. -/
def storedBits : Nat := 52

/-- The bit in front of the stored ones. -/
def leadingBit : Nat := 0x10000000000000

/-- The bit of the sign. -/
def signBit : Nat := 0x8000000000000000

/-- The least exponent of a last bit. -/
def leastExponent : Int := -1074

/-- The field of the exponent in numbers that are not finite. -/
def specialField : Nat := 2047

/-- The parts of a number. -/
def Parts.of (x : Float) : Parts :=
  let bits := x.toBits.toNat
  let negative := signBit ≤ bits
  let field := bits / leadingBit % 2048
  let stored := bits % leadingBit
  if field = specialField then
    if stored = 0 then .infinite negative else .notANumber
  else if field = 0 then .finite negative stored leastExponent
  else .finite negative (leadingBit + stored) (leastExponent + (field - 1))

/-! ### Rounding -/

/-- The whole number closest to `n / d`, a tie to the even one. -/
def roundDiv (n d : Nat) : Nat :=
  let floor := n / d
  let rest := n % d
  if 2 * rest < d then floor
  else if d < 2 * rest then floor + 1
  else floor + floor % 2

/-- The part `b ^ e` of a numerator: one where the exponent is negative. -/
def upper (b : Nat) (e : Int) : Nat := Nat.pow b e.toNat

/-- The part `b ^ (-e)` of a denominator: one where the exponent is positive. -/
def lower (b : Nat) (e : Int) : Nat := Nat.pow b (-e).toNat

/-- The largest `k` with `2 ^ k ≤ n / d`, for positive `n` and `d`. -/
def binade (n d : Nat) : Int :=
  let k : Int := (n.log2 : Int) - d.log2
  if d * upper 2 k ≤ n * lower 2 k then k else k - 1

/-- The floating-point number closest to `n / d`, a tie to the even one; beyond
the largest number it is infinite. -/
def nearest (n d : Nat) : Float :=
  if n = 0 then Float.ofBits 0
  else
    let q := max (binade n d - storedBits) leastExponent
    let significand := roundDiv (n * lower 2 q) (d * upper 2 q)
    let bits := (q - leastExponent).toNat * leadingBit + significand
    Float.ofBits (min bits (specialField * leadingBit)).toUInt64

/-- The floating-point number closest to `n · 10 ^ e`. -/
def nearestScaled (n : Nat) (e : Int) : Float := nearest (n * upper 10 e) (lower 10 e)

/-- The place of a number in the total order of all floating-point numbers, in
which zero stands behind its opposite. -/
def orderKey (x : Float) : Int :=
  let bits := x.toBits.toNat
  if bits < signBit then bits else (signBit : Int) - 1 - bits

end WorkflowLint.Decimal
