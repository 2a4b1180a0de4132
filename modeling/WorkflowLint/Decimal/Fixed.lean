import WorkflowLint.Decimal.Binary

/-!
# `WorkflowLint.Decimal.Fixed`: numbers with one decimal place

Scores are shown with one place. The exact value is rounded, a tie to the even
digit; the sign is kept also where the rounded value is zero.
-/

set_option autoImplicit false

namespace WorkflowLint.Decimal

/-- The tenths of `m · 2 ^ q`, rounded. -/
def tenths (m : Nat) (q : Int) : Nat := roundDiv (10 * m * upper 2 q) (lower 2 q)

/-- A number with one decimal place. -/
def onePlace (x : Float) : String :=
  match Parts.of x with
  | .notANumber => "NaN"
  | .infinite negative => if negative then "-inf" else "inf"
  | .finite negative m q =>
    let n := tenths m q
    (if negative then "-" else "") ++ toString (n / 10) ++ "." ++ toString (n % 10)

end WorkflowLint.Decimal
