/-!
# Binary floating point in exact arithmetic

Nonnegative finite values of the 64-bit binary format, as a mantissa times a power of two.
An exact quotient is rounded to the nearest value, a tie to the even mantissa.
-/

namespace TableTypes

/-- The value `mantissa * 2 ^ exponent`. The mantissa has at most 53 bits, and 53 of them
unless the exponent is the least one. -/
structure Binary64 where
  mantissa : Nat
  exponent : Int
  deriving DecidableEq, Repr

namespace Binary64

/-- The least exponent of the format. -/
def leastExponent : Int :=
  -1074

/-- The greatest exponent of the format. -/
def greatestExponent : Int :=
  971

/-- The value zero. -/
def zero : Binary64 :=
  ⟨0, leastExponent⟩

/-- The value as a quotient of natural numbers. -/
def quotient (value : Binary64) : Nat × Nat :=
  (value.mantissa * Nat.pow 2 value.exponent.toNat, Nat.pow 2 (-value.exponent).toNat)

/-- The nearest natural number to a quotient, a tie to the even one. -/
def roundToEven (numerator denominator : Nat) : Nat :=
  let whole := numerator / denominator
  let rest := numerator % denominator
  if 2 * rest < denominator then whole
  else if 2 * rest = denominator then whole + whole % 2
  else whole + 1

/-- The quotient divided by a power of two. -/
def scaled (numerator denominator : Nat) (exponent : Int) : Nat × Nat :=
  (numerator * Nat.pow 2 (-exponent).toNat, denominator * Nat.pow 2 exponent.toNat)

/-- The exponent of the value nearest to a positive quotient, before rounding carries into
it. -/
def exponentOf (numerator denominator : Nat) : Int :=
  let guess : Int := (numerator.log2 : Int) - denominator.log2 - 53
  let (top, bottom) := scaled numerator denominator guess
  let fitted := if top / bottom < Nat.pow 2 53 then guess else guess + 1
  if fitted < leastExponent then leastExponent else fitted

/-- The value nearest to a quotient, or none when it is beyond the format. -/
def ofQuotient? (numerator denominator : Nat) : Option Binary64 :=
  if numerator = 0 then some zero
  else
    let exponent := exponentOf numerator denominator
    let (top, bottom) := scaled numerator denominator exponent
    let mantissa := roundToEven top bottom
    let value : Binary64 :=
      if mantissa = Nat.pow 2 53 then ⟨Nat.pow 2 52, exponent + 1⟩
      else ⟨mantissa, exponent⟩
    if greatestExponent < value.exponent then none else some value

/-- The rounded product of two values. -/
def mul? (left right : Binary64) : Option Binary64 :=
  let (leftTop, leftBottom) := left.quotient
  let (rightTop, rightBottom) := right.quotient
  ofQuotient? (leftTop * rightTop) (leftBottom * rightBottom)

/-- The rounded quotient of two values, the second of them positive. -/
def div? (left right : Binary64) : Option Binary64 :=
  let (leftTop, leftBottom) := left.quotient
  let (rightTop, rightBottom) := right.quotient
  ofQuotient? (leftTop * rightBottom) (leftBottom * rightTop)

end Binary64
end TableTypes
