import TableTypes.Decimal.Binary64

/-!
# Shortest decimals

A binary value is written with the fewest decimal digits that read back as the same value,
and of those decimals with the nearest. Exponents from -5 to 15 are written positionally.
-/

namespace TableTypes
namespace Binary64

/-- A decimal `digits * 10 ^ exponent`. -/
structure Decimal where
  digits : Nat
  exponent : Int
  deriving DecidableEq, Repr

namespace Decimal

/-- The decimal as a quotient of natural numbers. -/
def quotient (decimal : Decimal) : Nat × Nat :=
  (decimal.digits * Nat.pow 10 decimal.exponent.toNat,
    Nat.pow 10 (-decimal.exponent).toNat)

end Decimal

/-- The bounds between which a decimal reads back as the value, in quarters of the last
mantissa bit. Below a power of two the neighbour is closer. -/
def quarterBounds (value : Binary64) : Nat × Nat :=
  let below :=
    if value.mantissa = Nat.pow 2 52 && leastExponent < value.exponent then 1 else 2
  (4 * value.mantissa - below, 4 * value.mantissa + 2)

/-- A decimal reads back as the value. A bound itself rounds to the even mantissa. -/
def readsBack (value : Binary64) (decimal : Decimal) : Bool :=
  let (top, bottom) := decimal.quotient
  let (low, high) := value.quarterBounds
  let position := 4 * top * Nat.pow 2 (-value.exponent).toNat
  let unit := bottom * Nat.pow 2 value.exponent.toNat
  if value.mantissa % 2 = 0 then
    low * unit ≤ position && position ≤ high * unit
  else
    low * unit < position && position < high * unit

/-- The exponent of the first decimal digit of a positive value. -/
def leadingExponent (value : Binary64) : Int :=
  let (top, bottom) := value.quotient
  ((Nat.toDigits 10 (top * Nat.pow 10 400 / bottom)).length : Int) - 401

/-- The nearest decimal with the given number of digits that reads back as the value, if
there is one. -/
def decimalOfLength? (value : Binary64) (length : Nat) : Option Decimal :=
  let exponent := value.leadingExponent - (length : Int) + 1
  let (top, bottom) := value.quotient
  let scaledTop := top * Nat.pow 10 (-exponent).toNat
  let scaledBottom := bottom * Nat.pow 10 exponent.toNat
  let nearest := roundToEven scaledTop scaledBottom
  let floor := scaledTop / scaledBottom
  let candidates := [nearest, floor, floor + 1].map (Decimal.mk · exponent)
  candidates.find? value.readsBack

/-- Move the zeros at the end of the digits into the exponent. -/
def Decimal.normalize : Nat -> Decimal -> Decimal
  | 0, decimal => decimal
  | fuel + 1, decimal =>
      if decimal.digits ≠ 0 && decimal.digits % 10 = 0 then
        normalize fuel ⟨decimal.digits / 10, decimal.exponent + 1⟩
      else decimal

/-- The shortest decimal of a positive value. Seventeen digits are always enough. -/
def shortest (value : Binary64) : Decimal :=
  let decimals := (List.range 17).filterMap fun index =>
    value.decimalOfLength? (index + 1)
  (decimals.head?.getD ⟨value.mantissa, value.exponent⟩).normalize 20

/-- A decimal with a point among or around its digits. -/
def positional (digits : List Char) (leading : Int) : List Char :=
  if leading < 0 then
    '0' :: '.' :: List.replicate (-leading - 1).toNat '0' ++ digits
  else
    let count := leading.toNat + 1
    let whole := digits.take count ++ List.replicate (count - digits.length) '0'
    let fraction := digits.drop count
    whole ++ '.' :: (if fraction.isEmpty then ['0'] else fraction)

/-- A decimal with one digit before the point and a signed exponent. -/
def scientific (digits : List Char) (leading : Int) : List Char :=
  let exponent := Nat.toDigits 10 leading.natAbs
  let mantissa :=
    match digits with
    | first :: second :: rest => first :: '.' :: second :: rest
    | short => short
  mantissa ++ 'e' :: (if leading < 0 then '-' else '+') :: exponent

/-- The text of a value. -/
def text (value : Binary64) : String :=
  if value.mantissa = 0 then "0.0"
  else
    let decimal := value.shortest
    let digits := Nat.toDigits 10 decimal.digits
    let leading := decimal.exponent + (digits.length : Int) - 1
    String.ofList <|
      if -5 ≤ leading && leading ≤ 15 then positional digits leading
      else scientific digits leading

end Binary64
end TableTypes
