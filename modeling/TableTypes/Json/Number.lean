import TableTypes.Json.Reader

/-!
# Numbers

A number is collected into a significand of 64 bits and a decimal exponent. Digits that no
longer fit the significand count only by their place. A fraction or an exponent, or an
integer that does not fit 64 bits, makes a floating point value; one beyond the range of
the format is refused.
-/

namespace TableTypes
namespace Json

/-- The value of a decimal digit. -/
def digitValue (c : Char) : Nat :=
  c.toNat - 48

/-- One more digit still fits a significand of 64 bits. -/
def fits (significand digit : Nat) : Bool :=
  significand * 10 + digit < Nat.pow 2 64

/-- Move a value by a decimal exponent in rounded steps of at most 308 places. A value
that has become zero stays zero. -/
def scaleDecimal : Nat -> Binary64 -> Int -> Option Binary64
  | 0, _, _ => some Binary64.zero
  | fuel + 1, value, exponent =>
      if exponent.natAbs ≤ 308 then
        match Binary64.ofQuotient? (Nat.pow 10 exponent.natAbs) 1 with
        | none => none
        | some power => if 0 ≤ exponent then value.mul? power else value.div? power
      else if value.mantissa = 0 then some value
      else if 0 ≤ exponent then none
      else
        match Binary64.ofQuotient? (Nat.pow 10 308) 1 with
        | none => none
        | some power =>
            match value.div? power with
            | none => none
            | some smaller => scaleDecimal fuel smaller (exponent + 308)

/-- The floating point value of a significand of 64 bits and a decimal exponent. Eight steps
of 308 places take any such value to zero. -/
def assembleFloat (negative : Bool) (significand : Nat) (exponent : Int) : Except Fault Number :=
  match (Binary64.ofQuotient? significand 1).bind (scaleDecimal 8 · exponent) with
  | none => .error .malformed
  | some magnitude => .ok (.float negative magnitude)

/-- The value of a text without fraction and exponent. Minus zero, and what lies below the
signed integers of 64 bits, are floating point. -/
def assembleInteger (negative : Bool) (significand : Nat) : Except Fault Number :=
  if negative then
    if significand = 0 || Nat.pow 2 63 < significand then assembleFloat true significand 0
    else .ok (.integer (-(significand : Int)))
  else .ok (.integer significand)

/-- The greatest exponent that is computed with. -/
def exponentLimit : Nat :=
  Nat.pow 2 31 - 1

/-- The exponent, or the limit that it is beyond. -/
def clampExponent (exponent : Int) : Int :=
  if (exponentLimit : Int) < exponent then exponentLimit
  else if exponent < -(exponentLimit : Int) - 1 then -(exponentLimit : Int) - 1
  else exponent

/-- Read the digits of an exponent after a mark and a sign. -/
def readExponentDigits
    (negative : Bool)
    (significand : Nat)
    (start : Int)
    (exponentNegative : Bool)
    (text : List Char) : Except Fault (Number × List Char) :=
  match text with
  | [] => .error .truncated
  | first :: _ =>
      if !first.isDigit then .error .malformed
      else
        let digits := text.takeWhile Char.isDigit
        let rest := text.dropWhile Char.isDigit
        let size := digits.foldl (fun size c => size * 10 + digitValue c) 0
        if exponentLimit < size then
          if significand ≠ 0 && !exponentNegative then .error .malformed
          else .ok (.float negative Binary64.zero, rest)
        else
          let exponent := if exponentNegative then start - size else start + size
          (assembleFloat negative significand (clampExponent exponent)).map (·, rest)

/-- Read an exponent whose mark is consumed. -/
def readExponent
    (negative : Bool)
    (significand : Nat)
    (start : Int) : List Char -> Except Fault (Number × List Char)
  | '+' :: rest => readExponentDigits negative significand start false rest
  | '-' :: rest => readExponentDigits negative significand start true rest
  | rest => readExponentDigits negative significand start false rest

/-- Finish a floating point value after its digits. -/
def readFloatEnd
    (negative : Bool)
    (significand : Nat)
    (exponent : Int) : List Char -> Except Fault (Number × List Char)
  | 'e' :: rest | 'E' :: rest => readExponent negative significand exponent rest
  | rest => (assembleFloat negative significand exponent).map (·, rest)

/-- Read the digits after the point. Those after the first that does not fit are passed
over. -/
def readFraction
    (negative : Bool)
    (significand : Nat)
    (exponent : Int) : List Char -> Except Fault (Number × List Char)
  | [] => readFloatEnd negative significand exponent []
  | c :: rest =>
      if c.isDigit then
        if fits significand (digitValue c) then
          readFraction negative (significand * 10 + digitValue c) (exponent - 1) rest
        else
          readFloatEnd negative significand exponent (rest.dropWhile Char.isDigit)
      else readFloatEnd negative significand exponent (c :: rest)

/-- Read a fraction whose point is consumed. A digit must follow the point. -/
def readPoint
    (negative : Bool)
    (significand : Nat)
    (exponent : Int) : List Char -> Except Fault (Number × List Char)
  | [] => .error .truncated
  | c :: rest =>
      if c.isDigit then readFraction negative significand exponent (c :: rest)
      else .error .malformed

/-- Read on from a digit that does not fit the significand. -/
def readLongInteger
    (negative : Bool)
    (significand : Nat)
    (exponent : Int) : List Char -> Except Fault (Number × List Char)
  | [] => readFloatEnd negative significand exponent []
  | c :: rest =>
      if c.isDigit then readLongInteger negative significand (exponent + 1) rest
      else if c = '.' then readPoint negative significand exponent rest
      else readFloatEnd negative significand exponent (c :: rest)

/-- Finish a number whose whole digits fit the significand. -/
def readNumberEnd
    (negative : Bool)
    (significand : Nat) : List Char -> Except Fault (Number × List Char)
  | '.' :: rest => readPoint negative significand 0 rest
  | 'e' :: rest | 'E' :: rest => readExponent negative significand 0 rest
  | rest => (assembleInteger negative significand).map (·, rest)

/-- Read whole digits after those collected so far. -/
def readWhole
    (negative : Bool)
    (significand : Nat) : List Char -> Except Fault (Number × List Char)
  | [] => readNumberEnd negative significand []
  | c :: rest =>
      if c.isDigit then
        if fits significand (digitValue c) then
          readWhole negative (significand * 10 + digitValue c) rest
        else
          readLongInteger negative significand 1 rest
      else readNumberEnd negative significand (c :: rest)

/-- Read a number without its sign. A zero at the start stands alone. -/
def readUnsigned (negative : Bool) : List Char -> Except Fault (Number × List Char)
  | [] => .error .truncated
  | '0' :: rest =>
      if rest.head?.any Char.isDigit then .error .malformed
      else readNumberEnd negative 0 rest
  | c :: rest =>
      if c.isDigit then readWhole negative (digitValue c) rest else .error .malformed

/-- Read a number. -/
def readNumber : List Char -> Except Fault (Number × List Char)
  | '-' :: rest => readUnsigned true rest
  | text => readUnsigned false text

/-- Skip an exponent whose mark is consumed. -/
def skipExponent (text : List Char) : Option (List Char) :=
  let digits :=
    match text with
    | '+' :: rest => rest
    | '-' :: rest => rest
    | rest => rest
  if digits.head?.any Char.isDigit then some (digits.dropWhile Char.isDigit) else none

/-- Skip what may follow the digits of a number. -/
def skipExponentIfAny : List Char -> Option (List Char)
  | 'e' :: rest | 'E' :: rest => skipExponent rest
  | rest => some rest

/-- Skip what may follow the whole digits of a number. -/
def skipNumberEnd : List Char -> Option (List Char)
  | '.' :: rest =>
      if rest.head?.any Char.isDigit then skipExponentIfAny (rest.dropWhile Char.isDigit)
      else none
  | rest => skipExponentIfAny rest

/-- Skip a number without its sign. -/
def skipUnsigned : List Char -> Option (List Char)
  | '0' :: rest => if rest.head?.any Char.isDigit then none else skipNumberEnd rest
  | c :: rest => if c.isDigit then skipNumberEnd (rest.dropWhile Char.isDigit) else none
  | [] => none

/-- Skip a number, of which only the form matters. -/
def skipNumber : List Char -> Option (List Char)
  | '-' :: rest => skipUnsigned rest
  | text => skipUnsigned text

namespace Reader

/-- Read a number from its first character. -/
def number : Reader Number :=
  fun text => readNumber text

/-- Skip a number. However it fails, the fault is in its form. -/
def skipNumber : Reader Unit :=
  fun text =>
    match Json.skipNumber text with
    | none => .error .malformed
    | some rest => .ok ((), rest)

end Reader
end Json
end TableTypes
