import TableTypes.Json.Reader

/-!
# Text literals

The body of a text literal, from the character after the opening quote to the closing one.
A text that is read must be well formed throughout; of a text that is skipped, surrogates
need not come in pairs.
-/

namespace TableTypes
namespace Json

/-- The value of a hexadecimal digit. -/
def hexDigit? (c : Char) : Option Nat :=
  if c.isDigit then some (c.toNat - 48)
  else if 'a' ≤ c && c ≤ 'f' then some (c.toNat - 87)
  else if 'A' ≤ c && c ≤ 'F' then some (c.toNat - 55)
  else none

/-- The value of four hexadecimal digits. -/
def hexUnit? (a b c d : Char) : Option Nat := do
  let a ← hexDigit? a
  let b ← hexDigit? b
  let c ← hexDigit? c
  let d ← hexDigit? d
  pure (((a * 16 + b) * 16 + c) * 16 + d)

/-- The fault of an escape with fewer than four hexadecimal digits. The text ends too
early when it has fewer than four bytes left. -/
def shortEscape (rest : List Char) : Fault :=
  if (String.ofList rest).utf8ByteSize < 4 then .truncated else .malformed

/-- The unit is the first half of a pair. -/
def isLeadingHalf (unit : Nat) : Bool :=
  0xD800 ≤ unit && unit < 0xDC00

/-- The unit is the second half of a pair. -/
def isTrailingHalf (unit : Nat) : Bool :=
  0xDC00 ≤ unit && unit < 0xE000

/-- The character of a pair of halves. -/
def joinHalves (leading trailing : Nat) : Char :=
  Char.ofNat (0x10000 + (leading - 0xD800) * 0x400 + (trailing - 0xDC00))

/-- The character that an escape of one letter stands for. -/
def simpleEscape? : Char -> Option Char
  | '"' => some '"'
  | '\\' => some '\\'
  | '/' => some '/'
  | 'b' => some '\x08'
  | 'f' => some '\x0c'
  | 'n' => some '\n'
  | 'r' => some '\r'
  | 't' => some '\t'
  | _ => none

/-- Put a character in front of a text that was read. -/
def prepend
    (c : Char) :
    Except Fault (List Char × List Char) -> Except Fault (List Char × List Char)
  | .error fault => .error fault
  | .ok (text, rest) => .ok (c :: text, rest)

/-- Read the body of a literal: its characters and what follows the closing quote. -/
def readBody : List Char -> Except Fault (List Char × List Char)
  | [] => .error .truncated
  | '"' :: rest => .ok ([], rest)
  | '\\' :: [] => .error .truncated
  | '\\' :: 'u' :: a :: b :: c :: d :: rest =>
      match hexUnit? a b c d with
      | none => .error .malformed
      | some unit =>
          if isTrailingHalf unit then .error .malformed
          else if isLeadingHalf unit then
            match rest with
            | '\\' :: 'u' :: e :: f :: g :: h :: rest =>
                match hexUnit? e f g h with
                | none => .error .malformed
                | some low =>
                    if isTrailingHalf low then prepend (joinHalves unit low) (readBody rest)
                    else .error .malformed
            | '\\' :: 'u' :: short => .error (shortEscape short)
            | [] => .error .truncated
            | ['\\'] => .error .truncated
            | _ => .error .malformed
          else prepend (Char.ofNat unit) (readBody rest)
  | '\\' :: 'u' :: short => .error (shortEscape short)
  | '\\' :: c :: rest =>
      match simpleEscape? c with
      | none => .error .malformed
      | some escaped => prepend escaped (readBody rest)
  | c :: rest =>
      if c < ' ' then .error .malformed else prepend c (readBody rest)

/-- Skip the body of a literal. -/
def skipBody : List Char -> Except Fault (List Char)
  | [] => .error .truncated
  | '"' :: rest => .ok rest
  | '\\' :: [] => .error .truncated
  | '\\' :: 'u' :: a :: b :: c :: d :: rest =>
      if (hexUnit? a b c d).isSome then skipBody rest else .error .malformed
  | '\\' :: 'u' :: short => .error (shortEscape short)
  | '\\' :: c :: rest =>
      if (simpleEscape? c).isSome then skipBody rest else .error .malformed
  | c :: rest =>
      if c < ' ' then .error .malformed else skipBody rest

namespace Reader

/-- Read a text whose opening quote is consumed. -/
def textBody : Reader String :=
  fun text => (readBody text).map fun (body, rest) => (String.ofList body, rest)

/-- Skip a text whose opening quote is consumed. -/
def skipTextBody : Reader Unit :=
  fun text => (skipBody text).map fun rest => ((), rest)

end Reader
end Json
end TableTypes
