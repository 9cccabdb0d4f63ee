import TableTypes.Decimal.Shortest
import TableTypes.Unicode.GraphemeExtend
import TableTypes.Unicode.Unprintable

/-!
# Faults of documents

A document may end too early, break the grammar, or hold a value that does not fit what is
read. Faults are found in reading order and the first one ends the reading.
-/

namespace TableTypes
namespace Json

/-! ## Kinds of faults -/

/-- A number of a document. Integers beyond 64 bits are read as floating point. -/
inductive Number where
  | integer (value : Int)
  | float (negative : Bool) (magnitude : Binary64)
  deriving DecidableEq, Repr

/-- A value found where another was expected. -/
inductive Found where
  | null
  | boolean (value : Bool)
  | number (value : Number)
  | text (value : String)
  | list
  | record
  deriving DecidableEq, Repr

/-- How a well-formed value fails to fit. -/
inductive Mismatch where
  | missingField (name : String)
  | duplicateField (name : String)
  /-- The name is none of those expected. -/
  | unknownVariant (name : String) (expected : List String)
  | wrongType (found : Found) (expected : String)
  /-- An integer outside the range expected. -/
  | outOfRange (value : Int) (expected : String)
  /-- A list of fields that ends before a required one. -/
  | wrongLength (length : Nat) (record : String) (fields : Nat)
  deriving DecidableEq, Repr

/-- Why a document is refused. -/
inductive Fault where
  /-- The text ends too early. -/
  | truncated
  /-- The text breaks the grammar. -/
  | malformed
  | mismatch (cause : Mismatch)
  deriving DecidableEq, Repr

/-! ## Shown text

A text inside a message stands between double quotes, with everything escaped that would
not be seen as a character of its own.
-/

/-- A character by its code point in hexadecimal digits. -/
def showCode (c : Char) : List Char :=
  ['\\', 'u', '\x7b'] ++ Nat.toDigits 16 c.toNat ++ ['\x7d']

/-- The halfwidth sound marks extend a cluster, but are drawn in a place of their own. -/
def isHalfwidthSoundMark (c : Char) : Bool :=
  c = '\uff9e' || c = '\uff9f'

/-- The character is drawn upon the one before it. -/
def isAttached (c : Char) : Bool :=
  Unicode.isGraphemeExtend c && !isHalfwidthSoundMark c

/-- The character would not be seen as one of its own. -/
def isHidden (c : Char) : Bool :=
  isAttached c || Unicode.isDefaultIgnorable c || Unicode.isUnprintable c

/-- The form of one character in a shown text. -/
def showChar (c : Char) : List Char :=
  match c with
  | '\x00' => ['\\', '0']
  | '\t' => ['\\', 't']
  | '\r' => ['\\', 'r']
  | '\n' => ['\\', 'n']
  | '\\' => ['\\', '\\']
  | '"' => ['\\', '"']
  | c => if isHidden c then showCode c else [c]

/-- A text as a message shows it. -/
def showText (text : String) : String :=
  String.ofList ('"' :: text.toList.flatMap showChar ++ ['"'])

/-! ## Messages -/

/-- A piece of a message between backticks. -/
def ticked (text : String) : String :=
  "`" ++ text ++ "`"

namespace Number

/-- The text of an integer. -/
def integerText : Int -> String
  | .ofNat value => Nat.repr value
  | .negSucc value => "-" ++ Nat.repr (value + 1)

end Number

namespace Found

/-- The words for a value that was found. -/
def describe : Found -> String
  | .null => "null"
  | .boolean value => "boolean " ++ ticked (if value then "true" else "false")
  | .number (.integer value) => "integer " ++ ticked (Number.integerText value)
  | .number (.float negative magnitude) =>
      "floating point " ++ ticked ((if negative then "-" else "") ++ magnitude.text)
  | .text value => "string " ++ showText value
  | .list => "sequence"
  | .record => "map"

end Found

namespace Mismatch

/-- The text of a mismatch. -/
def message : Mismatch -> String
  | .missingField name => "missing field " ++ ticked name
  | .duplicateField name => "duplicate field " ++ ticked name
  | .unknownVariant name expected =>
      "unknown variant " ++ ticked name ++ ", expected one of "
        ++ String.intercalate ", " (expected.map ticked)
  | .wrongType found expected =>
      "invalid type: " ++ found.describe ++ ", expected " ++ expected
  | .outOfRange value expected =>
      "invalid value: integer " ++ ticked (Number.integerText value)
        ++ ", expected " ++ expected
  | .wrongLength length record fields =>
      "invalid length " ++ Nat.repr length ++ ", expected struct " ++ record
        ++ " with " ++ Nat.repr fields ++ " elements"

end Mismatch

namespace Fault

/-- The text of a fault. -/
def message : Fault -> String
  | .truncated => "unexpected end of document"
  | .malformed => "malformed document"
  | .mismatch cause => cause.message

end Fault
end Json
end TableTypes
