/-!
# Values of documents

The value behind a document, and its printed form without blanks.
-/

namespace TableTypes
namespace Json

/-- A value of a document. -/
inductive Value where
  | null
  | boolean (value : Bool)
  | integer (value : Int)
  | text (value : String)
  | list (items : List Value)
  /-- Members in the order in which they are printed. -/
  | record (members : List (String × Value))
  deriving Repr

/-- The form of one character within a text literal. -/
def escapeText (c : Char) : List Char :=
  match c with
  | '"' => ['\\', '"']
  | '\\' => ['\\', '\\']
  | '\n' => ['\\', 'n']
  | '\r' => ['\\', 'r']
  | '\t' => ['\\', 't']
  | '\x08' => ['\\', 'b']
  | '\x0c' => ['\\', 'f']
  | c =>
      if c < ' ' then
        let digits := Nat.toDigits 16 c.toNat
        '\\' :: 'u' :: List.replicate (4 - digits.length) '0' ++ digits
      else [c]

/-- A text as a literal. -/
def textLiteral (text : String) : List Char :=
  '"' :: text.toList.flatMap escapeText ++ ['"']

/-- An integer in decimal digits. -/
def integerLiteral : Int -> List Char
  | .ofNat value => Nat.toDigits 10 value
  | .negSucc value => '-' :: Nat.toDigits 10 (value + 1)

namespace Value

mutual

/-- The characters of a value. -/
def chars : Value -> List Char
  | .null => ['n', 'u', 'l', 'l']
  | .boolean true => ['t', 'r', 'u', 'e']
  | .boolean false => ['f', 'a', 'l', 's', 'e']
  | .integer value => integerLiteral value
  | .text value => textLiteral value
  | .list items => '[' :: itemChars items ++ [']']
  | .record members => '\x7b' :: memberChars members ++ ['\x7d']

/-- The characters of the elements of a list. -/
def itemChars : List Value -> List Char
  | [] => []
  | [item] => chars item
  | item :: items => chars item ++ ',' :: itemChars items

/-- The characters of the members of a record. -/
def memberChars : List (String × Value) -> List Char
  | [] => []
  | [(name, value)] => textLiteral name ++ ':' :: chars value
  | (name, value) :: members =>
      textLiteral name ++ ':' :: chars value ++ ',' :: memberChars members

end

/-- The document of a value. -/
def print (value : Value) : String :=
  String.ofList value.chars

/-- The value of an optional one, which is null when there is none. -/
def ofOption (encode : α -> Value) : Option α -> Value
  | none => .null
  | some value => encode value

/-- The list of the values of the elements. -/
def ofList (encode : α -> Value) (items : List α) : Value :=
  .list (items.map encode)

end Value
end Json
end TableTypes
