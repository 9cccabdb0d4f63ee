import TableTypes.Json.Fault

/-!
# Readers

A reader consumes a document from the front and yields a value or the first fault. This
module holds the steps that every reader is made of: blanks, single characters, and the
marks that part the elements of lists and the members of records.
-/

namespace TableTypes
namespace Json

/-- A step that reads a value off the front of a text. -/
abbrev Reader (α : Type) :=
  StateT (List Char) (Except Fault) α

/-- The characters that may stand between the tokens of a document. -/
def isBlank (c : Char) : Bool :=
  c = ' ' || c = '\n' || c = '\t' || c = '\r'

namespace Reader

/-- End the reading with a fault. -/
def fail (fault : Fault) : Reader α :=
  fun _ => .error fault

/-- Skip blanks and look at the character that follows, if there is one. -/
def peek : Reader (Option Char) :=
  fun text =>
    let rest := text.dropWhile isBlank
    .ok (rest.head?, rest)

/-- Drop the next character. -/
def advance : Reader Unit :=
  fun text => .ok ((), text.tail)

/-- Skip blanks and look at the character that must follow. -/
def demand : Reader Char := do
  match ← peek with
  | none => fail .truncated
  | some c => pure c

/-- Skip blanks and read one given character. -/
def expect (mark : Char) : Reader Unit := do
  if (← demand) = mark then advance else fail .malformed

/-- Read the given characters one by one. -/
def word : List Char -> Reader Unit
  | [] => pure ()
  | c :: rest => fun text =>
      match text with
      | [] => .error .truncated
      | found :: following => if found = c then word rest following else .error .malformed

/-- After the start of a list or an element, tell whether another element follows. A comma
parts elements and must not end the list; the closing bracket is left in place. -/
def hasElement (isFirst : Bool) : Reader Bool := do
  match ← demand with
  | ']' => pure false
  | c =>
      if isFirst then pure true
      else if c = ',' then
        advance
        if (← demand) = ']' then fail .malformed else pure true
      else fail .malformed

/-- After the start of a record or a member, tell whether another member follows. The
quote that opens its name is consumed; the closing brace is left in place. -/
def hasMember (isFirst : Bool) : Reader Bool := do
  match ← demand with
  | '\x7d' => pure false
  | c =>
      if isFirst then
        if c = '"' then advance; pure true else fail .malformed
      else if c = ',' then
        advance
        if (← demand) = '"' then advance; pure true else fail .malformed
      else fail .malformed

/-- Read the end of a list. -/
def closeList : Reader Unit := do
  match ← demand with
  | ']' => advance
  | _ => fail .malformed

/-- An upper bound on the number of steps that each consume a character. -/
def fuel : Reader Nat :=
  fun text => .ok (text.length + 1, text)

end Reader
end Json
end TableTypes
