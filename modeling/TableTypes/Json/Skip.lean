import TableTypes.Json.Number
import TableTypes.Json.Text

/-!
# Skipped values

The value of an unknown member is passed over. It has to follow the grammar, but its
numbers may be of any size and its texts may hold unpaired surrogates.
-/

namespace TableTypes
namespace Json
namespace Reader

mutual

/-- Skip one value. Every step consumes a character, so as many steps as characters are
enough. -/
def skipSteps : Nat -> Reader Unit
  | 0 => fail .malformed
  | fuel + 1 => do
      match ← demand with
      | 'n' => word ['n', 'u', 'l', 'l']
      | 't' => word ['t', 'r', 'u', 'e']
      | 'f' => word ['f', 'a', 'l', 's', 'e']
      | '"' => advance; skipTextBody
      | '[' => advance; skipElements fuel true
      | '\x7b' => advance; skipMembers fuel true
      | c => if c = '-' || c.isDigit then skipNumber else fail .malformed

/-- Skip the elements of a list and its end. -/
def skipElements : Nat -> Bool -> Reader Unit
  | 0, _ => fail .malformed
  | fuel + 1, isFirst => do
      if ← hasElement isFirst then
        skipSteps fuel
        skipElements fuel false
      else advance

/-- Skip the members of a record and its end. -/
def skipMembers : Nat -> Bool -> Reader Unit
  | 0, _ => fail .malformed
  | fuel + 1, isFirst => do
      if ← hasMember isFirst then
        skipTextBody
        expect ':'
        skipSteps fuel
        skipMembers fuel false
      else advance

end

/-- Skip one value. -/
def skipValue : Reader Unit := do
  skipSteps (2 * (← fuel))

end Reader
end Json
end TableTypes
