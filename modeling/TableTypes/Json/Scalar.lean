import TableTypes.Json.Number
import TableTypes.Json.Text

/-!
# Readers of simple values

Texts, truth values, numbers of 32 bits, values that may be null, lists, and names out of
a fixed choice. A value of another type is read far enough to describe it.
-/

namespace TableTypes
namespace Json
namespace Reader

/-- End the reading at a value of another type than expected. -/
def refuse (expected : String) : Reader α := do
  let found : Found ←
    match ← demand with
    | 'n' => word ['n', 'u', 'l', 'l']; pure Found.null
    | 't' => word ['t', 'r', 'u', 'e']; pure (Found.boolean true)
    | 'f' => word ['f', 'a', 'l', 's', 'e']; pure (Found.boolean false)
    | '"' => advance; pure (Found.text (← textBody))
    | '[' => pure Found.list
    | '\x7b' => pure Found.record
    | c => if c = '-' || c.isDigit then pure (Found.number (← number)) else fail .malformed
  fail (.mismatch (.wrongType found expected))

/-- Read a text. -/
def text : Reader String := do
  if (← demand) = '"' then
    advance
    textBody
  else refuse "a string"

/-- Read a truth value. -/
def boolean : Reader Bool := do
  match ← demand with
  | 't' => word ['t', 'r', 'u', 'e']; pure true
  | 'f' => word ['f', 'a', 'l', 's', 'e']; pure false
  | _ => refuse "a boolean"

/-- Read null where only null can stand. -/
def unit : Reader Unit := do
  match ← demand with
  | 'n' => word ['n', 'u', 'l', 'l']
  | _ => refuse "unit"

/-- Read a natural number of 32 bits. -/
def uint32 : Reader UInt32 := do
  let c ← demand
  if c = '-' || c.isDigit then
    match ← number with
    | .integer value =>
        if 0 ≤ value && value.toNat < Nat.pow 2 32 then pure (UInt32.ofNat value.toNat)
        else fail (.mismatch (.outOfRange value "u32"))
    | float => fail (.mismatch (.wrongType (.number float) "u32"))
  else refuse "u32"

/-- Read null as nothing and any other value by the given reader. -/
def nullable (value : Reader α) : Reader (Option α) := do
  match ← peek with
  | some 'n' => word ['n', 'u', 'l', 'l']; pure none
  | _ => return some (← value)

/-- Read elements up to the end of a list. -/
def elements (value : Reader α) : Nat -> Bool -> Reader (List α)
  | 0, _ => fail .malformed
  | fuel + 1, isFirst => do
      if ← hasElement isFirst then
        let first ← value
        let others ← elements value fuel false
        pure (first :: others)
      else
        advance
        pure []

/-- Read a list. -/
def list (value : Reader α) : Reader (List α) := do
  if (← demand) = '[' then
    advance
    elements value (← fuel) true
  else refuse "a sequence"

/-- The value of a name in a choice. -/
def choose (choices : List (String × α)) (name : String) : Reader α :=
  match choices.lookup name with
  | some value => pure value
  | none => fail (.mismatch (.unknownVariant name (choices.map Prod.fst)))

/-- Read one name of a choice, as a text or as the name of the only member of a record. The
value of the member is null. -/
def variant (choices : List (String × α)) : Reader α := do
  match ← demand with
  | '"' =>
      advance
      choose choices (← textBody)
  | '\x7b' =>
      advance
      expect '"'
      let value ← choose choices (← textBody)
      expect ':'
      unit
      expect '\x7d'
      pure value
  | _ => fail .malformed

end Reader
end Json
end TableTypes
