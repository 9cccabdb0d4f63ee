import TableTypes.Json.Scalar
import TableTypes.Json.Skip

/-!
# Readers of records

A record is read from named members in any order, or from a list of its fields in their
order. Unknown members are skipped, and fields that are not required keep their starting
values.
-/

namespace TableTypes
namespace Json

/-- A field of a record under construction. -/
structure RecordField (ρ : Type) where
  name : String
  isRequired : Bool
  /-- Read the value of the field and put it into the record. -/
  read : Reader (ρ -> ρ)

namespace RecordField

/-- A field that must be given. -/
def required (name : String) (value : Reader α) (put : α -> ρ -> ρ) : RecordField ρ :=
  ⟨name, true, do return put (← value)⟩

/-- A field that keeps its starting value when it is not given. -/
def defaulted (name : String) (value : Reader α) (put : α -> ρ -> ρ) : RecordField ρ :=
  ⟨name, false, do return put (← value)⟩

end RecordField

namespace Reader

/-- Read fields from the elements of a list. Once the list has ended, only fields that are
not required may be left. -/
def positions
    (record : String)
    (size : Nat)
    (value : ρ) : Nat -> List (RecordField ρ) -> Reader ρ
  | _, [] => pure value
  | index, field :: rest => do
      if ← hasElement (index = 0) then
        let update ← field.read
        positions record size (update value) (index + 1) rest
      else if field.isRequired then
        fail (.mismatch (.wrongLength index record size))
      else
        positions record size value (index + 1) rest

/-- Read the members of a record and its end, given the names that were read before. -/
def members
    (fields : List (RecordField ρ))
    (seen : List String)
    (value : ρ) : Nat -> Bool -> Reader ρ
  | 0, _ => fail .malformed
  | fuel + 1, isFirst => do
      if ← hasMember isFirst then
        let name ← textBody
        match fields.find? fun field => field.name = name with
        | none =>
            expect ':'
            skipValue
            members fields seen value fuel false
        | some field =>
            if name ∈ seen then fail (.mismatch (.duplicateField name))
            else
              expect ':'
              let update ← field.read
              members fields (name :: seen) (update value) fuel false
      else
        match fields.find? fun field => field.isRequired && field.name ∉ seen with
        | some field => fail (.mismatch (.missingField field.name))
        | none =>
            advance
            pure value

/-- Read a record by its fields, starting from a value that holds the defaults. -/
def record (name : String) (fields : List (RecordField ρ)) (start : ρ) : Reader ρ := do
  match ← demand with
  | '[' =>
      advance
      let value ← positions name fields.length start 0 fields
      closeList
      pure value
  | '\x7b' =>
      advance
      members fields [] start (← fuel) true
  | _ => refuse ("struct " ++ name)

end Reader

/-- Read a whole document. Only blanks may follow its value. -/
def parse (value : Reader α) (document : String) : Except Fault α :=
  match value document.toList with
  | .error fault => .error fault
  | .ok (result, rest) =>
      if rest.all isBlank then .ok result else .error .malformed

end Json
end TableTypes
