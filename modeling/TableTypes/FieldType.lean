/-!
# Field types

What a column holds, apart from the notation in which the type is written.
-/

namespace TableTypes

/-- A well-known form of text. -/
inductive TextFormat where
  | ipv4
  | mac
  deriving DecidableEq, Repr

namespace TextFormat

/-- The tag of a format. -/
def tag : TextFormat -> String
  | .ipv4 => "ipv4"
  | .mac => "mac"

end TextFormat

/-- Limits on a text. -/
structure TextLimits where
  minLength : Option UInt32 := none
  format : Option TextFormat := none
  deriving DecidableEq, Repr, Inhabited

namespace TextLimits

/-- No limit is set. -/
def isEmpty (limits : TextLimits) : Bool :=
  limits.minLength.isNone && limits.format.isNone

end TextLimits

/-- Limits on a number. -/
structure NumberLimits where
  /-- The least value allowed. -/
  minimum : Option Int64 := none
  deriving DecidableEq, Repr, Inhabited

namespace NumberLimits

/-- No limit is set. -/
def isEmpty (limits : NumberLimits) : Bool :=
  limits.minimum.isNone

end NumberLimits

/-- The type of a field. -/
inductive FieldType where
  | text (limits : TextLimits)
  | number (limits : NumberLimits)
  | boolean
  | date
  /-- One of the labels of an enum, given by its reported name. -/
  | enumRef (name : String)
  | any
  | array (element : FieldType)
  /-- A value that may be absent. -/
  | optional (inner : FieldType)
  deriving DecidableEq, Repr, Inhabited

namespace FieldType

/-- The value may be absent. -/
def isOptional : FieldType -> Bool
  | .optional _ => true
  | _ => false

/-- Let the value be absent. A type that allows this already stays as it is. -/
def toOptional (type : FieldType) : FieldType :=
  if type.isOptional then type else .optional type

@[simp] theorem isOptional_toOptional (type : FieldType) :
    type.toOptional.isOptional = true := by
  cases type <;> rfl

/-- Require the value to be present. -/
def toRequired : FieldType -> FieldType
  | .optional inner => inner
  | type => type

end FieldType
end TableTypes
