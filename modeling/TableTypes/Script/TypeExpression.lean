import TableTypes.Casing
import TableTypes.FieldType
import TableTypes.Script.Identifier

/-!
# Type expressions

A field type is written as a call of a TypeBox builder. Limits are given as an object of
options, and an enum is named by the identifier under which it is declared.
-/

namespace TableTypes
namespace Script

/-- An integer in decimal digits. -/
def decimal : Int -> String
  | .ofNat value => Nat.repr value
  | .negSucc value => "-" ++ Nat.repr (value + 1)

/-- The options of a builder: nothing, or an object that lists them. -/
def optionObject (options : List String) : String :=
  if options.isEmpty then ""
  else "\x7b " ++ String.intercalate ", " options ++ " \x7d"

/-- The options of a text, the least length before the format. -/
def textOptions (limits : TextLimits) : List String :=
  (limits.minLength.map fun length => "minLength: " ++ Nat.repr length.toNat).toList
    ++ (limits.format.map fun format => "format: " ++ quoted format.tag).toList

/-- The options of a number. -/
def numberOptions (limits : NumberLimits) : List String :=
  (limits.minimum.map fun minimum => "minimum: " ++ decimal minimum.toInt).toList

/-- The identifier that stands for an enum in a unit. -/
def enumIdentifier (casing : Casing) (name : String) : String :=
  declaredName (casing.apply name)

/-- A call of a builder. -/
def builder (name argument : String) : String :=
  "Type." ++ name ++ "(" ++ argument ++ ")"

/-- The expression of a field type. -/
def typeExpression (casing : Casing) : FieldType -> String
  | .text limits => builder "String" (optionObject (textOptions limits))
  | .number limits => builder "Number" (optionObject (numberOptions limits))
  | .boolean => builder "Boolean" ""
  | .date => builder "Date" ""
  | .enumRef name => builder "Enum" (enumIdentifier casing name)
  | .any => builder "Any" ""
  | .array element => builder "Array" (typeExpression casing element)
  | .optional inner => builder "Optional" (typeExpression casing inner)

end Script
end TableTypes
