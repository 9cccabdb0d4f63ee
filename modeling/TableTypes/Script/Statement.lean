import TableTypes.Declaration
import TableTypes.Script.TypeExpression
import TableTypes.Unicode.Whitespace

/-!
# Statements of a unit

What a unit declares, with names decided and notation left to the printer. Members of an
enum carry their labels as values once any label reads as a number, because such a label
has to be renamed.
-/

namespace TableTypes
namespace Script

/-! ## Numeric names

A name that reads as a number cannot name a member of an enum. It is a decimal with an
optional sign and exponent, or one of the words for infinity and for no number, with white
space around it ignored.
-/

/-- Drop one sign at the start. -/
def dropSign : List Char -> List Char
  | '+' :: rest => rest
  | '-' :: rest => rest
  | text => text

/-- A text is empty or an exponent with at least one digit. -/
def isExponentOrEmpty : List Char -> Bool
  | [] => true
  | mark :: rest =>
      let digits := dropSign rest
      (mark = 'e' || mark = 'E') && !digits.isEmpty && digits.all Char.isDigit

/-- A text is a decimal without sign. There is a digit before or after the point. -/
def isUnsignedDecimal (text : List Char) : Bool :=
  let afterWhole := text.dropWhile Char.isDigit
  match afterWhole with
  | '.' :: rest =>
      let hasDigit := text.head?.any Char.isDigit || rest.head?.any Char.isDigit
      hasDigit && isExponentOrEmpty (rest.dropWhile Char.isDigit)
  | rest => text.head?.any Char.isDigit && isExponentOrEmpty rest

/-- A text is a word for a value that has no digits, in any case. -/
def isNumericWord (text : List Char) : Bool :=
  ["inf", "infinity", "nan"].any fun word => text.map Char.toLower = word.toList

/-- A name reads as a number. -/
def readsAsNumber (name : String) : Bool :=
  let text := dropSign (Unicode.trim name.toList)
  isNumericWord text || isUnsignedDecimal text

/-! ## Statements -/

/-- A member of an enum, with its value when the value is written. -/
structure EnumMember where
  name : String
  value : Option String
  deriving DecidableEq, Repr

/-- The declaration of an enum. -/
structure EnumStatement where
  name : String
  members : List EnumMember
  deriving DecidableEq, Repr

/-- A field of an object, with the expression of its type. -/
structure ObjectField where
  name : String
  type : String
  deriving DecidableEq, Repr

/-- The declaration of an object and of its static type. -/
structure ObjectStatement where
  name : String
  typeName : String
  fields : List ObjectField
  deriving DecidableEq, Repr

namespace EnumMember

/-- The member of a label whose value is the label itself. -/
def plain (label : String) : EnumMember :=
  ⟨label, none⟩

/-- The member of a label with its value written. A numeric label gets a name that is
none. -/
def valued (label : String) : EnumMember :=
  ⟨if readsAsNumber label then declaredName ("_" ++ label) else label, some label⟩

end EnumMember

namespace EnumStatement

/-- The statement of an enum declaration. -/
def ofDecl (declaration : EnumDecl) : EnumStatement where
  name := declaredName declaration.emittedName
  members :=
    if declaration.labels.any readsAsNumber then
      declaration.labels.map EnumMember.valued
    else
      declaration.labels.map EnumMember.plain

end EnumStatement

namespace ObjectStatement

/-- The statement of a table declaration. -/
def ofDecl (casing : Casing) (declaration : TableDecl) : ObjectStatement where
  name := declaredName declaration.emittedName
  typeName := declaredName declaration.typeName
  fields := declaration.fields.map fun field =>
    ⟨field.emittedName, typeExpression casing field.type⟩

end ObjectStatement
end Script
end TableTypes
