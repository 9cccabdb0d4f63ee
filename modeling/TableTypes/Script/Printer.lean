import TableTypes.Script.Statement

/-!
# Printing of units

A unit is its imports, the enums and the objects, in the order given and parted by blank
lines. Every member and every field stands on a line of its own.
-/

namespace TableTypes
namespace Script

/-- The indentation of members and fields. -/
def indentation : String :=
  "    "

/-- The imports of every unit. -/
def header : String :=
  "import \x7b Type \x7d from '@sinclair/typebox'\n"
    ++ "import type \x7b Static \x7d from '@sinclair/typebox'\n"

namespace EnumMember

/-- The line of a member. -/
def print (member : EnumMember) : String :=
  match member.value with
  | none => indentation ++ key member.name ++ ",\n"
  | some label => indentation ++ key member.name ++ " = " ++ quoted label ++ ",\n"

end EnumMember

namespace ObjectField

/-- The line of a field. -/
def print (field : ObjectField) : String :=
  indentation ++ key field.name ++ ": " ++ field.type ++ ",\n"

end ObjectField

/-- Lines between braces; the braces stand together when there is no line. -/
def braced (lines : List String) : String :=
  if lines.isEmpty then "\x7b\x7d" else "\x7b\n" ++ String.join lines ++ "\x7d"

namespace EnumStatement

/-- The block of an enum. -/
def print (statement : EnumStatement) : String :=
  "export enum " ++ statement.name ++ " "
    ++ braced (statement.members.map EnumMember.print) ++ "\n"

end EnumStatement

namespace ObjectStatement

/-- The block of an object, followed by its static type. -/
def print (statement : ObjectStatement) : String :=
  "export const " ++ statement.name ++ " = Type.Object("
    ++ braced (statement.fields.map ObjectField.print) ++ ")\n"
    ++ "\n"
    ++ "export type " ++ statement.typeName ++ " = Static<typeof " ++ statement.name ++ ">\n"

end ObjectStatement

/-- The blocks of enums. -/
def enumBlocks (enums : List EnumDecl) : List String :=
  enums.map fun declaration => (EnumStatement.ofDecl declaration).print

/-- The blocks of tables. -/
def tableBlocks (casing : Casing) (tables : List TableDecl) : List String :=
  tables.map fun declaration => (ObjectStatement.ofDecl casing declaration).print

/-- The text of a unit. -/
def unitText
    (casing : Casing)
    (enums : List EnumDecl)
    (tables : List TableDecl) : String :=
  String.intercalate "\n" (header :: enumBlocks enums ++ tableBlocks casing tables)

end Script
end TableTypes
