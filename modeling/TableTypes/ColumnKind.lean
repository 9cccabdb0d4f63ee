import TableTypes.FieldType
import TableTypes.Unicode.Whitespace

/-!
# Kinds of columns

The type text of a column is reduced to its first word in lower case, and that token names
the kind of the column.
-/

namespace TableTypes

/-- What the type of a column amounts to. -/
inductive ColumnKind where
  /-- Text, and what is carried as text: decimals and unique identifiers. -/
  | text
  | temporal
  | numeric
  | boolean
  | json
  | array
  /-- A network address. -/
  | network (format : TextFormat)
  /-- A reference to an object of the database by its name. -/
  | reference
  /-- An enum. -/
  | enumeration
  deriving DecidableEq, Repr

namespace ColumnKind

/-- The kind of every known token. -/
def tokens : List (String × ColumnKind) :=
  [
    ("char", .text),
    ("character", .text),
    ("varchar", .text),
    ("text", .text),
    ("decimal", .text),
    ("numeric", .text),
    ("uuid", .text),
    ("bpchar", .text),
    ("citext", .text),
    ("date", .temporal),
    ("time", .temporal),
    ("year", .temporal),
    ("datetime", .temporal),
    ("timestamp", .temporal),
    ("timestamptz", .temporal),
    ("tinyint", .numeric),
    ("smallint", .numeric),
    ("mediumint", .numeric),
    ("int", .numeric),
    ("integer", .numeric),
    ("bigint", .numeric),
    ("float", .numeric),
    ("double", .numeric),
    ("real", .numeric),
    ("serial", .numeric),
    ("bigserial", .numeric),
    ("smallserial", .numeric),
    ("boolean", .boolean),
    ("bool", .boolean),
    ("json", .json),
    ("jsonb", .json),
    ("array", .array),
    ("inet", .network .ipv4),
    ("macaddr", .network .mac),
    ("regclass", .reference),
    ("regproc", .reference),
    ("regtype", .reference),
    ("user-defined", .enumeration),
    ("enum", .enumeration)
  ]

/-- The kind that a token names. -/
def ofToken? (token : String) : Option ColumnKind :=
  tokens.lookup token

/-- The token of a type text: what stands before the first parenthesis or white space,
once the white space around the text is removed, with ASCII letters in lower case. -/
def typeToken (typeText : String) : String :=
  let head := (Unicode.trim typeText.toList).takeWhile fun c =>
    c ≠ '(' && !Unicode.isWhitespace c
  (String.ofList head).toLower

end ColumnKind
end TableTypes
