import TableTypes.Unicode.Numeric

/-!
# Names of the emitted script

Names that can stand without quotes, and the change of any name into one that can be
declared at the top of a module. A name that names a property stands in single quotes when
it is no identifier.
-/

namespace TableTypes
namespace Script

/-- An identifier may start with the character. -/
def startsIdentifier (c : Char) : Bool :=
  Unicode.isAlphabetic c || c = '_' || c = '$'

/-- An identifier may go on with the character. -/
def continuesIdentifier (c : Char) : Bool :=
  Unicode.isAlphanumeric c || c = '_' || c = '$'

/-- A text has the form of an identifier. Reserved words have it, for they may name
properties. -/
def spellsIdentifier : List Char -> Bool
  | [] => false
  | first :: rest => startsIdentifier first && rest.all continuesIdentifier

/-- A name has the form of an identifier. -/
def isIdentifier (name : String) : Bool :=
  spellsIdentifier name.toList

/-- Names that a module cannot declare: the words of the language, and the two names that
every unit imports. -/
def reservedWords : List String :=
  [
    "Static", "Type", "any", "arguments", "await", "bigint", "boolean", "break", "case", "catch",
    "class", "const", "continue", "debugger", "default", "delete", "do", "else", "enum", "eval",
    "export", "extends", "false", "finally", "for", "function", "if", "implements", "import", "in",
    "instanceof", "interface", "let", "never", "new", "null", "number", "object", "package",
    "private", "protected", "public", "return", "static", "string", "super", "switch", "symbol",
    "this", "throw", "true", "try", "typeof", "undefined", "unknown", "var", "void", "while",
    "with", "yield"
  ]

/-- Replace the characters that no identifier has by low lines, and put a low line in
front when the text could not start an identifier. -/
def repair (name : List Char) : List Char :=
  let replaced := name.map fun c =>
    if Unicode.isAlphanumeric c || c = '$' then c else '_'
  match replaced with
  | [] => ['_']
  | first :: rest =>
      if startsIdentifier first then first :: rest else '_' :: first :: rest

/-- The identifier under which a name is declared. A reserved name gets a low line at its
end. -/
def declaredName (name : String) : String :=
  if isIdentifier name then
    if name ∈ reservedWords then name ++ "_" else name
  else
    String.ofList (repair name.toList)

/-! ## Quoted text

Backslashes, quotes and line ends are escaped, so that a literal stays on one line and ends
at its last quote. -/

/-- The form of one character within quotes. -/
def escapeChar : Char -> List Char
  | '\\' => ['\\', '\\']
  | '\'' => ['\\', '\'']
  | '\n' => ['\\', 'n']
  | '\r' => ['\\', 'r']
  | c => [c]

/-- A text as a literal in single quotes. -/
def quoted (text : String) : String :=
  String.ofList ('\'' :: text.toList.flatMap escapeChar ++ ['\''])

/-- A name as the key of a property or a member: bare when it has the form of an
identifier. -/
def key (name : String) : String :=
  if isIdentifier name then name else quoted name

end Script
end TableTypes
