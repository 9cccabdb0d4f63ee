import TableTypes.Unicode.Whitespace

/-!
# Reported enum labels

Introspection reports an enum as one row for each label, or as a literal that lists the
labels: one text in braces, where commas part the labels, a label that holds separators
stands in double quotes, and within quotes a backslash takes the next character as it is.
-/

namespace TableTypes
namespace ArrayLiteral

/-- Put a character in front of the first label. -/
def extendFirst (c : Char) : List (List Char) -> List (List Char)
  | [] => [[c]]
  | label :: labels => (c :: label) :: labels

/-- Read labels from a position that is within quotes or not. A backslash at the end of an
unclosed quotation stands for nothing. -/
def readLabels : Bool -> List Char -> List (List Char)
  | _, [] => [[]]
  | quoted, '"' :: rest => readLabels (!quoted) rest
  | true, '\\' :: c :: rest => extendFirst c (readLabels true rest)
  | true, ['\\'] => [[]]
  | false, ',' :: rest => [] :: readLabels false rest
  | quoted, c :: rest => extendFirst c (readLabels quoted rest)

/-- The text between the braces, or the whole text when it is not in braces. -/
def body (literal : List Char) : List Char :=
  match literal with
  | '\x7b' :: rest =>
      if rest.getLast? = some '\x7d' then rest.dropLast else literal
  | _ => literal

/-- The labels of a literal, in order. -/
def labels (literal : String) : List String :=
  let inner := body (Unicode.trim literal.toList)
  if inner.isEmpty then []
  else (readLabels false inner).map String.ofList

end ArrayLiteral

/-- One label of an enum as reported. -/
structure EnumRow where
  enumName : String
  label : String
  deriving DecidableEq, Repr

namespace EnumRow

/-- The rows of a literal that lists the labels of an enum. -/
def ofLiteral (enumName literal : String) : List EnumRow :=
  (ArrayLiteral.labels literal).map fun label => ⟨enumName, label⟩

end EnumRow
end TableTypes
