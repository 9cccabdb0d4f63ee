import TableTypes.Proofs.Script.Identifier

/-!
# Reading quoted text and keys

A reader of the script knows a quoted literal by its quotes and its escapes
alone. It finds the end of what was quoted and the text that was meant, and it
never crosses a line end.
-/

namespace TableTypes
namespace Script

/-- The character that an escape stands for. -/
def unescape : Char -> Char
  | 'n' => '\n'
  | 'r' => '\r'
  | c => c

/-- Read a literal after its opening quote: the text that is meant, and what
follows the closing quote. A line end within a literal is refused. -/
def readQuoted : List Char -> Option (List Char × List Char)
  | [] => none
  | '\'' :: rest => some ([], rest)
  | '\\' :: c :: rest =>
      (readQuoted rest).map fun (text, after) => (unescape c :: text, after)
  | ['\\'] => none
  | '\n' :: _ => none
  | '\r' :: _ => none
  | c :: rest => (readQuoted rest).map fun (text, after) => (c :: text, after)

/-- A character that has no escape is read as it stands. -/
theorem readQuoted_cons_plain
    {c : Char}
    (notQuote : c ≠ '\'')
    (notBackslash : c ≠ '\\')
    (notLineFeed : c ≠ '\n')
    (notReturn : c ≠ '\r')
    (rest : List Char) :
    readQuoted (c :: rest) =
      (readQuoted rest).map fun (text, after) => (c :: text, after) := by
  rw [readQuoted] <;> simp_all

/-- The written form of a character reads as this character. -/
theorem readQuoted_escapeChar_append (c : Char) (rest : List Char) :
    readQuoted (escapeChar c ++ rest) =
      (readQuoted rest).map fun (text, after) => (c :: text, after) := by
  unfold escapeChar
  split
  next => rfl
  next => rfl
  next => rfl
  next => rfl
  next notBackslash notQuote notLineFeed notReturn =>
    exact readQuoted_cons_plain notQuote notBackslash notLineFeed notReturn rest

/-- The written form of a text reads as this text, and ends at the closing
quote. -/
theorem readQuoted_escaped_append (text rest : List Char) :
    readQuoted (text.flatMap escapeChar ++ '\'' :: rest) =
      some (text, rest) := by
  induction text with
  | nil => rfl
  | cons c text inductionHypothesis =>
      rw [List.flatMap_cons, List.append_assoc, readQuoted_escapeChar_append,
        inductionHypothesis]
      rfl

/-- The characters of a quoted literal. -/
theorem toList_quoted (text : String) :
    (quoted text).toList =
      '\'' :: (text.toList.flatMap escapeChar ++ ['\'']) := by
  rw [quoted, String.toList_ofList]
  rfl

/-- No escape contains a line end. -/
theorem lineEnd_notMem_escapeChar
    {lineEnd : Char}
    (ends : lineEnd = '\n' ∨ lineEnd = '\r')
    (c : Char) :
    lineEnd ∉ escapeChar c := by
  have notEscape : lineEnd ∉ ['\\', '\'', 'n', 'r'] := by
    rcases ends with rfl | rfl <;> decide
  simp only [List.mem_cons, List.not_mem_nil, or_false, not_or] at notEscape
  unfold escapeChar
  split
  next => simp [notEscape]
  next => simp [notEscape]
  next => simp [notEscape]
  next => simp [notEscape]
  next _ _ notLineFeed notReturn =>
    rw [List.mem_singleton]
    rintro rfl
    exact ends.elim notLineFeed notReturn

/-- A quoted literal contains no line end. -/
theorem lineEnd_notMem_quoted
    {lineEnd : Char}
    (ends : lineEnd = '\n' ∨ lineEnd = '\r')
    (text : String) :
    lineEnd ∉ (quoted text).toList := by
  have notQuote : lineEnd ≠ '\'' := by
    rcases ends with rfl | rfl <;> decide
  rw [toList_quoted]
  simp [List.mem_flatMap, lineEnd_notMem_escapeChar ends, notQuote]

/-- A quoted literal stands on one line. -/
theorem lineFeed_notMem_quoted (text : String) :
    '\n' ∉ (quoted text).toList :=
  lineEnd_notMem_quoted (Or.inl rfl) text

/-! ## Keys -/

/-- Read a key: a literal, or the identifier characters that the text begins
with. -/
def readKey : List Char -> Option (List Char × List Char)
  | '\'' :: rest => readQuoted rest
  | text =>
      some (text.takeWhile continuesIdentifier,
        text.dropWhile continuesIdentifier)

/-- An identifier is read up to its end when it does not go on. -/
theorem readKey_identifier_append
    {text rest : List Char}
    (spells : spellsIdentifier text = true)
    (stops : rest.head?.any continuesIdentifier = false) :
    readKey (text ++ rest) = some (text, rest) := by
  have continues := continuesIdentifier_of_mem spells
  -- A bare key cannot be taken for a literal: no identifier starts with a quote.
  have notQuoted : ∀ other, text ++ rest = '\'' :: other -> False := by
    intro other equal
    cases text with
    | nil => cases spells
    | cons first tail =>
        rw [List.cons_append, List.cons.injEq] at equal
        have quoteContinues := continues first List.mem_cons_self
        rw [equal.1] at quoteContinues
        exact absurd quoteContinues (by decide)
  rw [readKey, takeWhile_continuesIdentifier continues stops,
    dropWhile_continuesIdentifier continues stops]
  exact notQuoted

/-- A key reads as the name it stands for, whether it is bare or quoted, when no
identifier character follows it. -/
theorem readKey_key_append_of_stops
    (name : String)
    {rest : List Char}
    (stops : rest.head?.any continuesIdentifier = false) :
    readKey ((key name).toList ++ rest) = some (name.toList, rest) := by
  unfold key
  by_cases bare : isIdentifier name = true
  · rw [if_pos bare]
    exact readKey_identifier_append bare stops
  · rw [if_neg bare, toList_quoted, List.cons_append, List.append_assoc]
    exact readQuoted_escaped_append name.toList rest

/-- A key in front of a delimiter reads as the name it stands for. -/
theorem readKey_key_append
    (name : String)
    (delimiter : Char)
    (stops : delimiter ∈ delimiters)
    (rest : List Char) :
    readKey ((key name).toList ++ delimiter :: rest) =
      some (name.toList, delimiter :: rest) :=
  readKey_key_append_of_stops name (continuesIdentifier_delimiter delimiter stops)

/-- An identifier stands on one line. -/
theorem lineFeed_notMem_identifier
    {name : String}
    (identifier : isIdentifier name = true) :
    '\n' ∉ name.toList := by
  intro member
  have continues := continuesIdentifier_of_mem identifier '\n' member
  exact absurd continues (by decide)

/-- A key stands on one line. -/
theorem lineFeed_notMem_key (name : String) : '\n' ∉ (key name).toList := by
  unfold key
  split
  next bare => exact lineFeed_notMem_identifier bare
  next => exact lineFeed_notMem_quoted name

end Script
end TableTypes
