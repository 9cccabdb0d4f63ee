import Mathlib.Data.List.Basic
import TableTypes.Enum.Row

/-!
# Reading array literals

A literal has no labels only when there is nothing between its braces. The database
prints a label within braces either between double quotes, with a backslash before each
quote and backslash, or bare when no character of it needs the quotes. Reading a literal
gives back the labels that were printed, whichever form each of them has.
-/

namespace TableTypes
namespace ArrayLiteral

/-! ## Literals without labels -/

/-- There is nothing between the braces of a text that is empty or consists of two
braces. -/
theorem body_eq_nil_iff (literal : List Char) :
    body literal = [] ↔ literal = [] ∨ literal = ['\x7b', '\x7d'] := by
  unfold body
  split
  · rename_i rest
    split
    · rename_i closed
      have whole := List.dropLast_append_getLast? _ closed
      constructor
      · intro nothing
        rw [nothing, List.nil_append] at whole
        exact .inr (congrArg _ whole.symm)
      · rintro (empty | braces)
        · cases empty
        · rw [(List.cons.inj braces).2]
          rfl
    · rename_i unclosed
      simp only [List.cons_ne_nil, false_or, false_iff, List.cons.injEq,
        true_and]
      rintro rfl
      exact unclosed rfl
  · rename_i notOpened
    refine ⟨.inl, ?_⟩
    rintro (empty | braces)
    · exact empty
    · exact absurd braces (notOpened _)

/-- There is a first label once a character stands in front of it. -/
theorem extendFirst_ne_nil (c : Char) (labels : List (List Char)) :
    extendFirst c labels ≠ [] := by
  cases labels <;> exact List.cons_ne_nil _ _

/-- From any position at least one label is read. -/
theorem readLabels_ne_nil (quoted : Bool) (literal : List Char) :
    readLabels quoted literal ≠ [] := by
  fun_induction readLabels quoted literal with
  | case2 _ _ inductionHypothesis => exact inductionHypothesis
  | case1 | case4 | case5 => exact List.cons_ne_nil _ _
  | case3 | case6 => exact extendFirst_ne_nil _ _

/-- A literal has no labels exactly when it is blank or an empty pair of braces,
with white space around it or not. -/
theorem labels_eq_nil_iff (literal : String) :
    labels literal = [] ↔
      Unicode.trim literal.toList = [] ∨
        Unicode.trim literal.toList = ['\x7b', '\x7d'] := by
  rw [← body_eq_nil_iff, labels]
  cases inner : body (Unicode.trim literal.toList) with
  | nil => simp
  | cons c rest =>
      simp only [List.isEmpty_cons, Bool.false_eq_true, if_false,
        List.map_eq_nil_iff, reduceCtorEq, iff_false]
      exact readLabels_ne_nil false (c :: rest)

/-! ## Printed labels -/

/-- A label with this character is printed between quotes. -/
def needsQuotes (c : Char) : Bool :=
  c ∈ ['"', ',', '\\', '\x7b', '\x7d'] || Unicode.isWhitespace c

/-- A label may be printed as it stands. -/
def canBeBare (label : String) : Bool :=
  !label.toList.isEmpty && label.toList.all fun c => !needsQuotes c

/-- A label in one of the forms in which it is printed. -/
inductive PrintedLabel where
  | quoted (text : String)
  | bare (text : String) (allowed : canBeBare text = true)

/-- The form of one character between quotes. -/
def escape : Char -> List Char
  | '"' => ['\\', '"']
  | '\\' => ['\\', '\\']
  | c => [c]

namespace PrintedLabel

/-- The label that is printed. -/
def text : PrintedLabel -> String
  | .quoted text => text
  | .bare text _ => text

/-- The characters of a printed label. -/
def chars : PrintedLabel -> List Char
  | .quoted text => '"' :: text.toList.flatMap escape ++ ['"']
  | .bare text _ => text.toList

/-- Printed labels with commas between them. -/
def listChars (labels : List PrintedLabel) : List Char :=
  [','].intercalate (labels.map chars)

end PrintedLabel

/-- The literal of printed labels. -/
def print (labels : List PrintedLabel) : List Char :=
  '\x7b' :: PrintedLabel.listChars labels ++ ['\x7d']

/-! ## Reading one label -/

/-- Characters in front of a first label become part of it. -/
theorem foldr_extendFirst (text label : List Char) (labels : List (List Char)) :
    text.foldr extendFirst (label :: labels) = (text ++ label) :: labels := by
  induction text with
  | nil => rfl
  | cons c text inductionHypothesis =>
      rw [List.foldr_cons, inductionHypothesis]
      rfl

/-- Between quotes the form of a character reads as this character. -/
theorem readLabels_escape_append (c : Char) (rest : List Char) :
    readLabels true (escape c ++ rest) =
      extendFirst c (readLabels true rest) := by
  unfold escape
  split
  next => rfl
  next => rfl
  next notQuote notBackslash =>
    rw [List.singleton_append, readLabels] <;> simp_all

/-- What stands between quotes reads as the text that was meant, and the reading goes
on behind the closing quote. -/
theorem readLabels_escaped_append (text rest : List Char) :
    readLabels true (text.flatMap escape ++ '"' :: rest) =
      text.foldr extendFirst (readLabels false rest) := by
  induction text with
  | nil => rfl
  | cons c text inductionHypothesis =>
      rw [List.flatMap_cons, List.append_assoc, readLabels_escape_append,
        inductionHypothesis]
      rfl

/-- Without quotes, characters other than quotes and commas read as they stand. -/
theorem readLabels_plain_append
    {text : List Char}
    (plain : ∀ c ∈ text, c ≠ '"' ∧ c ≠ ',')
    (rest : List Char) :
    readLabels false (text ++ rest) =
      text.foldr extendFirst (readLabels false rest) := by
  induction text with
  | nil => rfl
  | cons c text inductionHypothesis =>
      obtain ⟨⟨notQuote, notComma⟩, textPlain⟩ := List.forall_mem_cons.mp plain
      rw [List.cons_append, readLabels, inductionHypothesis textPlain]
      · rfl
      all_goals simp_all

/-- A bare label holds neither quotes nor commas. -/
theorem plain_of_canBeBare
    {label : String}
    (allowed : canBeBare label = true) :
    ∀ c ∈ label.toList, c ≠ '"' ∧ c ≠ ',' := by
  intro c member
  have unquoted := List.all_eq_true.mp (Bool.and_eq_true_iff.mp allowed).2 c member
  constructor <;> rintro rfl <;> exact absurd unquoted (by decide)

namespace PrintedLabel

/-- A printed label reads as the label. -/
theorem readLabels_chars_append (label : PrintedLabel) (rest : List Char) :
    readLabels false (label.chars ++ rest) =
      label.text.toList.foldr extendFirst (readLabels false rest) := by
  cases label with
  | quoted text =>
      rw [chars, List.append_assoc]
      exact readLabels_escaped_append text.toList rest
  | bare text allowed =>
      exact readLabels_plain_append (plain_of_canBeBare allowed) rest

/-- No label is printed as nothing: a bare one has a character, and a quoted one has
its quotes. -/
theorem chars_ne_nil (label : PrintedLabel) : label.chars ≠ [] := by
  cases label with
  | quoted text => exact List.cons_ne_nil _ _
  | bare text allowed =>
      intro empty
      rw [chars] at empty
      rw [canBeBare, empty] at allowed
      exact absurd allowed (by decide)

/-! ## Reading a literal -/

theorem listChars_singleton (label : PrintedLabel) :
    listChars [label] = label.chars :=
  List.intercalate_singleton

theorem listChars_cons_cons (label next : PrintedLabel) (labels : List PrintedLabel) :
    listChars (label :: next :: labels) =
      label.chars ++ ',' :: listChars (next :: labels) := by
  simp [listChars]

/-- Printed labels are not printed as nothing, even when all of them are empty. -/
theorem listChars_cons_ne_nil (label : PrintedLabel) (labels : List PrintedLabel) :
    listChars (label :: labels) ≠ [] := by
  cases labels with
  | nil =>
      rw [listChars_singleton]
      exact label.chars_ne_nil
  | cons next labels =>
      rw [listChars_cons_cons]
      exact List.append_ne_nil_of_right_ne_nil _ (List.cons_ne_nil _ _)

/-- Printed labels read as the labels. -/
theorem readLabels_listChars (label : PrintedLabel) (labels : List PrintedLabel) :
    readLabels false (listChars (label :: labels)) =
      (label :: labels).map fun printed => printed.text.toList := by
  induction labels generalizing label with
  | nil =>
      have last := label.readLabels_chars_append []
      rw [List.append_nil] at last
      rw [listChars_singleton, last, readLabels, foldr_extendFirst, List.append_nil]
      rfl
  | cons next labels inductionHypothesis =>
      rw [listChars_cons_cons, readLabels_chars_append, readLabels,
        inductionHypothesis, foldr_extendFirst, List.append_nil]
      rfl

end PrintedLabel

/-- What stands within braces is found by the braces, whatever braces it holds. -/
theorem body_braced (inner : List Char) :
    body ('\x7b' :: inner ++ ['\x7d']) = inner := by
  simp [body]

/-- White space around a printed literal is no part of it. -/
theorem trim_print
    {before after : List Char}
    (blankBefore : before.all Unicode.isWhitespace = true)
    (blankAfter : after.all Unicode.isWhitespace = true)
    (labels : List PrintedLabel) :
    Unicode.trim (before ++ print labels ++ after) = print labels := by
  rw [Unicode.trim_append blankBefore blankAfter]
  exact Unicode.trim_eq_self (by decide) (by decide) _

/-- A printed literal has the labels that were printed. -/
theorem labels_print
    {before after : List Char}
    (blankBefore : before.all Unicode.isWhitespace = true)
    (blankAfter : after.all Unicode.isWhitespace = true)
    (printed : List PrintedLabel) :
    labels (String.ofList (before ++ print printed ++ after)) =
      printed.map PrintedLabel.text := by
  unfold labels
  rw [String.toList_ofList, trim_print blankBefore blankAfter, print, body_braced]
  cases printed with
  | nil => rfl
  | cons label printed =>
      rw [if_neg, PrintedLabel.readLabels_listChars, List.map_map]
      · simp [Function.comp_def]
      · rw [List.isEmpty_iff]
        exact label.listChars_cons_ne_nil printed

end ArrayLiteral

namespace EnumRow

/-- A literal that the database printed for an enum, with white space around it or
not, is read as one row for each of its labels, in order. -/
theorem ofLiteral_print
    (enumName : String)
    (printed : List ArrayLiteral.PrintedLabel)
    (before after : List Char)
    (blankBefore : before.all Unicode.isWhitespace = true)
    (blankAfter : after.all Unicode.isWhitespace = true) :
    ofLiteral enumName
        (String.ofList (before ++ ArrayLiteral.print printed ++ after)) =
      printed.map fun label => ⟨enumName, label.text⟩ := by
  rw [ofLiteral, ArrayLiteral.labels_print blankBefore blankAfter, List.map_map]
  rfl

/-- Labels that are empty, hold separators and braces, or look like braces of the
literal are read as they were printed. -/
theorem ofLiteral_print_separators :
    let printed : List ArrayLiteral.PrintedLabel := [
      .quoted "", .bare "done" (by decide), .quoted "a,\"b\\\x7d", .quoted " \x7b"
    ]
    ArrayLiteral.print printed = "\x7b\"\",done,\"a,\\\"b\\\\\x7d\",\" \x7b\"\x7d".toList ∧
      ofLiteral "state"
          (String.ofList ([' ', '\n'] ++ ArrayLiteral.print printed ++ ['\t'])) =
        [⟨"state", ""⟩, ⟨"state", "done"⟩, ⟨"state", "a,\"b\\\x7d"⟩,
          ⟨"state", " \x7b"⟩] := by
  intro printed
  refine ⟨by decide +kernel, ?_⟩
  exact ofLiteral_print "state" printed [' ', '\n'] ['\t'] (by decide) (by decide)

end EnumRow
end TableTypes
