import TableTypes.Proofs.Script.QuotedReading

/-!
# Literals that close at their end

A quoted text is a whole literal: a reader that starts at its opening quote meets the
closing quote at the last character and not before, whatever follows, and has then read
the text. So different texts are quoted differently, and every key reads as its name.
-/

namespace TableTypes
namespace Script

/-- Read the literal that a text begins with, from its opening quote on: the text that is
meant, and what follows the closing quote. -/
def readLiteral : List Char -> Option (List Char × List Char)
  | '\'' :: rest => readQuoted rest
  | _ => none

/-! ## What follows a literal -/

/-- The text behind an opening quote that is closed reads alike when more follows. -/
theorem readQuoted_append
    {written text after : List Char}
    (closed : readQuoted written = some (text, after))
    (more : List Char) :
    readQuoted (written ++ more) = some (text, after ++ more) := by
  fun_induction readQuoted written generalizing text after with
  | case1 => cases closed
  | case2 rest =>
      cases closed
      rfl
  | case3 c rest inductionHypothesis =>
      obtain ⟨⟨read, behind⟩, closed, same⟩ := Option.map_eq_some_iff.mp closed
      cases same
      exact congrArg (Option.map _) (inductionHypothesis closed)
  | case4 => cases closed
  | case5 => cases closed
  | case6 => cases closed
  | case7 c rest notQuote notEscape notOpen notLineFeed notReturn inductionHypothesis =>
      obtain ⟨⟨read, behind⟩, closed, same⟩ := Option.map_eq_some_iff.mp closed
      cases same
      -- A backslash was read as an escape, or it stood at the end of an open literal.
      have notBackslash : c ≠ '\\' := by
        intro backslash
        cases rest with
        | nil => exact notOpen backslash rfl
        | cons next rest => exact notEscape next rest backslash rfl
      rw [List.cons_append,
        readQuoted_cons_plain notQuote notBackslash notLineFeed notReturn,
        inductionHypothesis closed]
      rfl

/-- A literal that is closed reads alike when more follows. -/
theorem readLiteral_append
    {written text after : List Char}
    (closed : readLiteral written = some (text, after))
    (more : List Char) :
    readLiteral (written ++ more) = some (text, after ++ more) := by
  unfold readLiteral at closed
  split at closed
  next rest => exact readQuoted_append closed more
  next => cases closed

/-! ## Quoted texts -/

/-- A quoted text reads as the text, and nothing that follows belongs to it. -/
theorem readLiteral_quoted_append (text : String) (after : List Char) :
    readLiteral ((quoted text).toList ++ after) = some (text.toList, after) := by
  rw [toList_quoted, List.cons_append, List.append_assoc]
  exact readQuoted_escaped_append text.toList after

theorem readLiteral_quoted (text : String) :
    readLiteral (quoted text).toList = some (text.toList, []) := by
  have read := readLiteral_quoted_append text []
  rwa [List.append_nil] at read

/-- A beginning of a quoted text is a closed literal only when it is the whole. -/
theorem isSome_readLiteral_take_quoted_iff (text : String) (length : Nat) :
    (readLiteral ((quoted text).toList.take length)).isSome = true ↔
      (quoted text).length ≤ length := by
  constructor
  · intro isClosed
    obtain ⟨⟨read, after⟩, closed⟩ := Option.isSome_iff_exists.mp isClosed
    -- What is missing would follow the closing quote, and nothing follows it.
    have whole := readLiteral_append closed ((quoted text).toList.drop length)
    rw [List.take_append_drop, readLiteral_quoted, Option.some.injEq, Prod.mk.injEq]
      at whole
    have nothingMissing := (List.append_eq_nil_iff.mp whole.2.symm).2
    rwa [List.drop_eq_nil_iff, String.length_toList] at nothingMissing
  · intro complete
    rw [← String.length_toList] at complete
    rw [List.take_of_length_le complete, readLiteral_quoted]
    rfl

/-- Texts that are quoted alike are the same text. -/
theorem quoted_injective : Function.Injective quoted := by
  intro first second same
  have firstRead := readLiteral_quoted first
  rw [same, readLiteral_quoted, Option.some.injEq, Prod.mk.injEq] at firstRead
  exact (String.toList_inj.mp firstRead.1).symm

/-- A quoted text contains no line end. Read as a literal it gives the text, and its
closing quote is its last character: nothing that follows is read with it, and a
beginning of it is closed only when it is the whole. No other text is quoted alike, and
a key reads as its name wherever no identifier character follows. -/
theorem quoted_closes_at_last_quote (text : String) :
    '\n' ∉ (quoted text).toList ∧
      '\r' ∉ (quoted text).toList ∧
      (∀ after, readLiteral ((quoted text).toList ++ after) = some (text.toList, after)) ∧
      (∀ length, (readLiteral ((quoted text).toList.take length)).isSome = true ↔
        (quoted text).length ≤ length) ∧
      (∀ other, quoted other = quoted text ↔ other = text) ∧
      ∀ after, after.head?.any continuesIdentifier = false ->
        readKey ((key text).toList ++ after) = some (text.toList, after) := by
  refine ⟨lineEnd_notMem_quoted (Or.inl rfl) text, lineEnd_notMem_quoted (Or.inr rfl) text,
    readLiteral_quoted_append text, isSome_readLiteral_take_quoted_iff text, ?_, ?_⟩
  · exact fun _ => quoted_injective.eq_iff
  · exact fun _ stops => readKey_key_append_of_stops text stops

/-- A line feed, a backslash in front of an `n` and a backslash in front of a quote are
written apart from one another, and the key reads as they stand. -/
theorem escaped_backslashes_read_back :
    let text := "\n\\n\\'"
    let after := [',']
    quoted text = "'\\n\\\\n\\\\\\''" ∧
      after.head?.any continuesIdentifier = false ∧
      readLiteral ((quoted text).toList ++ after) = some (text.toList, after) ∧
      readKey ((key text).toList ++ after) = some (text.toList, after) := by
  intro text after
  obtain ⟨_, _, read, _, _, keyRead⟩ := quoted_closes_at_last_quote text
  have stops : after.head?.any continuesIdentifier = false := by
    decide
  exact ⟨by decide, stops, read after, keyRead after stops⟩

end Script
end TableTypes
