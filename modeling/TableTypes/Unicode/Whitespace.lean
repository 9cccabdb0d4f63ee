import TableTypes.Unicode.CodeRanges

/-!
# White space

The `White_Space` property and the removal of white space around a text.
-/

namespace TableTypes
namespace Unicode

/-- The code points with the `White_Space` property. -/
def whitespaceRanges : CodeRanges :=
  [
    (0x9, 0xD), (0x20, 0x20), (0x85, 0x85), (0xA0, 0xA0), (0x1680, 0x1680), (0x2000, 0x200A),
    (0x2028, 0x2029), (0x202F, 0x202F), (0x205F, 0x205F), (0x3000, 0x3000)
  ]

/-- The character is white space. -/
def isWhitespace (c : Char) : Bool :=
  whitespaceRanges.contains c.toNat

/-- Remove the white space before the first and after the last other character. -/
def trim (text : List Char) : List Char :=
  ((text.dropWhile isWhitespace).reverse.dropWhile isWhitespace).reverse

/-- White space around a text makes no difference to what remains of it. -/
theorem trim_append
    {before after : List Char}
    (blankBefore : before.all isWhitespace = true)
    (blankAfter : after.all isWhitespace = true)
    (text : List Char) :
    trim (before ++ text ++ after) = trim text := by
  rw [List.all_eq_true] at blankBefore blankAfter
  have blankReversed : ∀ c ∈ after.reverse, isWhitespace c = true :=
    fun c member => blankAfter c (List.mem_reverse.mp member)
  unfold trim
  rw [List.append_assoc, List.dropWhile_append_of_pos blankBefore,
    List.dropWhile_append]
  cases remaining : text.dropWhile isWhitespace with
  | nil =>
      have nothing : (after ++ []).dropWhile isWhitespace = [] :=
        List.dropWhile_append_of_pos blankAfter
      rw [List.append_nil] at nothing
      rw [nothing]
      rfl
  | cons c rest =>
      simp only [List.isEmpty_cons, Bool.false_eq_true, if_false]
      rw [List.reverse_append, List.dropWhile_append_of_pos blankReversed]

/-- A first character that is not white space remains the first. -/
theorem trim_cons
    {first : Char}
    (shown : isWhitespace first = false)
    (rest : List Char) :
    trim (first :: rest) = first :: (rest.reverse.dropWhile isWhitespace).reverse := by
  have stops : [first].dropWhile isWhitespace = [first] :=
    List.dropWhile_cons_of_neg (by simp [shown])
  unfold trim
  rw [List.dropWhile_cons_of_neg (by simp [shown]), List.reverse_cons,
    List.dropWhile_append, stops]
  cases rest.reverse.dropWhile isWhitespace with
  | nil => rfl
  | cons last others => exact List.reverse_append

/-- A text between two characters that are not white space is left as it is. -/
theorem trim_eq_self
    {first last : Char}
    (firstShown : isWhitespace first = false)
    (lastShown : isWhitespace last = false)
    (text : List Char) :
    trim (first :: text ++ [last]) = first :: text ++ [last] := by
  unfold trim
  rw [List.cons_append, List.dropWhile_cons_of_neg (by simp [firstShown]),
    ← List.cons_append, List.reverse_append, List.reverse_singleton,
    List.singleton_append, List.dropWhile_cons_of_neg (by simp [lastShown]),
    List.reverse_cons, List.reverse_reverse]

end Unicode
end TableTypes
