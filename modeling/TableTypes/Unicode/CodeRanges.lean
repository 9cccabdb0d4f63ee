/-!
# Code point ranges

A character property is stored as its ranges of code points in ascending order, so that a
search ends at the first range above the code point it looks for. What a search finds lies
in one of the ranges, and in ascending ranges it finds all that does.
-/

namespace TableTypes
namespace Unicode

/-- Closed ranges of code points, disjoint and in ascending order. -/
abbrev CodeRanges :=
  List (Nat × Nat)

namespace CodeRanges

/-- A code point lies in one of the ranges. -/
def contains : CodeRanges -> Nat -> Bool
  | [], _ => false
  | (low, high) :: rest, code =>
      Nat.ble low code && (Nat.ble code high || contains rest code)

/-- A code point lies in one of the ranges, in whatever order they are. -/
def Has (ranges : CodeRanges) (code : Nat) : Prop :=
  ∃ range ∈ ranges, range.1 ≤ code ∧ code ≤ range.2

theorem has_cons (range : Nat × Nat) (ranges : CodeRanges) (code : Nat) :
    Has (range :: ranges) code ↔
      range.1 ≤ code ∧ code ≤ range.2 ∨ Has ranges code := by
  simp [Has]

theorem has_of_contains
    {ranges : CodeRanges}
    {code : Nat}
    (contained : ranges.contains code = true) :
    Has ranges code := by
  induction ranges with
  | nil => cases contained
  | cons range rest inductionHypothesis =>
      rw [contains, Bool.and_eq_true, Bool.or_eq_true, Nat.ble_eq, Nat.ble_eq] at contained
      obtain ⟨above, below | later⟩ := contained
      · exact (has_cons range rest code).mpr (Or.inl ⟨above, below⟩)
      · exact (has_cons range rest code).mpr (Or.inr (inductionHypothesis later))

/-! ## Order -/

/-- Ranges follow each other in ascending order. -/
def Ascending (ranges : CodeRanges) : Prop :=
  ranges.Pairwise fun first second => first.1 ≤ second.1

/-- Ascending ranges contain what lies in one of them. -/
theorem contains_of_mem
    {ranges : CodeRanges}
    (ascending : Ascending ranges)
    {range : Nat × Nat}
    (member : range ∈ ranges)
    {code : Nat}
    (above : range.1 ≤ code)
    (below : code ≤ range.2) :
    ranges.contains code = true := by
  induction ranges with
  | nil => cases member
  | cons first rest inductionHypothesis =>
      obtain ⟨ahead, restAscending⟩ := List.pairwise_cons.mp ascending
      rw [contains, Bool.and_eq_true, Bool.or_eq_true, Nat.ble_eq, Nat.ble_eq]
      rcases List.mem_cons.mp member with rfl | later
      · exact ⟨above, Or.inl below⟩
      · exact ⟨Nat.le_trans (ahead range later) above,
          Or.inr (inductionHypothesis restAscending later)⟩

/-- A code point below the first of ascending ranges is in none of them. -/
theorem Ascending.not_has
    {range : Nat × Nat}
    {ranges : CodeRanges}
    (ascending : Ascending (range :: ranges))
    {code : Nat}
    (below : code < range.1) :
    ¬Has (range :: ranges) code := by
  rintro ⟨other, member, above, _⟩
  rcases List.mem_cons.mp member with rfl | later
  · omega
  · have ahead := (List.pairwise_cons.mp ascending).1 other later
    omega

end CodeRanges
end Unicode
end TableTypes
