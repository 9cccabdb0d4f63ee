import Mathlib.Data.List.Chain
import Mathlib.Tactic.SplitIfs
import TableTypes.Unicode.CodeRanges

/-!
# Comparison of code point ranges

Character classes are compared range by range and not character by character: what some
ranges cover, what is left of them when others are taken away, and that two lists of
ranges are apart.
-/

namespace TableTypes
namespace Unicode
namespace CodeRanges

/-- Ranges ascend when each begins no lower than the one before it. -/
theorem ascending_of_isChain
    {ranges : CodeRanges}
    (chain : ranges.IsChain fun first second => first.1 ≤ second.1) :
    ranges.Ascending := by
  have ascends : (ranges.map Prod.fst).IsChain (· ≤ ·) :=
    (List.isChain_map Prod.fst).mpr chain
  exact List.pairwise_map.mp (List.isChain_iff_pairwise.mp ascends)

/-! ## Covered codes -/

/-- One of the ranges covers all codes from the first to the last. -/
def covers : CodeRanges -> Nat -> Nat -> Bool
  | [], _, _ => false
  | (low, high) :: rest, first, last =>
      Nat.ble low first && (Nat.ble last high || covers rest first last)

theorem exists_range_of_covers
    {ranges : CodeRanges}
    {first last : Nat}
    (covered : ranges.covers first last = true) :
    ∃ range ∈ ranges, range.1 ≤ first ∧ last ≤ range.2 := by
  induction ranges with
  | nil => cases covered
  | cons range rest inductionHypothesis =>
      rw [covers, Bool.and_eq_true, Bool.or_eq_true, Nat.ble_eq, Nat.ble_eq] at covered
      obtain ⟨above, below | later⟩ := covered
      · exact ⟨range, List.mem_cons_self, above, below⟩
      · obtain ⟨other, member, bounds⟩ := inductionHypothesis later
        exact ⟨other, List.mem_cons_of_mem range member, bounds⟩

/-- The same, with the search begun at one of some places. A search fails at once at a
place behind the codes, so the last place comes first. -/
def coversFrom (starts : List Nat) (ranges : CodeRanges) (first last : Nat) : Bool :=
  starts.any fun start => covers (ranges.drop start) first last

theorem exists_range_of_coversFrom
    {starts : List Nat}
    {ranges : CodeRanges}
    {first last : Nat}
    (covered : coversFrom starts ranges first last = true) :
    ∃ range ∈ ranges, range.1 ≤ first ∧ last ≤ range.2 := by
  obtain ⟨start, _, found⟩ := List.any_eq_true.mp covered
  obtain ⟨range, member, bounds⟩ := exists_range_of_covers found
  exact ⟨range, List.mem_of_mem_drop member, bounds⟩

/-! ## Differences -/

/-- What is left of some ranges when others are taken away, in a number of steps. -/
def without : Nat -> CodeRanges -> CodeRanges -> CodeRanges
  | 0, ranges, _ => ranges
  | _ + 1, [], _ => []
  | _ + 1, ranges, [] => ranges
  | steps + 1, (low, high) :: ranges, (first, last) :: removed =>
      if high < first then (low, high) :: without steps ranges ((first, last) :: removed)
      else if last < low then without steps ((low, high) :: ranges) removed
      else if low < first then
        (low, first - 1) :: without steps ((first, high) :: ranges) ((first, last) :: removed)
      else if last < high then without steps ((last + 1, high) :: ranges) removed
      else without steps ranges ((first, last) :: removed)

/-- A code point in some ranges is taken away with others or left. -/
theorem has_removed_or_has_without
    (steps : Nat)
    {ranges : CodeRanges}
    (removed : CodeRanges)
    {code : Nat}
    (inRanges : Has ranges code) :
    Has removed code ∨ Has (without steps ranges removed) code := by
  induction steps generalizing ranges removed with
  | zero => exact Or.inr inRanges
  | succ steps inductionHypothesis =>
      match ranges, removed with
      | [], _ => exact Or.inr inRanges
      | _ :: _, [] => exact Or.inr inRanges
      | (low, high) :: ranges, (first, last) :: removed =>
          have inFirst := (has_cons (low, high) ranges code).mp inRanges
          rw [without]
          split_ifs with before behind front back
          · -- The first range ends before the removed one and is left.
            rw [has_cons (low, high)]
            rcases inFirst with here | later
            · exact Or.inr (Or.inl here)
            · exact (inductionHypothesis _ later).imp_right Or.inr
          · -- The removed range lies in front of all others.
            rw [has_cons]
            exact (inductionHypothesis removed inRanges).imp_left Or.inr
          · -- The part of the first range in front of the removed one is left.
            rw [has_cons (low, first - 1)]
            have split : low ≤ code ∧ code ≤ first - 1 ∨
                Has ((first, high) :: ranges) code := by
              rw [has_cons]
              grind
            rcases split with here | inOthers
            · exact Or.inr (Or.inl here)
            · exact (inductionHypothesis _ inOthers).imp_right Or.inr
          · -- The part of the first range behind the removed one stays to be compared.
            have split : first ≤ code ∧ code ≤ last ∨
                Has ((last + 1, high) :: ranges) code := by
              rw [has_cons]
              grind
            rw [has_cons (first, last)]
            rcases split with here | inOthers
            · exact Or.inl (Or.inl here)
            · exact (inductionHypothesis removed inOthers).imp_left Or.inr
          · -- The first range lies within the removed one.
            rcases inFirst with here | later
            · exact Or.inl ((has_cons _ _ _).mpr (Or.inl ⟨by omega, by omega⟩))
            · exact inductionHypothesis _ later

/-- What no list of ranges leaves lies in one of them. -/
theorem exists_has_of_foldl_without
    (steps : Nat)
    {ranges : CodeRanges}
    {tables : List CodeRanges}
    (nothing : tables.foldl (without steps) ranges = [])
    {code : Nat}
    (inRanges : Has ranges code) :
    ∃ table ∈ tables, Has table code := by
  induction tables generalizing ranges with
  | nil =>
      rw [List.foldl_nil] at nothing
      simp [nothing, Has] at inRanges
  | cons table rest inductionHypothesis =>
      rcases has_removed_or_has_without steps table inRanges with here | left
      · exact ⟨table, List.mem_cons_self, here⟩
      · obtain ⟨other, member, found⟩ := inductionHypothesis nothing left
        exact ⟨other, List.mem_cons_of_mem table member, found⟩

/-! ## Ranges apart -/

/-- Two lists of ascending ranges have no code point in common, as found in a number of
steps. -/
def apart : Nat -> CodeRanges -> CodeRanges -> Bool
  | 0, _, _ => false
  | _ + 1, [], _ => true
  | _ + 1, _, [] => true
  | steps + 1, (low, high) :: ranges, (first, last) :: others =>
      if high < first then apart steps ranges ((first, last) :: others)
      else if last < low then apart steps ((low, high) :: ranges) others
      else false

theorem not_has_of_apart
    {steps : Nat}
    {ranges others : CodeRanges}
    (ascending : ranges.Ascending)
    (othersAscending : others.Ascending)
    (separate : apart steps ranges others = true)
    {code : Nat}
    (inRanges : Has ranges code) :
    ¬Has others code := by
  induction steps generalizing ranges others with
  | zero => cases separate
  | succ steps inductionHypothesis =>
      match ranges, others with
      | [], _ => simp [Has] at inRanges
      | _ :: _, [] => simp [Has]
      | (low, high) :: ranges, (first, last) :: others =>
          rw [apart] at separate
          split_ifs at separate with before behind
          · rcases (has_cons _ _ _).mp inRanges with here | later
            · exact othersAscending.not_has (Nat.lt_of_le_of_lt here.2 before)
            · exact inductionHypothesis ascending.of_cons othersAscending separate later
          · intro inOthers
            rcases (has_cons _ _ _).mp inOthers with here | later
            · exact ascending.not_has (Nat.lt_of_le_of_lt here.2 behind) inRanges
            · exact inductionHypothesis ascending othersAscending.of_cons separate inRanges
                later

end CodeRanges
end Unicode
end TableTypes
