/-!
# First occurrences

Introspection joins repeat their rows. Of the elements that share a key only the first is
kept, and those kept stay in order.
-/

namespace TableTypes

/-- The elements whose key no earlier element has. -/
def firstsBy [DecidableEq κ] (key : α -> κ) : List α -> List α
  | [] => []
  | element :: rest =>
      element :: (firstsBy key rest).filter fun later => key later ≠ key element

@[simp] theorem firstsBy_nil [DecidableEq κ] (key : α -> κ) :
    firstsBy key [] = [] := rfl

/-- The elements kept stay in order. -/
theorem firstsBy_sublist
    [DecidableEq κ]
    (key : α -> κ)
    (elements : List α) :
    (firstsBy key elements).Sublist elements := by
  induction elements with
  | nil => exact List.Sublist.slnil
  | cons element rest inductionHypothesis =>
      exact (List.filter_sublist.trans inductionHypothesis).cons_cons element

/-- No two of the elements kept share a key. -/
theorem firstsBy_pairwise
    [DecidableEq κ]
    (key : α -> κ)
    (elements : List α) :
    (firstsBy key elements).Pairwise fun first second => key first ≠ key second := by
  induction elements with
  | nil => exact List.Pairwise.nil
  | cons element rest inductionHypothesis =>
      refine List.pairwise_cons.mpr ⟨?_, inductionHypothesis.filter _⟩
      intro later member
      have different := (List.mem_filter.mp member).2
      exact fun equal => (of_decide_eq_true different) equal.symm

/-- Every key is kept. -/
theorem mem_map_firstsBy
    [DecidableEq κ]
    (key : α -> κ)
    (elements : List α)
    (name : κ) :
    name ∈ (firstsBy key elements).map key ↔ name ∈ elements.map key := by
  induction elements with
  | nil => simp
  | cons element rest inductionHypothesis =>
      by_cases equal : name = key element
      · simp [firstsBy, equal]
      · simp only [List.mem_map] at inductionHypothesis
        simp only [firstsBy, List.map_cons, List.mem_cons, equal, false_or,
          List.mem_map, List.mem_filter, decide_eq_true_eq, ← inductionHypothesis]
        constructor
        · rintro ⟨later, ⟨member, _⟩, rfl⟩
          exact ⟨later, member, rfl⟩
        · rintro ⟨later, member, rfl⟩
          exact ⟨later, ⟨member, equal⟩, rfl⟩

end TableTypes
