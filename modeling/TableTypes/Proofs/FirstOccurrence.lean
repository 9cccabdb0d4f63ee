import TableTypes.FirstOccurrence

/-!
# First occurrences by position

The elements kept by `firstsBy` are those at whose positions their key occurs
for the first time. The positional form says what is kept without saying how a
walk over the list finds it.
-/

namespace TableTypes

/-- The elements at whose positions their key occurs for the first time. -/
def firstOccurrences
    [DecidableEq κ]
    (key : α -> κ)
    (elements : List α) : List α :=
  (elements.mapIdx fun position element =>
    if key element ∈ (elements.take position).map key then none
    else some element).filterMap id

/-- The elements whose key neither the given keys nor the elements before them
have. -/
def newAfter
    [DecidableEq κ]
    (key : α -> κ)
    (known : List κ)
    (elements : List α) : List α :=
  (elements.mapIdx fun position element =>
    if key element ∈ known ++ (elements.take position).map key then none
    else some element).filterMap id

@[simp] theorem newAfter_nil [DecidableEq κ] (key : α -> κ) (known : List κ) :
    newAfter key known [] = [] := rfl

/-- The first element is dropped when its key is known, and its key is known to
the rest. -/
theorem newAfter_cons
    [DecidableEq κ]
    (key : α -> κ)
    (known : List κ)
    (element : α)
    (rest : List α) :
    newAfter key known (element :: rest) =
      if key element ∈ known then newAfter key (known ++ [key element]) rest
      else element :: newAfter key (known ++ [key element]) rest := by
  unfold newAfter
  rw [List.mapIdx_cons]
  simp only [List.take_zero, List.map_nil, List.append_nil, List.take_succ_cons,
    List.map_cons, List.append_assoc, List.singleton_append]
  by_cases present : key element ∈ known
  · rw [if_pos present, if_pos present]
    rfl
  · rw [if_neg present, if_neg present]
    rfl

/-- A walk that knows some keys already keeps the first elements of the other
keys. -/
theorem newAfter_eq_filter_firstsBy
    [DecidableEq κ]
    (key : α -> κ)
    (known : List κ)
    (elements : List α) :
    newAfter key known elements =
      (firstsBy key elements).filter fun element => key element ∉ known := by
  induction elements generalizing known with
  | nil => rfl
  | cons element rest inductionHypothesis =>
      rw [newAfter_cons, inductionHypothesis, firstsBy, List.filter_cons,
        List.filter_filter]
      have sameRest :
          (firstsBy key rest).filter
              (fun later => key later ∉ known ++ [key element]) =
            (firstsBy key rest).filter fun later =>
              decide (key later ∉ known)
                && decide (key later ≠ key element) := by
        apply List.filter_congr
        intro later _
        simp [not_or]
      by_cases present : key element ∈ known
      · simp only [present, if_true, not_true_eq_false, decide_false,
          Bool.false_eq_true, if_false]
        exact sameRest
      · simp only [present, if_false, not_false_eq_true, decide_true, if_true]
        rw [sameRest]

/-- What `firstsBy` keeps are the first occurrences. -/
theorem firstsBy_eq_firstOccurrences
    [DecidableEq κ]
    (key : α -> κ)
    (elements : List α) :
    firstsBy key elements = firstOccurrences key elements := by
  have withoutKnown := newAfter_eq_filter_firstsBy key [] elements
  rw [List.filter_eq_self.mpr (by simp)] at withoutKnown
  exact withoutKnown.symm

/-- Of a list that follows another the first elements of new keys are kept. -/
theorem firstsBy_append
    [DecidableEq κ]
    (key : α -> κ)
    (first second : List α) :
    firstsBy key (first ++ second) =
      firstsBy key first
        ++ (firstsBy key second).filter fun element =>
          key element ∉ first.map key := by
  induction first with
  | nil => exact (List.filter_eq_self.mpr (by simp)).symm
  | cons element rest inductionHypothesis =>
      rw [List.cons_append, firstsBy, firstsBy, inductionHypothesis,
        List.filter_append, List.filter_filter, List.cons_append]
      refine congrArg _ (congrArg _ (List.filter_congr fun later _ => ?_))
      simp [not_or]

/-- An element behind a list is kept when its key is new. -/
theorem firstsBy_append_singleton
    [DecidableEq κ]
    (key : α -> κ)
    (elements : List α)
    (element : α) :
    firstsBy key (elements ++ [element]) =
      if key element ∈ elements.map key then firstsBy key elements
      else firstsBy key elements ++ [element] := by
  rw [firstsBy_append]
  split
  next known => simp [firstsBy, List.mem_map.mp known]
  next isNew => simpa [firstsBy] using isNew

/-- An element is kept when it is the first that a search for its key finds. -/
theorem mem_firstsBy_iff
    [DecidableEq κ]
    (key : α -> κ)
    (elements : List α)
    (element : α) :
    element ∈ firstsBy key elements ↔
      elements.find? (fun other => key other = key element) = some element := by
  induction elements with
  | nil => simp
  | cons first rest inductionHypothesis =>
      rw [firstsBy, List.mem_cons, List.mem_filter, inductionHypothesis]
      by_cases same : key first = key element
      · rw [List.find?_cons_of_pos (by simpa using same), Option.some.injEq]
        simp [same, eq_comm]
      · have other : element ≠ first := fun equal => same (congrArg key equal.symm)
        rw [List.find?_cons_of_neg (by simpa using same)]
        simp [other, Ne.symm same]

/-- Elements of different keys are all kept. -/
theorem firstsBy_eq_self
    [DecidableEq κ]
    {key : α -> κ}
    {elements : List α}
    (distinct : elements.Pairwise fun first second => key first ≠ key second) :
    firstsBy key elements = elements := by
  induction elements with
  | nil => rfl
  | cons element rest inductionHypothesis =>
      obtain ⟨restDiffers, restDistinct⟩ := List.pairwise_cons.mp distinct
      rw [firstsBy, inductionHypothesis restDistinct, List.filter_eq_self.mpr]
      intro later member
      exact decide_eq_true fun same => restDiffers later member same.symm

/-! ## Elements that are their own keys -/

/-- No element is kept twice when it is its own key. -/
theorem nodup_firstsBy_id [DecidableEq α] (elements : List α) :
    (firstsBy id elements).Nodup :=
  firstsBy_pairwise id elements

/-- Every element is kept when it is its own key. -/
theorem mem_firstsBy_id [DecidableEq α] (elements : List α) (element : α) :
    element ∈ firstsBy id elements ↔ element ∈ elements := by
  have kept := mem_map_firstsBy id elements element
  rwa [List.map_id, List.map_id] at kept

/-- An element behind a list is kept when it is not in the list. -/
theorem firstsBy_id_append_singleton
    [DecidableEq α]
    (elements : List α)
    (element : α) :
    firstsBy id (elements ++ [element]) =
      if element ∈ elements then firstsBy id elements
      else firstsBy id elements ++ [element] := by
  rw [firstsBy_append_singleton, List.map_id]
  rfl

/-- Of equal elements one is kept. -/
theorem firstsBy_id_eq_singleton
    [DecidableEq α]
    {elements : List α}
    {value : α}
    (present : elements ≠ [])
    (equal : ∀ element ∈ elements, element = value) :
    firstsBy id elements = [value] := by
  cases elements with
  | nil => exact absurd rfl present
  | cons element rest =>
      obtain ⟨rfl, restEqual⟩ := List.forall_mem_cons.mp equal
      rw [firstsBy, List.filter_eq_nil_iff.mpr]
      intro later member
      simp [restEqual later ((mem_firstsBy_id rest later).mp member)]

/-- When every item has images of one value only, what is kept of all images are
the values of the items that have any. -/
theorem firstsBy_id_flatMap
    [DecidableEq β]
    (items : List α)
    (images : α -> List β)
    (value : α -> β)
    (equal : ∀ item, ∀ image ∈ images item, image = value item) :
    firstsBy id (items.flatMap images) =
      firstsBy id ((items.filter fun item => !(images item).isEmpty).map
        value) := by
  induction items with
  | nil => rfl
  | cons item rest inductionHypothesis =>
      rw [List.flatMap_cons]
      by_cases none : images item = []
      · rw [List.filter_cons_of_neg (by simp [none]), none, List.nil_append,
          inductionHypothesis]
      · rw [List.filter_cons_of_pos (by simp [none]), List.map_cons,
          firstsBy_append, firstsBy_id_eq_singleton none (equal item),
          inductionHypothesis, firstsBy, List.singleton_append, List.map_id]
        refine congrArg _ (List.filter_congr fun later _ => ?_)
        -- The images are not empty, so they hold the value and nothing else.
        have onlyValue : later ∈ images item ↔ later = value item := by
          refine ⟨equal item later, ?_⟩
          rintro rfl
          obtain ⟨image, member⟩ := List.exists_mem_of_ne_nil _ none
          exact equal item image member ▸ member
        simp [onlyValue]

end TableTypes
