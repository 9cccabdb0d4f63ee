/-!
# Sets of names

A set of names is its ascending list without repetition, so equal sets are equal values
and a walk over a set meets its names in one order. The order of names is that of their
code points.
-/

namespace TableTypes

/-- A finite set of names. -/
structure NameSet where
  toList : List String
  ascending : toList.Pairwise (· < ·)
  deriving DecidableEq, Repr

namespace NameSet

/-- Put a name at its place in an ascending list, unless it is there already. -/
def insertSorted (name : String) : List String -> List String
  | [] => [name]
  | head :: tail =>
      if name < head then name :: head :: tail
      else if name = head then head :: tail
      else head :: insertSorted name tail

@[simp] theorem mem_insertSorted
    (name other : String)
    (names : List String) :
    other ∈ insertSorted name names ↔ other = name ∨ other ∈ names := by
  induction names with
  | nil => simp [insertSorted]
  | cons head tail inductionHypothesis =>
      rw [insertSorted]
      split
      · simp
      · split
        next equal => simp [equal]
        next => simp [inductionHypothesis, or_left_comm]

theorem pairwise_insertSorted
    (name : String)
    {names : List String}
    (ascending : names.Pairwise (· < ·)) :
    (insertSorted name names).Pairwise (· < ·) := by
  induction names with
  | nil => simp [insertSorted]
  | cons head tail inductionHypothesis =>
      have headBelow := (List.pairwise_cons.mp ascending).1
      have tailAscending := (List.pairwise_cons.mp ascending).2
      rw [insertSorted]
      split
      next below =>
        refine List.pairwise_cons.mpr ⟨?_, ascending⟩
        intro other member
        rcases List.mem_cons.mp member with equal | member
        · exact equal ▸ below
        · exact String.lt_trans below (headBelow other member)
      next notBelow =>
        split
        next => exact ascending
        next different =>
          refine List.pairwise_cons.mpr
            ⟨?_, inductionHypothesis tailAscending⟩
          intro other member
          rcases (mem_insertSorted name other tail).mp member with equal | member
          · exact equal ▸ Std.lt_of_le_of_ne
              (String.not_lt.mp notBelow) (Ne.symm different)
          · exact headBelow other member

/-- The set without names. -/
def empty : NameSet :=
  ⟨[], List.Pairwise.nil⟩

instance : EmptyCollection NameSet :=
  ⟨empty⟩

instance : Inhabited NameSet :=
  ⟨empty⟩

/-- The set with one more name. -/
def insert (names : NameSet) (name : String) : NameSet :=
  ⟨insertSorted name names.toList, pairwise_insertSorted name names.ascending⟩

/-- The set of the names of a list. -/
def ofList : List String -> NameSet
  | [] => empty
  | name :: names => (ofList names).insert name

/-- The set has no name. -/
def isEmpty (names : NameSet) : Bool :=
  names.toList.isEmpty

instance : Membership String NameSet :=
  ⟨fun names name => name ∈ names.toList⟩

instance (name : String) (names : NameSet) : Decidable (name ∈ names) :=
  inferInstanceAs (Decidable (name ∈ names.toList))

@[simp] theorem mem_toList (name : String) (names : NameSet) :
    name ∈ names.toList ↔ name ∈ names :=
  Iff.rfl

@[simp] theorem mem_insert (names : NameSet) (name other : String) :
    other ∈ names.insert name ↔ other = name ∨ other ∈ names :=
  mem_insertSorted name other names.toList

@[simp] theorem mem_ofList (names : List String) (name : String) :
    name ∈ ofList names ↔ name ∈ names := by
  induction names with
  | nil => exact Iff.rfl
  | cons head tail inductionHypothesis =>
      simp [ofList, inductionHypothesis]

/-- The first name, in order, that two sets share. -/
def firstCommon? (left right : NameSet) : Option String :=
  left.toList.find? fun name => name ∈ right

end NameSet
end TableTypes
