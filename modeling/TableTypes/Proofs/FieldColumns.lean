import Mathlib.Data.List.Nodup
import TableTypes.Proofs.Generation

/-!
# Columns that become fields

The walk over the columns of a table decides about each column by the columns
before it. Seen as a whole it selects, of the columns whose type is known, the
first of each emitted name. So the names of the fields are the emitted names of
these columns, each once, and all other columns are errors.
-/

namespace TableTypes
namespace Settings

/-- The columns that become fields: of those whose type is known the first of each
emitted name. -/
def fieldColumns
    (settings : Settings)
    (registry : EnumRegistry)
    (columns : List Column) : List Column :=
  firstsBy (fun column => settings.casing.apply column.name)
    (columns.filter (settings.resolves registry))

/-- The names of the fields that the columns of a table become. -/
def fieldNames
    (settings : Settings)
    (registry : EnumRegistry)
    (columns : List Column) : List String :=
  (valuesOf (settings.outcomes registry columns)).map FieldDecl.emittedName

/-- None of the columns seen holds the field of the column. -/
def isFree
    (settings : Settings)
    (registry : EnumRegistry)
    (seen : List Column)
    (column : Column) : Bool :=
  (settings.holder? registry seen
    (settings.casing.apply column.name)).isNone

section Fields

variable (settings : Settings) (registry : EnumRegistry)

/-- A column is free after one more column when it was free before and the one
more does not hold its field. -/
theorem isFree_append (seen : List Column) (column later : Column) :
    settings.isFree registry (seen ++ [column]) later =
      (settings.isFree registry seen later
        && !(decide (settings.casing.apply column.name =
              settings.casing.apply later.name)
          && settings.resolves registry column)) := by
  rw [isFree, isFree, holder?_append]
  cases settings.holder? registry seen (settings.casing.apply later.name) with
  | some holder => rfl
  | none =>
      by_cases emitted : settings.casing.apply column.name =
          settings.casing.apply later.name <;>
        cases resolved : settings.resolves registry column <;>
          simp [emitted]

/-- A column whose type is not known leaves free what was free before. -/
theorem filter_isFree_append_of_not_resolves
    (seen : List Column)
    {column : Column}
    (unresolved : settings.resolves registry column = false)
    (columns : List Column) :
    columns.filter (settings.isFree registry (seen ++ [column])) =
      columns.filter (settings.isFree registry seen) := by
  refine List.filter_congr fun later _ => ?_
  rw [isFree_append, unresolved, Bool.and_false, Bool.not_false, Bool.and_true]

/-- A column whose type is known leaves free what was free before, except for the
columns of its emitted name. -/
theorem filter_isFree_append_of_resolves
    (seen : List Column)
    {column : Column}
    (resolved : settings.resolves registry column = true)
    (columns : List Column) :
    columns.filter (settings.isFree registry (seen ++ [column])) =
      (columns.filter fun later =>
        settings.casing.apply later.name ≠
          settings.casing.apply column.name).filter
        (settings.isFree registry seen) := by
  rw [List.filter_filter]
  refine List.filter_congr fun later _ => ?_
  rw [isFree_append, resolved, Bool.and_true, decide_not]
  simp only [eq_comm]

/-- A column whose type is not known becomes no field, whatever is held. -/
theorem exists_outcome_eq_error_of_not_resolves
    (seen : List Column)
    {column : Column}
    (unresolved : settings.resolves registry column = false) :
    ∃ error, settings.outcome registry seen column = .error error := by
  cases judged : settings.outcome registry seen column with
  | error error => exact ⟨error, rfl⟩
  | ok field =>
      obtain ⟨_, type, typed, _⟩ :=
        (outcome_eq_ok_iff settings registry seen column field).mp judged
      have resolved := (resolves_iff settings registry column).mpr ⟨type, typed⟩
      rw [unresolved] at resolved
      cases resolved

/-- A column whose type is not known does not become a field. -/
theorem fieldColumns_cons_of_not_resolves
    {column : Column}
    (unresolved : settings.resolves registry column = false)
    (rest : List Column) :
    settings.fieldColumns registry (column :: rest) =
      settings.fieldColumns registry rest := by
  rw [fieldColumns, List.filter_cons_of_neg (by simp [unresolved])]
  rfl

/-- A column whose type is known becomes a field when it stands first, and no
later column of its emitted name does. -/
theorem fieldColumns_cons_of_resolves
    {column : Column}
    (resolved : settings.resolves registry column = true)
    (rest : List Column) :
    settings.fieldColumns registry (column :: rest) =
      column :: (settings.fieldColumns registry rest).filter fun later =>
        settings.casing.apply later.name ≠
          settings.casing.apply column.name := by
  rw [fieldColumns, List.filter_cons_of_pos resolved]
  rfl

/-- After the columns seen the columns that become fields are those that would
become fields on their own, except where a field is held already. -/
theorem valuesOf_outcomesAfter (seen columns : List Column) :
    valuesOf (settings.outcomesAfter registry seen columns) =
      valuesOf (((settings.fieldColumns registry columns).filter
        (settings.isFree registry seen)).map
          (settings.outcome registry [])) := by
  induction columns generalizing seen with
  | nil => rfl
  | cons column rest inductionHypothesis =>
      rw [outcomesAfter_cons]
      cases resolved : settings.resolves registry column with
      | false =>
          obtain ⟨error, fails⟩ := exists_outcome_eq_error_of_not_resolves
            settings registry seen resolved
          rw [fails, valuesOf_cons_error, inductionHypothesis,
            fieldColumns_cons_of_not_resolves settings registry resolved,
            filter_isFree_append_of_not_resolves settings registry seen resolved]
      | true =>
          obtain ⟨type, typed⟩ := (resolves_iff settings registry column).mp
            resolved
          have laterFree := filter_isFree_append_of_resolves settings registry
            seen resolved (settings.fieldColumns registry rest)
          rw [fieldColumns_cons_of_resolves settings registry resolved]
          cases held : settings.holder? registry seen
              (settings.casing.apply column.name) with
          | some holder =>
              have collides := (outcome_eq_fieldTaken_iff settings registry seen
                column _ holder.name).mpr ⟨rfl, holder, held, rfl⟩
              rw [collides, valuesOf_cons_error, inductionHypothesis, laterFree,
                List.filter_cons_of_neg (by simp [isFree, held])]
          | none =>
              have declares (earlier : List Column)
                  (free : settings.holder? registry earlier
                    (settings.casing.apply column.name) = none) :=
                (outcome_eq_ok_iff settings registry earlier column _).mpr
                  ⟨free, type, typed, rfl⟩
              rw [declares seen held, valuesOf_cons_ok, inductionHypothesis,
                laterFree, List.filter_cons_of_pos (by simp [isFree, held]),
                List.map_cons, declares [] rfl, valuesOf_cons_ok]

/-- The fields of a table are those of the columns that become fields, each judged
on its own. -/
theorem valuesOf_outcomes (columns : List Column) :
    valuesOf (settings.outcomes registry columns) =
      valuesOf ((settings.fieldColumns registry columns).map
        (settings.outcome registry [])) := by
  have afterNone := valuesOf_outcomesAfter settings registry [] columns
  have allFree : (settings.fieldColumns registry columns).filter
      (settings.isFree registry []) = settings.fieldColumns registry columns :=
    List.filter_eq_self.mpr fun _ _ => rfl
  rw [allFree] at afterNone
  exact afterNone

/-- Columns whose types are known become fields of their emitted names, each
judged on its own. -/
theorem map_emittedName_valuesOf
    (columns : List Column)
    (resolved : ∀ column ∈ columns, settings.resolves registry column = true) :
    (valuesOf (columns.map (settings.outcome registry []))).map
        FieldDecl.emittedName =
      columns.map fun column => settings.casing.apply column.name := by
  induction columns with
  | nil => rfl
  | cons column rest inductionHypothesis =>
      obtain ⟨columnResolved, restResolved⟩ := List.forall_mem_cons.mp resolved
      obtain ⟨type, typed⟩ :=
        (resolves_iff settings registry column).mp columnResolved
      have declares := (outcome_eq_ok_iff settings registry [] column _).mpr
        ⟨rfl, type, typed, rfl⟩
      rw [List.map_cons, declares, valuesOf_cons_ok, List.map_cons,
        List.map_cons, inductionHypothesis restResolved]

/-- The fields are named by the columns that become fields. -/
theorem fieldNames_eq_map (columns : List Column) :
    settings.fieldNames registry columns =
      (settings.fieldColumns registry columns).map fun column =>
        settings.casing.apply column.name := by
  rw [fieldNames, valuesOf_outcomes]
  refine map_emittedName_valuesOf settings registry _ fun column member => ?_
  exact (List.mem_filter.mp ((firstsBy_sublist _ _).subset member)).2

/-- No two fields of a table have the same name. -/
theorem nodup_fieldNames (columns : List Column) :
    (settings.fieldNames registry columns).Nodup := by
  rw [fieldNames_eq_map]
  exact List.pairwise_map.mpr (firstsBy_pairwise _ _)

/-- The names of the fields are the emitted names of the columns whose types are
known. -/
theorem mem_fieldNames_iff (columns : List Column) (name : String) :
    name ∈ settings.fieldNames registry columns ↔
      ∃ column ∈ columns, settings.resolves registry column = true ∧
        settings.casing.apply column.name = name := by
  rw [fieldNames_eq_map, fieldColumns, mem_map_firstsBy, List.mem_map]
  simp only [List.mem_filter, and_assoc]

/-- A column that becomes no field becomes an error. -/
theorem length_fieldNames_add_length_errorsOf (columns : List Column) :
    (settings.fieldNames registry columns).length
        + (errorsOf (settings.outcomes registry columns)).length =
      columns.length := by
  rw [fieldNames, List.length_map, length_valuesOf_add_length_errorsOf,
    outcomes, List.length_mapIdx]

end Fields

end Settings
end TableTypes
