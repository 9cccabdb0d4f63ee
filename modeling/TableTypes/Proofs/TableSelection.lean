import Mathlib.Data.List.Sort
import TableTypes.Settings.Validation

/-!
# Validation and selection of tables

Validation goes through the allowlist table by table, and selection filters the
available tables. Both decide by the same conditions, so that an allowlist is
accepted exactly when all of it is selected.
-/

namespace TableTypes

namespace NameSet

/-- Sets with the same names are equal. -/
theorem eq_of_mem_iff
    {left right : NameSet}
    (same : ∀ name, name ∈ left ↔ name ∈ right) :
    left = right := by
  obtain ⟨leftNames, leftAscending⟩ := left
  obtain ⟨rightNames, rightAscending⟩ := right
  have sameNames : leftNames = rightNames :=
    leftAscending.eq_of_mem_iff rightAscending same
  subst sameNames
  rfl

/-- No first common name is found exactly when the sets share no name. -/
theorem firstCommon?_eq_none_iff (left right : NameSet) :
    left.firstCommon? right = none ↔ ∀ name ∈ left, name ∉ right := by
  simp [firstCommon?, List.find?_eq_none]

/-- The only set without names is the empty one. -/
theorem isEmpty_eq_true_iff (names : NameSet) :
    names.isEmpty = true ↔ names = ∅ := by
  obtain ⟨names, ascending⟩ := names
  cases names with
  | nil => exact ⟨fun _ => rfl, fun _ => rfl⟩
  | cons first rest =>
      constructor
      · intro isEmpty
        cases isEmpty
      · intro equal
        cases equal

end NameSet

namespace Settings

/-- A table is admitted when no excluded beginning fits it, an allowlist has it
and a denylist does not. -/
theorem admits_iff (settings : Settings) (table : String) :
    settings.admits table = true ↔
      settings.exclusion? table = none ∧
        (∀ allowed, settings.tableAllowlist = some allowed ->
          table ∈ allowed) ∧
        ∀ denied, settings.tableDenylist = some denied -> table ∉ denied := by
  unfold admits
  cases settings.tableAllowlist <;> cases settings.tableDenylist <;>
    simp [and_assoc]

/-! ## Each check -/

/-- The settings alone are accepted when the least length is positive, schemas
are left to read, and no table is both allowlisted and denylisted. -/
theorem validateValues_eq_ok_iff (settings : Settings) :
    settings.validateValues = .ok () ↔
      settings.textMinLength ≠ some 0 ∧
        settings.schemaAllowlist ≠ some ∅ ∧
        ∀ allowed, settings.tableAllowlist = some allowed ->
          ∀ denied, settings.tableDenylist = some denied ->
            ∀ table ∈ allowed, table ∉ denied := by
  have noSchemas : settings.schemaAllowlist.any NameSet.isEmpty = true ↔
      settings.schemaAllowlist = some ∅ := by
    cases settings.schemaAllowlist with
    | none => simp
    | some schemas => simp [NameSet.isEmpty_eq_true_iff]
  unfold validateValues
  by_cases zero : settings.textMinLength = some 0
  · simp [zero]
  · by_cases empty : settings.schemaAllowlist = some ∅
    · rw [if_neg zero, if_pos (noSchemas.mpr empty)]
      simp [empty]
    · rw [if_neg zero, if_neg (mt noSchemas.mp empty)]
      cases settings.tableAllowlist with
      | none => simp [zero, empty]
      | some allowed =>
          cases settings.tableDenylist with
          | none => simp [zero, empty]
          | some denied =>
              have disjoint := NameSet.firstCommon?_eq_none_iff allowed denied
              cases common : allowed.firstCommon? denied with
              | none => simpa [zero, empty, common] using disjoint
              | some table => simpa [zero, empty, common] using disjoint

/-- An allowlisted table is accepted when no excluded beginning fits it and it
is available. -/
theorem validateTable_eq_ok_iff
    (settings : Settings)
    (available : List String)
    (table : String) :
    settings.validateTable available table = .ok () ↔
      settings.exclusion? table = none ∧ table ∈ available := by
  unfold validateTable
  cases settings.exclusion? table with
  | some beginning => simp
  | none =>
      by_cases present : table ∈ available
      · simp [present]
      · simp [present]

/-- A walk over tables accepts them when it accepts each. -/
theorem validateEach_eq_ok_iff
    (settings : Settings)
    (available tables : List String) :
    settings.validateEach available tables = .ok () ↔
      ∀ table ∈ tables, settings.validateTable available table = .ok () := by
  induction tables with
  | nil => simp [validateEach]
  | cons table rest inductionHypothesis =>
      rw [validateEach, List.forall_mem_cons]
      cases checked : settings.validateTable available table with
      | error error => simp
      | ok _ => simp [inductionHypothesis]

/-- An allowlist is accepted when each of its tables is available and fits no
excluded beginning. -/
theorem validateTables_eq_ok_iff
    (settings : Settings)
    (available : List String) :
    settings.validateTables available = .ok () ↔
      ∀ allowed, settings.tableAllowlist = some allowed ->
        ∀ table ∈ allowed,
          settings.exclusion? table = none ∧ table ∈ available := by
  unfold validateTables
  cases settings.tableAllowlist with
  | none => simp
  | some allowed =>
      simp [validateEach_eq_ok_iff, validateTable_eq_ok_iff]

/-- Settings are accepted when both checks accept them. -/
theorem validate_eq_ok_iff
    (settings : Settings)
    (available : List String) :
    settings.validate available = .ok () ↔
      settings.validateValues = .ok () ∧
        settings.validateTables available = .ok () := by
  unfold validate
  cases settings.validateValues with
  | error error => simp
  | ok _ => simp

/-! ## Agreement -/

/-- Nothing beside the allowlist is selected, so the selection is the allowlist
once it has all of it. -/
theorem chosenTables_eq_toList_iff
    {settings : Settings}
    {allowed : NameSet}
    (allowlisted : settings.tableAllowlist = some allowed)
    (available : List String) :
    settings.chosenTables available = allowed.toList ↔
      ∀ table ∈ allowed, table ∈ settings.chosenTables available := by
  constructor
  · intro equal table member
    rw [equal]
    exact member
  · intro complete
    refine congrArg NameSet.toList (NameSet.eq_of_mem_iff fun table => ?_)
    constructor
    · intro chosen
      have admitted := ((settings.mem_chosenTables available table).mp chosen).2
      exact ((settings.admits_iff table).mp admitted).2.1 allowed allowlisted
    · exact complete table

/-- Settings that are sound apart from their table lists are accepted exactly
when the selected tables are those of the allowlist, in ascending order. They
are refused exactly when an allowlisted table would not be selected. -/
theorem validate_eq_ok_iff_chosenTables
    (settings : Settings)
    (available : List String)
    (allowed : NameSet)
    (allowlisted : settings.tableAllowlist = some allowed)
    (positive : settings.textMinLength ≠ some 0)
    (hasSchemas : settings.schemaAllowlist ≠ some ∅) :
    (settings.validate available = .ok () ↔
        settings.chosenTables available = allowed.toList) ∧
      ((∃ error, settings.validate available = .error error) ↔
        ∃ table ∈ allowed, table ∉ settings.chosenTables available) := by
  have agree : settings.validate available = .ok () ↔
      ∀ table ∈ allowed, table ∈ settings.chosenTables available := by
    rw [validate_eq_ok_iff, validateValues_eq_ok_iff, validateTables_eq_ok_iff]
    simp only [mem_chosenTables, admits_iff, allowlisted, Option.some.injEq,
      forall_eq', ne_eq, positive, hasSchemas, not_false_eq_true, true_and]
    constructor
    · rintro ⟨notDenied, found⟩ table member
      obtain ⟨notExcluded, present⟩ := found table member
      exact ⟨present, notExcluded, member, fun denied denylisted =>
        notDenied denied denylisted table member⟩
    · intro chosen
      refine ⟨fun denied denylisted table member => ?_, fun table member => ?_⟩
      · exact (chosen table member).2.2.2 denied denylisted
      · exact ⟨(chosen table member).2.1, (chosen table member).1⟩
  refine ⟨agree.trans (chosenTables_eq_toList_iff allowlisted available).symm,
    ?_⟩
  have refused : (∃ error, settings.validate available = .error error) ↔
      ¬settings.validate available = .ok () := by
    cases settings.validate available with
    | error error => simp
    | ok _ => simp
  rw [refused, agree]
  simp only [not_forall, exists_prop]

/-- Two allowlisted tables are accepted and selected in ascending order, among
tables that are denied, excluded or listed twice. -/
theorem users_posts_selected :
    let settings : Settings := {
      tableAllowlist := some (NameSet.ofList ["users", "posts"])
      tableDenylist := some (NameSet.ofList ["tags"])
      schemaAllowlist := some (NameSet.ofList ["public", "audit"])
      excludedPrefixes := ["", "knex_"]
    }
    let available := ["users", "tags", "knex_lock", "posts", "users"]
    settings.textMinLength ≠ some 0 ∧
      settings.schemaAllowlist ≠ some ∅ ∧
      settings.validate available = .ok () ∧
      settings.chosenTables available = ["posts", "users"] := by
  intro settings available
  have positive : settings.textMinLength ≠ some 0 := by
    decide
  have hasSchemas : settings.schemaAllowlist ≠ some ∅ := by
    decide +kernel
  have valid : settings.validate available = .ok () := by
    decide +kernel
  have agree := validate_eq_ok_iff_chosenTables settings available
    (NameSet.ofList ["users", "posts"]) rfl positive hasSchemas
  exact ⟨positive, hasSchemas, valid, agree.1.mp valid⟩

end Settings
end TableTypes
