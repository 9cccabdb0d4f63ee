import Mathlib.Data.List.Forall2
import Mathlib.Logic.Relation
import TableTypes.Proofs.Enum.Registry
import TableTypes.Report

/-!
# Repeated rows and columns

Introspection may repeat an enum row, and may repeat a column with other
metadata. A repetition that stands anywhere behind the first occurrence changes
no part of a report. The rows are absorbed by the registry, which keeps names and
labels at their first occurrences, and the columns by the selection of the first
column of each name.
-/

namespace TableTypes

/-- The second list is the first one with one more element, which stands
somewhere behind an element of the same key. -/
inductive RepeatInserted (key : α -> κ) : List α -> List α -> Prop
  | insert
      (before after : List α)
      (repeated : α)
      (known : key repeated ∈ before.map key) :
      RepeatInserted key (before ++ after) (before ++ repeated :: after)

/-- The second list is the first one with further elements, each of them behind
an element of the same key. -/
def Repeats (key : α -> κ) : List α -> List α -> Prop :=
  Relation.ReflTransGen (RepeatInserted key)

/-! ## One repetition -/

namespace RepeatInserted

/-- A repeated element does not become a first occurrence, and no first
occurrence becomes a later one. -/
theorem firstsBy_eq
    [DecidableEq κ]
    {key : α -> κ}
    {elements repeating : List α}
    (inserted : RepeatInserted key elements repeating) :
    firstsBy key repeating = firstsBy key elements := by
  obtain ⟨before, after, repeated, known⟩ := inserted
  rw [firstsBy_append, firstsBy_append, firstsBy, List.filter_cons_of_neg,
    List.filter_filter]
  · -- Whatever the repeated element would displace is known before it.
    refine congrArg _ (List.filter_congr fun later _ => ?_)
    by_cases same : key later = key repeated
    · rw [same]
      simp [known]
    · simp [same]
  · simpa using known

/-- The image of a repeated element is repeated. -/
theorem map
    {elements repeating : List α}
    (inserted : RepeatInserted id elements repeating)
    (image : α -> β) :
    RepeatInserted id (elements.map image) (repeating.map image) := by
  obtain ⟨before, after, repeated, known⟩ := inserted
  rw [List.map_id, id_eq] at known
  rw [List.map_append, List.map_append, List.map_cons]
  refine .insert _ _ _ ?_
  rw [List.map_id]
  exact List.mem_map_of_mem known

/-- When a repeated element is kept its first occurrence is kept as well. -/
theorem filter
    {elements repeating : List α}
    (inserted : RepeatInserted id elements repeating)
    (keeps : α -> Bool) :
    Repeats id (elements.filter keeps) (repeating.filter keeps) := by
  obtain ⟨before, after, repeated, known⟩ := inserted
  rw [List.map_id, id_eq] at known
  rw [List.filter_append, List.filter_append]
  cases kept : keeps repeated with
  | false =>
      rw [List.filter_cons_of_neg (by simp [kept])]
      exact .refl
  | true =>
      rw [List.filter_cons_of_pos kept]
      refine .single (.insert _ _ _ ?_)
      rw [List.map_id]
      exact List.mem_filter.mpr ⟨known, kept⟩

end RepeatInserted

/-! ## Any number of repetitions -/

namespace Repeats

/-- Repetitions do not change what is kept. -/
theorem firstsBy_eq
    [DecidableEq κ]
    {key : α -> κ}
    {elements repeating : List α}
    (repeats : Repeats key elements repeating) :
    firstsBy key repeating = firstsBy key elements := by
  induction repeats with
  | refl => rfl
  | tail _ inserted inductionHypothesis =>
      rw [inserted.firstsBy_eq, inductionHypothesis]

/-- Images of repeated elements are repeated. -/
theorem map
    {elements repeating : List α}
    (repeats : Repeats id elements repeating)
    (image : α -> β) :
    Repeats id (elements.map image) (repeating.map image) :=
  Relation.ReflTransGen.lift (List.map image)
    (fun _ _ inserted => inserted.map image) _ _ repeats

/-- Repeated elements that are kept are repeated. -/
theorem filter
    {elements repeating : List α}
    (repeats : Repeats id elements repeating)
    (keeps : α -> Bool) :
    Repeats id (elements.filter keeps) (repeating.filter keeps) :=
  Relation.ReflTransGen.lift' (List.filter keeps)
    (fun _ _ inserted => inserted.filter keeps) _ _ repeats

end Repeats

/-! ## Repetitions in reports -/

/-- Repeated rows add nothing to a registry. -/
theorem EnumRegistry.ofRows_eq_of_repeats
    {rows repeating : List EnumRow}
    (repeats : Repeats id rows repeating) :
    ofRows repeating = ofRows rows := by
  have sameNames := (repeats.map EnumRow.enumName).firstsBy_eq
  have sameLabels (name : String) :
      firstsBy id (EnumRow.labelsOf repeating name) =
        firstsBy id (EnumRow.labelsOf rows name) :=
    ((repeats.filter _).map EnumRow.label).firstsBy_eq
  have sameEnums : (ofRows repeating).enums = (ofRows rows).enums := by
    simp only [enums_ofRows, sameNames, sameLabels]
  exact congrArg EnumRegistry.mk sameEnums

namespace ReportedTable

/-- The second table is the first one with further columns, each of them behind a
column of the same name. -/
structure RepeatsColumns (input repeating : ReportedTable) : Prop where
  sameName : repeating.name = input.name
  columns : Repeats Column.name input.columns repeating.columns

end ReportedTable

namespace Settings

/-- Repeated columns are not declared and not reported. -/
theorem declareTable_eq_of_repeats
    (settings : Settings)
    (registry : EnumRegistry)
    {input repeating : ReportedTable}
    (repeats : input.RepeatsColumns repeating) :
    settings.declareTable registry repeating =
      settings.declareTable registry input := by
  rw [declareTable, declareTable, Column.keepFirst, Column.keepFirst,
    repeats.sameName, repeats.columns.firstsBy_eq]

/-- Rows that occurred before, and columns whose names occurred before in their
tables, change nothing in a report, wherever they are inserted behind the first
occurrences and whatever else the columns say. -/
theorem generate_eq_of_repeats
    (settings : Settings)
    (rows repeatingRows : List EnumRow)
    (inputs repeatingInputs : List ReportedTable)
    (rowsRepeat : Repeats id rows repeatingRows)
    (columnsRepeat :
      List.Forall₂ ReportedTable.RepeatsColumns inputs repeatingInputs) :
    settings.generate repeatingRows repeatingInputs =
      settings.generate rows inputs := by
  have sameRegistry := EnumRegistry.ofRows_eq_of_repeats rowsRepeat
  have sameTables :
      repeatingInputs.map (settings.declareTable (EnumRegistry.ofRows rows)) =
        inputs.map (settings.declareTable (EnumRegistry.ofRows rows)) := by
    induction columnsRepeat with
    | nil => rfl
    | cons repeats _ inductionHypothesis =>
        rw [List.map_cons, List.map_cons, inductionHypothesis,
          declareTable_eq_of_repeats settings _ repeats]
  simp only [generate, sameRegistry, sameTables]

/-- A repeated enum row, and repeated columns of another table, type and
nullability, change nothing, although one of them would collide in camel case and
another one would have no type. -/
theorem repeated_role_and_names_absorbed :
    let settings : Settings := { casing := .camel }
    let user : EnumRow := ⟨"role", "user"⟩
    let stateOpen : EnumRow := ⟨"state", "open"⟩
    let userId : Column :=
      { table := "users", name := "user_id", typeText := "integer" }
    let role : Column :=
      { table := "users", name := "role", typeText := "USER-DEFINED",
        enumName := some "role" }
    let otherId : Column :=
      { table := "audit", name := "user_id", typeText := "text",
        isNullable := true }
    let otherRole : Column :=
      { table := "audit", name := "role", typeText := "hstore" }
    let input : ReportedTable := ⟨"users", [userId, role]⟩
    let repeating : ReportedTable :=
      ⟨"users", [userId, otherId, role, otherRole]⟩
    Repeats id [user, stateOpen] [user, stateOpen, user] ∧
      input.RepeatsColumns repeating ∧
      settings.generate [user, stateOpen, user] [repeating] =
        settings.generate [user, stateOpen] [input] ∧
      (settings.generate [user, stateOpen] [input]).errors = [] := by
  intro settings user stateOpen userId role otherId otherRole input repeating
  have rowsRepeat : Repeats id [user, stateOpen] [user, stateOpen, user] :=
    .single (.insert [user, stateOpen] [] user (by decide))
  have columnsRepeat : input.RepeatsColumns repeating := by
    refine ⟨rfl, .tail (b := [userId, otherId, role]) (.single ?_) ?_⟩
    · exact .insert [userId] [role] otherId (by decide)
    · exact .insert [userId, otherId, role] [] otherRole (by decide)
  exact ⟨rowsRepeat, columnsRepeat,
    generate_eq_of_repeats settings _ _ _ _ rowsRepeat
      (.cons columnsRepeat .nil),
    by decide +kernel⟩

end Settings
end TableTypes
