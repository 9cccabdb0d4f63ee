import Mathlib.Algebra.Order.BigOperators.Group.List
import Mathlib.Algebra.Order.Group.Nat
import Mathlib.Data.List.Forall2
import TableTypes.Proofs.Enum.Registry
import TableTypes.Proofs.FieldColumns

/-!
# More known enums

When more enums are known, more types are known, and never fewer. Which column
holds a field may change all the same: a column whose enum becomes known takes the
field from a later column, which then collides. But the names of the fields of a
table are the emitted names of its columns of known types, so that no name is
lost, and no table has more errors than before.
-/

namespace TableTypes

/-- Every enum that the first rows name is named by the second rows. -/
def EnumRow.NamesCovered (rows moreRows : List EnumRow) : Prop :=
  ∀ row ∈ rows, row.enumName ∈ moreRows.map EnumRow.enumName

namespace Settings

/-- The type of a column is not known exactly when its token names no kind, or
when it is that of an enum which is not registered. -/
theorem resolves_eq_false_iff
    (settings : Settings)
    (registry : EnumRegistry)
    (column : Column) :
    settings.resolves registry column = false ↔
      ColumnKind.ofToken? (ColumnKind.typeToken column.typeText) = none ∨
      (ColumnKind.ofToken? (ColumnKind.typeToken column.typeText) =
          some .enumeration ∧
        registry.find? (column.enumName.getD column.typeText) = none) := by
  have failure (error : ResolutionError) := Column.resolve_eq_error_iff registry
    settings.textMinLength column error
  unfold resolves
  cases typed : column.resolve registry settings.textMinLength with
  | error error =>
      have cause := (failure error).mp typed
      simp only [Except.toBool, true_iff]
      exact cause.imp And.left fun enumCause => ⟨enumCause.1, enumCause.2.1⟩
  | ok type =>
      simp only [Except.toBool, Bool.true_eq_false, false_iff]
      rintro (unknownKind | ⟨isEnum, unregistered⟩)
      · rw [(failure _).mpr (.inl ⟨unknownKind, rfl⟩)] at typed
        cases typed
      · rw [(failure _).mpr (.inr ⟨isEnum, unregistered, rfl⟩)] at typed
        cases typed

section Monotone

variable
  (settings : Settings)
  {rows moreRows : List EnumRow}
  (covered : EnumRow.NamesCovered rows moreRows)

include covered

/-- A column whose type is known keeps a known type. -/
theorem resolves_of_namesCovered
    {column : Column}
    (resolved :
      settings.resolves (EnumRegistry.ofRows rows) column = true) :
    settings.resolves (EnumRegistry.ofRows moreRows) column = true := by
  by_contra unresolved
  rw [Bool.not_eq_true, resolves_eq_false_iff] at unresolved
  have wasUnresolved :
      settings.resolves (EnumRegistry.ofRows rows) column = false := by
    refine (resolves_eq_false_iff settings _ column).mpr
      (unresolved.imp id fun ⟨isEnum, unregistered⟩ => ⟨isEnum, ?_⟩)
    rw [EnumRegistry.find?_ofRows_eq_none_iff] at unregistered ⊢
    intro named
    obtain ⟨row, member, sameName⟩ := List.mem_map.mp named
    exact unregistered (sameName ▸ covered row member)
  rw [resolved] at wasUnresolved
  cases wasUnresolved

/-- No name of a field is lost. -/
theorem fieldNames_subset_of_namesCovered (columns : List Column) :
    settings.fieldNames (EnumRegistry.ofRows rows) columns ⊆
      settings.fieldNames (EnumRegistry.ofRows moreRows) columns := by
  intro name member
  rw [mem_fieldNames_iff] at member ⊢
  obtain ⟨column, given, resolved, emitted⟩ := member
  exact ⟨column, given, resolves_of_namesCovered settings covered resolved,
    emitted⟩

/-- A table does not get more errors: the columns are as many as before, and the
fields are not fewer, because their names differ from each other. -/
theorem length_errorsOf_le_of_namesCovered (columns : List Column) :
    (errorsOf (settings.outcomes (EnumRegistry.ofRows moreRows)
        columns)).length ≤
      (errorsOf (settings.outcomes (EnumRegistry.ofRows rows)
        columns)).length := by
  have fields :
      (settings.fieldNames (EnumRegistry.ofRows rows) columns).length ≤
        (settings.fieldNames (EnumRegistry.ofRows moreRows) columns).length :=
    (List.subperm_of_subset (nodup_fieldNames settings _ columns)
      (fieldNames_subset_of_namesCovered settings covered columns)).length_le
  have all := length_fieldNames_add_length_errorsOf settings
    (EnumRegistry.ofRows rows) columns
  have allMore := length_fieldNames_add_length_errorsOf settings
    (EnumRegistry.ofRows moreRows) columns
  omega

end Monotone

/-- With rows that name all enums of other rows, and perhaps more, every table has
the names of its fields under the other rows among the names of its fields, and
the report has no more errors. -/
theorem generate_monotone_in_enums
    (settings : Settings)
    (rows moreRows : List EnumRow)
    (inputs : List ReportedTable)
    (covered : EnumRow.NamesCovered rows moreRows) :
    let report := settings.generate rows inputs
    let moreReport := settings.generate moreRows inputs
    List.Forall₂ (fun table moreTable : TableDecl =>
        moreTable.reportedName = table.reportedName ∧
          table.fields.map FieldDecl.emittedName ⊆
            moreTable.fields.map FieldDecl.emittedName)
      report.tables moreReport.tables ∧
      moreReport.errors.length ≤ report.errors.length := by
  intro report moreReport
  constructor
  · simp only [report, moreReport, tables_generate]
    rw [List.forall₂_map_left_iff, List.forall₂_map_right_iff,
      List.forall₂_same]
    intro input _
    exact ⟨rfl, fieldNames_subset_of_namesCovered settings covered _⟩
  · simp only [report, moreReport, errors_generate, List.length_flatMap]
    refine List.sum_le_sum fun input _ => ?_
    exact length_errorsOf_le_of_namesCovered settings covered _

/-- A column whose enum becomes known takes the field from a later column, which
collides from then on. The name of the field stays. -/
theorem known_mood_takes_field :
    let settings : Settings := { casing := .camel }
    let rows : List EnumRow := [⟨"role", "user"⟩]
    let moreRows : List EnumRow := [⟨"mood", "happy"⟩, ⟨"role", "admin"⟩]
    let input : ReportedTable := ⟨"users", [
      { table := "users", name := "user_mood", typeText := "USER-DEFINED",
        enumName := some "mood" },
      { table := "users", name := "userMood", typeText := "text" }
    ]⟩
    let report := settings.generate rows [input]
    let moreReport := settings.generate moreRows [input]
    EnumRow.NamesCovered rows moreRows ∧
      report.tables.map TableDecl.fields =
        [[⟨"userMood", "userMood", .text {}⟩]] ∧
      moreReport.tables.map TableDecl.fields =
        [[⟨"user_mood", "userMood", .enumRef "mood"⟩]] ∧
      moreReport.errors.map ResolutionError.cause =
        [.fieldTaken "userMood" "user_mood"] ∧
      List.Forall₂ (fun table moreTable : TableDecl =>
          moreTable.reportedName = table.reportedName ∧
            table.fields.map FieldDecl.emittedName ⊆
              moreTable.fields.map FieldDecl.emittedName)
        report.tables moreReport.tables ∧
      moreReport.errors.length ≤ report.errors.length := by
  intro settings rows moreRows input report moreReport
  have covered : EnumRow.NamesCovered rows moreRows := by
    intro row member
    rw [List.mem_singleton.mp member]
    decide
  exact ⟨covered, by decide +kernel, by decide +kernel, by decide +kernel,
    generate_monotone_in_enums settings rows moreRows [input] covered⟩

end Settings
end TableTypes
