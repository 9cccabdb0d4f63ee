import TableTypes.Proofs.FirstOccurrence
import TableTypes.Proofs.Resolution
import TableTypes.Report

/-!
# What becomes of a column

Each column of a table becomes a field or an error, and which of the two depends
only on the column and on the columns before it. The partly built declaration is
needed for nothing else than to find the earlier column that holds a field.
-/

namespace TableTypes

/-- The values among the outcomes of a list of steps. -/
def valuesOf (outcomes : List (Except ε α)) : List α :=
  outcomes.filterMap Except.toOption

/-- The errors among the outcomes of a list of steps. -/
def errorsOf (outcomes : List (Except ε α)) : List ε :=
  outcomes.filterMap fun outcome =>
    match outcome with
    | .error error => some error
    | .ok _ => none

@[simp] theorem valuesOf_nil : valuesOf ([] : List (Except ε α)) = [] := rfl

@[simp] theorem valuesOf_cons_ok (value : α) (rest : List (Except ε α)) :
    valuesOf (.ok value :: rest) = value :: valuesOf rest := rfl

@[simp] theorem valuesOf_cons_error (error : ε) (rest : List (Except ε α)) :
    valuesOf (.error error :: rest) = valuesOf rest := rfl

@[simp] theorem errorsOf_nil : errorsOf ([] : List (Except ε α)) = [] := rfl

@[simp] theorem errorsOf_cons_ok (value : α) (rest : List (Except ε α)) :
    errorsOf (.ok value :: rest) = errorsOf rest := rfl

@[simp] theorem errorsOf_cons_error (error : ε) (rest : List (Except ε α)) :
    errorsOf (.error error :: rest) = error :: errorsOf rest := rfl

/-- The values of outcomes are those of the steps that succeeded. -/
theorem mem_valuesOf_iff (outcomes : List (Except ε α)) (value : α) :
    value ∈ valuesOf outcomes ↔ .ok value ∈ outcomes := by
  rw [valuesOf, List.mem_filterMap]
  constructor
  · rintro ⟨outcome, member, succeeds⟩
    cases outcome with
    | error error => cases succeeds
    | ok other =>
        cases succeeds
        exact member
  · intro member
    exact ⟨.ok value, member, rfl⟩

/-- The errors of outcomes are those of the steps that failed. -/
theorem mem_errorsOf_iff (outcomes : List (Except ε α)) (error : ε) :
    error ∈ errorsOf outcomes ↔ .error error ∈ outcomes := by
  rw [errorsOf, List.mem_filterMap]
  constructor
  · rintro ⟨outcome, member, fails⟩
    cases outcome with
    | error other =>
        cases fails
        exact member
    | ok value => cases fails
  · intro member
    exact ⟨.error error, member, rfl⟩

/-- Every step either succeeded or failed. -/
theorem length_valuesOf_add_length_errorsOf (outcomes : List (Except ε α)) :
    (valuesOf outcomes).length + (errorsOf outcomes).length =
      outcomes.length := by
  induction outcomes with
  | nil => rfl
  | cons outcome rest inductionHypothesis =>
      cases outcome with
      | error error =>
          rw [valuesOf_cons_error, errorsOf_cons_error, List.length_cons,
            List.length_cons, ← inductionHypothesis, Nat.add_assoc]
      | ok value =>
          rw [valuesOf_cons_ok, errorsOf_cons_ok, List.length_cons,
            List.length_cons, ← inductionHypothesis, Nat.add_right_comm]

namespace Settings

/-- The type of a column is known. -/
def resolves
    (settings : Settings)
    (registry : EnumRegistry)
    (column : Column) : Bool :=
  (column.resolve registry settings.textMinLength).toBool

/-- The type of a column is known exactly when resolution has a result. -/
theorem resolves_iff
    (settings : Settings)
    (registry : EnumRegistry)
    (column : Column) :
    settings.resolves registry column = true ↔
      ∃ type, column.resolve registry settings.textMinLength = .ok type := by
  unfold resolves
  cases column.resolve registry settings.textMinLength with
  | error error => simp [Except.toBool]
  | ok type => simp [Except.toBool]

/-- The column that holds a field: of the columns emitted under its name, the
first whose type is known. -/
def holder?
    (settings : Settings)
    (registry : EnumRegistry)
    (columns : List Column)
    (field : String) : Option Column :=
  columns.find? fun column =>
    settings.casing.apply column.name = field
      && settings.resolves registry column

/-- What becomes of a column after the given columns of its table. -/
def outcome
    (settings : Settings)
    (registry : EnumRegistry)
    (earlier : List Column)
    (column : Column) : Except ResolutionError FieldDecl :=
  let field := settings.casing.apply column.name
  match settings.holder? registry earlier field with
  | some holder => .error (.ofColumn column (.fieldTaken field holder.name))
  | none =>
      match column.resolve registry settings.textMinLength with
      | .error error => .error error
      | .ok type => .ok ⟨column.name, field, type⟩

/-- What becomes of each column of a table. -/
def outcomes
    (settings : Settings)
    (registry : EnumRegistry)
    (columns : List Column) : List (Except ResolutionError FieldDecl) :=
  columns.mapIdx fun position column =>
    settings.outcome registry (columns.take position) column

/-- Each column of a table has its outcome after the columns before it. -/
theorem outcome_mem_outcomes
    (settings : Settings)
    (registry : EnumRegistry)
    (before : List Column)
    (column : Column)
    (after : List Column) :
    settings.outcome registry before column ∈
      settings.outcomes registry (before ++ column :: after) := by
  refine List.mem_mapIdx.mpr ⟨before.length, by simp, ?_⟩
  rw [List.take_left, List.getElem_append_right (Nat.le_refl _)]
  simp

/-- Each outcome is that of a column after the columns before it. -/
theorem exists_outcome_of_mem_outcomes
    {settings : Settings}
    {registry : EnumRegistry}
    {columns : List Column}
    {result : Except ResolutionError FieldDecl}
    (member : result ∈ settings.outcomes registry columns) :
    ∃ before column after, columns = before ++ column :: after ∧
      settings.outcome registry before column = result := by
  obtain ⟨position, inside, judged⟩ := List.mem_mapIdx.mp member
  refine ⟨columns.take position, columns[position],
    columns.drop (position + 1), ?_, judged⟩
  rw [← List.drop_eq_getElem_cons, List.take_append_drop]

/-! ## Holders -/

section Holders

variable (settings : Settings) (registry : EnumRegistry)

/-- No column holds a field exactly when none of its emitted name has a known
type. -/
theorem holder?_eq_none_iff (columns : List Column) (field : String) :
    settings.holder? registry columns field = none ↔
      ∀ column ∈ columns, settings.casing.apply column.name = field ->
        settings.resolves registry column = false := by
  simp [holder?, List.find?_eq_none]

/-- When names are kept as reported, no column that remains of a table finds its
field held. -/
theorem holder?_of_verbatim
    (verbatim : settings.casing = .verbatim)
    {before after : List Column}
    {column : Column}
    (distinct : (before ++ column :: after).Pairwise
      fun first second => first.name ≠ second.name) :
    settings.holder? registry before (settings.casing.apply column.name) =
      none := by
  refine (holder?_eq_none_iff settings registry before _).mpr
    fun other member sameField => ?_
  rw [verbatim, Casing.apply_verbatim, Casing.apply_verbatim] at sameField
  exact absurd sameField
    ((List.pairwise_append.mp distinct).2.2 other member column
      List.mem_cons_self)

/-- The holder of a field is emitted under its name, has a known type, and
follows no such column. -/
theorem holder?_eq_some_iff
    (columns : List Column)
    (field : String)
    (holder : Column) :
    settings.holder? registry columns field = some holder ↔
      settings.casing.apply holder.name = field ∧
        settings.resolves registry holder = true ∧
        ∃ before after, columns = before ++ holder :: after ∧
          settings.holder? registry before field = none := by
  simp only [holder?_eq_none_iff]
  unfold holder?
  rw [List.find?_eq_some_iff_append, Bool.and_eq_true, decide_eq_true_eq,
    and_assoc]
  simp only [Bool.not_and, Bool.or_eq_true, Bool.not_eq_true',
    decide_eq_false_iff_not, ← Decidable.imp_iff_not_or]

/-- A further column holds its field when no column before it does and its type
is known. -/
theorem holder?_append
    (columns : List Column)
    (column : Column)
    (field : String) :
    settings.holder? registry (columns ++ [column]) field =
      (settings.holder? registry columns field).or
        (if settings.casing.apply column.name = field
            ∧ settings.resolves registry column = true then some column
          else none) := by
  unfold holder?
  rw [List.find?_append]
  congr 1
  by_cases emitted : settings.casing.apply column.name = field <;>
    cases resolved : settings.resolves registry column <;>
      simp [emitted, resolved]

end Holders

/-! ## The outcome of one column -/

section Outcome

variable
  (settings : Settings)
  (registry : EnumRegistry)
  (earlier : List Column)
  (column : Column)

/-- A column becomes a field when its type is known and no earlier column holds
the field. -/
theorem outcome_eq_ok_iff (field : FieldDecl) :
    settings.outcome registry earlier column = .ok field ↔
      settings.holder? registry earlier (settings.casing.apply column.name) =
          none ∧
        ∃ type, column.resolve registry settings.textMinLength = .ok type ∧
          field = ⟨column.name, settings.casing.apply column.name, type⟩ := by
  cases held : settings.holder? registry earlier
      (settings.casing.apply column.name) with
  | some holder => simp [outcome, held]
  | none =>
      cases typed : column.resolve registry settings.textMinLength with
      | error error => simp [outcome, held, typed]
      | ok type => simp [outcome, held, typed, eq_comm]

/-- A column is reported to collide exactly when an earlier column holds its
field, whatever its own type is. -/
theorem outcome_eq_fieldTaken_iff (field first : String) :
    settings.outcome registry earlier column =
        .error (.ofColumn column (.fieldTaken field first)) ↔
      field = settings.casing.apply column.name ∧
        ∃ holder, settings.holder? registry earlier field = some holder ∧
          first = holder.name := by
  cases held : settings.holder? registry earlier
      (settings.casing.apply column.name) with
  | some holder =>
      simp only [outcome, held, ResolutionError.ofColumn, Except.error.injEq,
        ResolutionError.mk.injEq, ResolutionCause.fieldTaken.injEq, true_and]
      constructor
      · rintro ⟨rfl, rfl⟩
        exact ⟨rfl, holder, held, rfl⟩
      · rintro ⟨rfl, other, sameField, rfl⟩
        rw [held, Option.some.injEq] at sameField
        exact ⟨rfl, congrArg Column.name sameField⟩
  | none =>
      constructor
      · intro collided
        simp only [outcome, held] at collided
        cases typed : column.resolve registry settings.textMinLength with
        | error error =>
            rw [typed] at collided
            cases collided
            exact absurd rfl
              ((Column.resolve_error_names_column typed).2 field first)
        | ok type =>
            rw [typed] at collided
            cases collided
      · rintro ⟨rfl, holder, sameField, _⟩
        rw [held] at sameField
        cases sameField

/-- When no earlier column holds the field, the errors of a column are those of
its resolution. -/
theorem outcome_eq_error_of_free
    (free : settings.holder? registry earlier
      (settings.casing.apply column.name) = none)
    (error : ResolutionError) :
    settings.outcome registry earlier column = .error error ↔
      column.resolve registry settings.textMinLength = .error error := by
  cases typed : column.resolve registry settings.textMinLength with
  | error reported => simp [outcome, free, typed]
  | ok type => simp [outcome, free, typed]

/-- A column becomes an error when an earlier column holds its field, or when none
does and its type is not known. -/
theorem outcome_eq_error_iff (error : ResolutionError) :
    settings.outcome registry earlier column = .error error ↔
      (∃ holder, settings.holder? registry earlier
          (settings.casing.apply column.name) = some holder ∧
        error = .ofColumn column
          (.fieldTaken (settings.casing.apply column.name) holder.name)) ∨
      (settings.holder? registry earlier (settings.casing.apply column.name) =
          none ∧
        column.resolve registry settings.textMinLength = .error error) := by
  cases held : settings.holder? registry earlier
      (settings.casing.apply column.name) with
  | some holder => simp [outcome, held, eq_comm]
  | none =>
      simp [outcome_eq_error_of_free settings registry earlier column held]

/-- An error about an unknown enum names the enum of the column, or its type text,
and the enum is not registered. -/
theorem unknownEnum_of_outcome
    {error : ResolutionError}
    {name : String}
    (fails : settings.outcome registry earlier column = .error error)
    (cause : error.cause = .unknownEnum name) :
    name = column.enumName.getD column.typeText ∧
      registry.find? name = none := by
  rw [outcome_eq_error_iff, Column.resolve_eq_error_iff] at fails
  rcases fails with ⟨_, _, rfl⟩ | ⟨_, ⟨_, rfl⟩ | ⟨_, unregistered, rfl⟩⟩
  · cases cause
  · cases cause
  · cases cause
    exact ⟨rfl, unregistered⟩

/-- A column collides exactly when an earlier column of its emitted name has a
known type. -/
theorem exists_outcome_eq_fieldTaken_iff :
    (∃ first, settings.outcome registry earlier column =
        .error (.ofColumn column
          (.fieldTaken (settings.casing.apply column.name) first))) ↔
      ∃ other ∈ earlier,
        settings.casing.apply other.name = settings.casing.apply column.name ∧
          settings.resolves registry other = true := by
  simp only [outcome_eq_fieldTaken_iff, true_and]
  constructor
  · rintro ⟨_, holder, held, _⟩
    obtain ⟨emitted, resolved, before, after, split, _⟩ :=
      (holder?_eq_some_iff settings registry earlier _ holder).mp held
    exact ⟨holder, by simp [split], emitted, resolved⟩
  · rintro ⟨other, member, emitted, resolved⟩
    cases held : settings.holder? registry earlier
      (settings.casing.apply column.name) with
    | some holder => exact ⟨holder.name, holder, rfl, rfl⟩
    | none =>
        have unresolved :=
          (holder?_eq_none_iff settings registry earlier _).mp held other member
            emitted
        rw [resolved] at unresolved
        cases unresolved

/-- The column named by a collision is the earlier one that became the field. -/
theorem outcome_eq_fieldTaken_iff_declared (field first : String) :
    settings.outcome registry earlier column =
        .error (.ofColumn column (.fieldTaken field first)) ↔
      field = settings.casing.apply column.name ∧
        ∃ before holder after type, earlier = before ++ holder :: after ∧
          settings.outcome registry before holder =
            .ok ⟨first, field, type⟩ := by
  rw [outcome_eq_fieldTaken_iff]
  refine and_congr_right fun _ => ?_
  simp only [holder?_eq_some_iff, resolves_iff, outcome_eq_ok_iff,
    FieldDecl.mk.injEq]
  constructor
  · rintro ⟨holder, ⟨rfl, ⟨type, typed⟩, before, after, split, free⟩, rfl⟩
    exact ⟨before, holder, after, type, split, free, type, typed, rfl, rfl, rfl⟩
  · rintro ⟨before, holder, after, _, split, free, type, typed, rfl, rfl, _⟩
    exact ⟨holder, ⟨rfl, ⟨type, typed⟩, before, after, split, free⟩, rfl⟩

end Outcome

end Settings
end TableTypes
