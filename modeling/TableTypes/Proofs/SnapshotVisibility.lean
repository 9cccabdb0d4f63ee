import TableTypes.Proofs.SnapshotRun
import TableTypes.Proofs.TableSelection

/-!
# What a run sees of a snapshot

A run sees which admitted tables a snapshot lists, the columns of these tables
and the rows of its enums. The order in which tables of different names were
captured makes no difference, and neither do tables that are not admitted. This
holds of refused settings too: a table of an allowlist that would be missed is
admitted, or the settings are refused for another reason.
-/

namespace TableTypes

namespace Settings

/-- The same admitted tables are among two lists. -/
def AgreeOnAdmitted (settings : Settings) (left right : List String) : Prop :=
  ∀ table, settings.admits table = true -> (table ∈ left ↔ table ∈ right)

section Agreement

variable
  {settings : Settings}
  {left right : List String}

/-- Selection depends on the admitted tables only. -/
theorem chosenTables_eq_of_agree
    (agree : settings.AgreeOnAdmitted left right) :
    settings.chosenTables left = settings.chosenTables right := by
  refine congrArg NameSet.toList (NameSet.eq_of_mem_iff fun table => ?_)
  rw [NameSet.mem_ofList, NameSet.mem_ofList, List.mem_filter, List.mem_filter]
  exact and_congr_left (agree table)

/-! ## Validation -/

/-- An allowlisted table that fits no excluded beginning is admitted, for
settings that both allow and deny it are refused by themselves. -/
theorem admits_of_allowlisted
    {allowed : NameSet}
    {table : String}
    (validValues : settings.validateValues = .ok ())
    (allowlisted : settings.tableAllowlist = some allowed)
    (member : table ∈ allowed)
    (notExcluded : settings.exclusion? table = none) :
    settings.admits table = true := by
  obtain ⟨_, _, disjoint⟩ := settings.validateValues_eq_ok_iff.mp validValues
  refine (settings.admits_iff table).mpr ⟨notExcluded, ?_, ?_⟩
  · intro other otherAllowlisted
    obtain rfl : allowed = other :=
      Option.some.inj (allowlisted.symm.trans otherAllowlisted)
    exact member
  · intro denied denylisted
    exact disjoint allowed allowlisted denied denylisted table member

/-- The check of a table that is admitted unless it is excluded depends on the
admitted tables only. -/
theorem validateTable_eq_of_agree
    {table : String}
    (agree : settings.AgreeOnAdmitted left right)
    (admitted : settings.exclusion? table = none ->
      settings.admits table = true) :
    settings.validateTable left table = settings.validateTable right table := by
  unfold validateTable
  cases excluded : settings.exclusion? table with
  | some beginning => rfl
  | none =>
      have sameTable := agree table (admitted excluded)
      simp only [sameTable]

/-- A walk over tables depends on no more than the checks of these tables. -/
theorem validateEach_eq_of_same_checks
    (tables : List String)
    (same : ∀ table ∈ tables,
      settings.validateTable left table = settings.validateTable right table) :
    settings.validateEach left tables = settings.validateEach right tables := by
  induction tables with
  | nil => rfl
  | cons table rest inductionHypothesis =>
      obtain ⟨sameFirst, sameRest⟩ := List.forall_mem_cons.mp same
      rw [validateEach, validateEach, sameFirst, inductionHypothesis sameRest]

/-- Validation depends on the admitted tables only, and so does the error with
which settings are refused. -/
theorem validate_eq_of_agree
    (agree : settings.AgreeOnAdmitted left right) :
    settings.validate left = settings.validate right := by
  unfold validate
  cases validValues : settings.validateValues with
  | error error => rfl
  | ok _ =>
      unfold validateTables
      cases allowlisted : settings.tableAllowlist with
      | none => rfl
      | some allowed =>
          -- The values were accepted, so that an allowlisted table is admitted
          -- unless it is excluded, and then it is refused before it is looked
          -- for.
          refine validateEach_eq_of_same_checks allowed.toList
            fun table member => ?_
          exact validateTable_eq_of_agree agree
            (admits_of_allowlisted validValues allowlisted member)

end Agreement

end Settings

/-! ## Runs -/

namespace Snapshot

/-- The tables of one name, in the order in which they were captured. -/
def tablesNamed (snapshot : Snapshot) (name : String) : List CapturedTable :=
  snapshot.tables.filter fun table => table.name = name

/-- The columns of one name are those of the tables of that name. -/
theorem columnsNamed_eq_flatMap (snapshot : Snapshot) (name : String) :
    snapshot.columnsNamed name =
      (snapshot.tablesNamed name).flatMap fun table =>
        table.columns.map (CatalogueRow.toColumn name) := rfl

/-- The snapshot without the tables that are not admitted. -/
def admittedBy (snapshot : Snapshot) (settings : Settings) : Snapshot :=
  { snapshot with
    tables := snapshot.tables.filter fun table => settings.admits table.name }

/-- All tables of an admitted name are left. -/
theorem tablesNamed_admittedBy
    {settings : Settings}
    {name : String}
    (snapshot : Snapshot)
    (admitted : settings.admits name = true) :
    (snapshot.admittedBy settings).tablesNamed name =
      snapshot.tablesNamed name := by
  unfold tablesNamed admittedBy
  rw [List.filter_filter]
  refine List.filter_congr fun table _ => ?_
  by_cases named : table.name = name
  · simp [named, admitted]
  · simp [named]

/-- The admitted tables that are listed are left. -/
theorem agree_tableNames_admittedBy
    (settings : Settings)
    (snapshot : Snapshot)
    (schemas : NameSet) :
    settings.AgreeOnAdmitted
      ((snapshot.admittedBy settings).tableNames schemas)
      (snapshot.tableNames schemas) := by
  intro name admitted
  rw [mem_tableNames_iff, mem_tableNames_iff]
  constructor
  · rintro ⟨table, left, selected, named⟩
    exact ⟨table, (List.mem_filter.mp left).1, selected, named⟩
  · rintro ⟨table, captured, selected, rfl⟩
    exact ⟨table, List.mem_filter.mpr ⟨captured, admitted⟩, selected, rfl⟩

end Snapshot

namespace Settings

/-- Two snapshots give the same result, the same error or the same report, when
they have the same enum rows, list the same admitted tables, and capture the same
tables of each admitted name. -/
theorem run_eq_of_same_admitted
    {settings : Settings}
    {left right : Snapshot}
    (sameRows : left.enumRows settings.schemas =
      right.enumRows settings.schemas)
    (sameListed : settings.AgreeOnAdmitted
      (left.tableNames settings.schemas) (right.tableNames settings.schemas))
    (sameTables : ∀ name, settings.admits name = true ->
      left.tablesNamed name = right.tablesNamed name) :
    settings.run left.toSource = settings.run right.toSource := by
  have sameInputs : settings.snapshotInputs left =
      settings.snapshotInputs right := by
    unfold snapshotInputs
    rw [chosenTables_eq_of_agree sameListed]
    refine List.map_congr_left fun name chosen => ?_
    have admitted := ((settings.mem_chosenTables _ name).mp chosen).2
    rw [Snapshot.columnsNamed_eq_flatMap, sameTables name admitted,
      ← Snapshot.columnsNamed_eq_flatMap]
  rw [run_toSource, run_toSource, validate_eq_of_agree sameListed, sameRows,
    sameInputs]

/-- The order in which tables were captured makes no difference to a run, as long
as tables of one name keep their order. Their columns are joined in this
order. -/
theorem run_eq_of_perm_tables
    (settings : Settings)
    (left right : Snapshot)
    (sameEnums : left.enums = right.enums)
    (reordered : left.tables.Perm right.tables)
    (keepsOrder : ∀ name, left.tablesNamed name = right.tablesNamed name) :
    settings.run left.toSource = settings.run right.toSource := by
  have sameRows : left.enumRows settings.schemas =
      right.enumRows settings.schemas := by
    unfold Snapshot.enumRows
    rw [sameEnums]
  have sameListed : settings.AgreeOnAdmitted
      (left.tableNames settings.schemas)
      (right.tableNames settings.schemas) := by
    intro name _
    simp only [Snapshot.mem_tableNames_iff, reordered.mem_iff]
  exact run_eq_of_same_admitted sameRows sameListed fun name _ =>
    keepsOrder name

/-- A table is moved before another one, and those of one name keep their
order. -/
theorem moved_posts_run_equal :
    let settings : Settings := { casing := .camel }
    let users : CapturedTable := {
      name := "users"
      columns := [{ name := "user_id", dataType := "integer" }]
    }
    let audited : CapturedTable := {
      schema := "audit"
      name := "users"
      columns := [{ name := "userId", dataType := "text" }]
    }
    let posts : CapturedTable := { name := "posts" }
    let left : Snapshot := { tables := [users, posts, audited] }
    let right : Snapshot := { tables := [posts, users, audited] }
    left.tables.Perm right.tables ∧
      (∀ name, left.tablesNamed name = right.tablesNamed name) ∧
      settings.run left.toSource = settings.run right.toSource := by
  intro settings users audited posts left right
  have reordered : left.tables.Perm right.tables :=
    List.Perm.swap posts users [audited]
  have keepsOrder (name : String) :
      left.tablesNamed name = right.tablesNamed name := by
    by_cases named : posts.name = name
    · have other : users.name ≠ name := by
        rw [← named]
        decide
      simp [Snapshot.tablesNamed, left, right, List.filter_cons, other]
    · simp [Snapshot.tablesNamed, left, right, List.filter_cons, named]
  exact ⟨reordered, keepsOrder,
    run_eq_of_perm_tables settings left right rfl reordered keepsOrder⟩

/-- Tables that are not admitted make no difference to a run. -/
theorem run_admittedBy (settings : Settings) (snapshot : Snapshot) :
    settings.run (snapshot.admittedBy settings).toSource =
      settings.run snapshot.toSource :=
  run_eq_of_same_admitted rfl
    (snapshot.agree_tableNames_admittedBy settings settings.schemas)
    (fun _ admitted => snapshot.tablesNamed_admittedBy admitted)

end Settings
end TableTypes
