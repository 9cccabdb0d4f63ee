import TableTypes.Proofs.QueryPlan

/-!
# A snapshot answers every query

A run asks for no more than its plan, and a snapshot answers all of the plan that
is made from its own list of tables. So a run against a snapshot fails only when
its settings are refused.
-/

namespace TableTypes
namespace Settings

/-- Whatever a source answers, a run asks for no more than its plan. -/
theorem queries_trace_isPrefix_plan
    {settings : Settings}
    {source : Source}
    {available : List String}
    (listed : source.tables settings.schemas = .ok available) :
    (settings.trace source).queries <+: settings.plan available := by
  cases validValues : settings.validateValues with
  | error error => simp [trace, validValues]
  | ok _ =>
      cases validTables : settings.validateTables available with
      | error error => simp [trace, validValues, listed, validTables, plan]
      | ok _ =>
          exact (trace_keepsTo validValues listed
            validTables).queries_isPrefix_plan

/-- A snapshot answers the plan that is made from its own tables. The columns of
a chosen table are found because the table was listed. -/
theorem failure?_toSource_of_mem_plan
    {settings : Settings}
    {snapshot : Snapshot}
    {query : Query}
    (planned : query ∈
      settings.plan (snapshot.tableNames settings.schemas)) :
    snapshot.toSource.failure? query = none := by
  rcases List.mem_cons.mp planned with rfl | planned
  · rfl
  rcases List.mem_append.mp planned with ofColumns | ofEnums
  · obtain ⟨table, chosen, rfl⟩ := List.mem_map.mp ofColumns
    have listed := ((settings.mem_chosenTables _ table).mp chosen).1
    exact (failureOf_eq_none_iff _).mpr
      ⟨_, Snapshot.columns_of_mem_tableNames listed⟩
  · rw [List.mem_singleton.mp ofEnums]
    rfl

/-- A run against a snapshot fails exactly when its settings are refused against
the listed tables, and with the same error. Every query that it asks is answered,
so that it fails for no reason of the source: no table is missing whose columns
are asked for. -/
theorem run_toSource_eq_error_iff (settings : Settings) (snapshot : Snapshot) :
    (∀ error, settings.run snapshot.toSource = .error error ↔
      ∃ refusal,
        settings.validate (snapshot.tableNames settings.schemas) =
            .error refusal ∧
          error = .settings refusal) ∧
      (∀ query ∈ (settings.trace snapshot.toSource).queries,
        snapshot.toSource.failure? query = none) ∧
      ∀ failure, settings.run snapshot.toSource ≠ .error (.source failure) := by
  have fails (error : RunError) :
      settings.run snapshot.toSource = .error error ↔
        ∃ refusal,
          settings.validate (snapshot.tableNames settings.schemas) =
              .error refusal ∧
            error = .settings refusal := by
    rw [run_toSource]
    cases settings.validate (snapshot.tableNames settings.schemas) with
    | error refusal => simp [eq_comm]
    | ok _ => simp
  refine ⟨fails, fun query asked => ?_, fun failure failed => ?_⟩
  · exact failure?_toSource_of_mem_plan
      ((queries_trace_isPrefix_plan rfl).subset asked)
  · obtain ⟨refusal, _, equal⟩ := (fails (.source failure)).mp failed
    cases equal

/-- An allowlisted table of a schema that is not read is refused as missing. When
all tables are read, the columns of a table are asked for and found. -/
theorem audited_log_refused :
    let settings : Settings := {
      tableAllowlist := some (NameSet.ofList ["log"])
    }
    let source := crowdedSnapshot.toSource
    settings.validate (crowdedSnapshot.tableNames settings.schemas) =
        .error (.missingTable "log") ∧
      settings.run source = .error (.settings (.missingTable "log")) ∧
      .columns "users" ∈ (({} : Settings).trace source).queries ∧
      source.failure? (.columns "users") = none := by
  intro settings source
  have refused :
      settings.validate (crowdedSnapshot.tableNames settings.schemas) =
        .error (.missingTable "log") := by
    decide +kernel
  have asked : .columns "users" ∈ (({} : Settings).trace source).queries := by
    decide +kernel
  refine ⟨refused, ?_, asked, ?_⟩
  · exact ((run_toSource_eq_error_iff settings crowdedSnapshot).1 _).mpr
      ⟨_, refused, rfl⟩
  · exact (run_toSource_eq_error_iff {} crowdedSnapshot).2.1 _ asked

end Settings
end TableTypes
