import TableTypes.Proofs.Accounting

/-!
# The queries of a run

A run asks by a plan: first for the tables, then for the columns of each chosen
table, last for the enums. Whatever the source answers, a run keeps to its plan
up to the first query that fails, and asks nothing after it.
-/

namespace TableTypes

/-- The error of an outcome that is none of the values. -/
def failureOf : Except ε α -> Option ε
  | .error error => some error
  | .ok _ => none

@[simp] theorem failureOf_error (error : ε) :
    failureOf (.error error : Except ε α) = some error := rfl

@[simp] theorem failureOf_ok (value : α) :
    failureOf (.ok value : Except ε α) = none := rfl

theorem failureOf_eq_none_iff (outcome : Except ε α) :
    failureOf outcome = none ↔ ∃ value, outcome = .ok value := by
  cases outcome with
  | error error => simp
  | ok value => simp

theorem failureOf_eq_some_iff (outcome : Except ε α) (error : ε) :
    failureOf outcome = some error ↔ outcome = .error error := by
  cases outcome with
  | error reported => simp
  | ok value => simp

namespace Source

/-- The error with which a source fails a query, if it does. -/
def failure? (source : Source) : Query -> Option SourceError
  | .tables schemas => failureOf (source.tables schemas)
  | .columns table => failureOf (source.columns table)
  | .enums schemas => failureOf (source.enumRows schemas)

/-- Either a source answers all queries of a plan, or there is a first one that
it fails. -/
theorem answers_or_fails_first (source : Source) (plan : List Query) :
    (∀ query ∈ plan, source.failure? query = none) ∨
      ∃ before query after error,
        plan = before ++ query :: after ∧
          (∀ earlier ∈ before, source.failure? earlier = none) ∧
          source.failure? query = some error := by
  induction plan with
  | nil => exact Or.inl (by simp)
  | cons query rest inductionHypothesis =>
      cases failed : source.failure? query with
      | some error =>
          exact Or.inr ⟨[], query, rest, error, rfl, by simp, failed⟩
      | none =>
          rcases inductionHypothesis with
            answered | ⟨before, later, after, error, rfl, answered, fails⟩
          · exact Or.inl (List.forall_mem_cons.mpr ⟨failed, answered⟩)
          · exact Or.inr ⟨query :: before, later, after, error, rfl,
              List.forall_mem_cons.mpr ⟨failed, answered⟩, fails⟩

end Source

namespace Trace

@[simp] theorem ask_error (query : Query) (error : SourceError) :
    (ask query (.error error) : Trace α) =
      ⟨[query], .error (.source error)⟩ := rfl

/-- A trace keeps to a plan: it asks every query when the source answers them
all, and otherwise it ends at the first query that fails, with its error. -/
structure KeepsTo
    (source : Source)
    (plan : List Query)
    (trace : Trace α) : Prop where
  completes :
    (∀ query ∈ plan, source.failure? query = none) ->
      ∃ value, trace = ⟨plan, .ok value⟩
  stops :
    ∀ before query after error,
      plan = before ++ query :: after ->
      (∀ earlier ∈ before, source.failure? earlier = none) ->
      source.failure? query = some error ->
      trace = ⟨before ++ [query], .error (.source error)⟩

/-! ## One step -/

/-- A value asks for nothing. -/
theorem keepsTo_ok (source : Source) (value : α) :
    KeepsTo source [] (⟨[], .ok value⟩ : Trace α) where
  completes _ := ⟨value, rfl⟩
  stops before query after _ split := by
    simp at split

/-- A question keeps to the plan of its query. -/
theorem keepsTo_ask
    {source : Source}
    {query : Query}
    {answer : Except SourceError α}
    (sameFailure : source.failure? query = failureOf answer) :
    KeepsTo source [query] (ask query answer) where
  completes answered := by
    have succeeds := answered query List.mem_cons_self
    rw [sameFailure] at succeeds
    obtain ⟨value, rfl⟩ := (failureOf_eq_none_iff answer).mp succeeds
    exact ⟨value, rfl⟩
  stops before failed after error split _ fails := by
    obtain ⟨rfl, rfl, rfl⟩ : before = [] ∧ failed = query ∧ after = [] := by
      simpa using List.append_eq_singleton_iff.mp split.symm
    rw [sameFailure] at fails
    rw [(failureOf_eq_some_iff answer error).mp fails]
    rfl

/-- Steps that keep to their plans keep to the joined plan when they follow each
other. -/
theorem KeepsTo.bind
    {source : Source}
    {plan rest : List Query}
    {first : Trace α}
    {next : α -> Trace β}
    (keeps : KeepsTo source plan first)
    (nextKeeps : ∀ value, first.result = .ok value ->
      KeepsTo source rest (next value)) :
    KeepsTo source (plan ++ rest) (first >>= next) where
  completes answered := by
    obtain ⟨inPlan, inRest⟩ := List.forall_mem_append.mp answered
    obtain ⟨value, rfl⟩ := keeps.completes inPlan
    obtain ⟨last, asked⟩ := (nextKeeps value rfl).completes inRest
    exact ⟨last, by rw [mk_ok_bind, asked]⟩
  stops before query after error split answered fails := by
    -- The query that fails is one of the first step or one of the second.
    rcases List.append_eq_append_iff.mp split with
      ⟨beforeInRest, rfl, inRest⟩ | ⟨remaining, rfl, inPlan⟩
    · obtain ⟨planAnswered, restAnswered⟩ := List.forall_mem_append.mp answered
      obtain ⟨value, rfl⟩ := keeps.completes planAnswered
      have stopped := (nextKeeps value rfl).stops
        beforeInRest query after error inRest restAnswered fails
      rw [mk_ok_bind, stopped, List.append_assoc]
    · cases remaining with
      | nil =>
          rw [List.append_nil] at keeps
          obtain ⟨value, rfl⟩ := keeps.completes answered
          have stopped := (nextKeeps value rfl).stops
            [] query after error inPlan.symm (by simp) fails
          rw [mk_ok_bind, stopped, List.nil_append]
      | cons head tail =>
          obtain ⟨rfl, _⟩ := List.cons.inj inPlan
          have stopped :=
            keeps.stops before query tail error rfl answered fails
          rw [stopped, mk_error_bind]

/-- A trace keeps to its plan when its value is put into another form. -/
theorem KeepsTo.bind_pure
    {source : Source}
    {plan : List Query}
    {trace : Trace α}
    (keeps : KeepsTo source plan trace)
    (form : α -> β) :
    KeepsTo source plan (trace >>= fun value => pure (form value)) := by
  have joined := keeps.bind fun value _ => keepsTo_ok source (form value)
  rwa [List.append_nil] at joined

/-- The queries of a trace that keeps to a plan are a beginning of the plan. -/
theorem KeepsTo.queries_isPrefix_plan
    {source : Source}
    {plan : List Query}
    {trace : Trace α}
    (keeps : KeepsTo source plan trace) :
    trace.queries <+: plan := by
  rcases source.answers_or_fails_first plan with
    answered | ⟨before, query, after, error, split, answered, fails⟩
  · obtain ⟨value, rfl⟩ := keeps.completes answered
    exact List.prefix_rfl
  · rw [keeps.stops before query after error split answered fails, split]
    exact ⟨after, by simp⟩

end Trace

/-! ## A whole run -/

namespace Source

/-- The columns of tables are asked for in turn. -/
theorem loadTables_keepsTo (source : Source) (tables : List String) :
    (source.loadTables tables).KeepsTo source (tables.map Query.columns) := by
  induction tables with
  | nil => exact Trace.keepsTo_ok source []
  | cons table rest inductionHypothesis =>
      have asked : (Trace.ask (.columns table) (source.columns table)).KeepsTo
          source [.columns table] := Trace.keepsTo_ask rfl
      exact asked.bind fun columns _ =>
        inductionHypothesis.bind_pure fun tables => ⟨table, columns⟩ :: tables

end Source

namespace Settings

/-- The queries of a run whose source lists the given tables and fails no
query. -/
def plan (settings : Settings) (available : List String) : List Query :=
  .tables settings.schemas ::
    ((settings.chosenTables available).map Query.columns
      ++ [.enums settings.schemas])

/-- No query is planned twice, so it does not matter whether a source would
repeat its answers. -/
theorem nodup_plan (settings : Settings) (available : List String) :
    (settings.plan available).Nodup := by
  have distinctColumns :
      ((settings.chosenTables available).map Query.columns).Nodup :=
    (nodup_chosenTables settings available).map fun _ _ => Query.columns.inj
  refine List.nodup_cons.mpr ⟨by simp, List.nodup_append.mpr
    ⟨distinctColumns, by simp, ?_⟩⟩
  intro query ofColumns last ofEnums equal
  obtain ⟨table, _, rfl⟩ := List.mem_map.mp ofColumns
  rw [List.mem_singleton.mp ofEnums] at equal
  cases equal

/-- A run whose settings are accepted keeps to its plan. -/
theorem trace_keepsTo
    {settings : Settings}
    {source : Source}
    {available : List String}
    (validValues : settings.validateValues = .ok ())
    (listed : source.tables settings.schemas = .ok available)
    (validTables : settings.validateTables available = .ok ()) :
    (settings.trace source).KeepsTo source (settings.plan available) := by
  have askTables : (Trace.ask (.tables settings.schemas)
      (source.tables settings.schemas)).KeepsTo source
        [.tables settings.schemas] := Trace.keepsTo_ask rfl
  have askEnums : (Trace.ask (.enums settings.schemas)
      (source.enumRows settings.schemas)).KeepsTo source
        [.enums settings.schemas] := Trace.keepsTo_ask rfl
  have load := source.loadTables_keepsTo (settings.chosenTables available)
  unfold trace
  rw [validValues, Trace.check_ok]
  refine (Trace.keepsTo_ok source ()).bind fun _ _ => ?_
  refine askTables.bind fun answer answered => ?_
  obtain rfl : available = answer := by
    rw [listed] at answered
    cases answered
    rfl
  rw [validTables, Trace.check_ok]
  refine (Trace.keepsTo_ok source ()).bind fun _ _ => ?_
  refine load.bind fun inputs _ => ?_
  exact askEnums.bind_pure fun rows => settings.generate rows inputs

/-- A run whose source answers everything it is asked generates from the
answers. -/
theorem trace_eq_of_answers
    {settings : Settings}
    {source : Source}
    {available : List String}
    {rows : List EnumRow}
    (columns : String -> List Column)
    (validValues : settings.validateValues = .ok ())
    (listed : source.tables settings.schemas = .ok available)
    (validTables : settings.validateTables available = .ok ())
    (loaded : ∀ table ∈ settings.chosenTables available,
      source.columns table = .ok (columns table))
    (enumerated : source.enumRows settings.schemas = .ok rows) :
    settings.trace source =
      ⟨settings.plan available,
        .ok (settings.generate rows
          ((settings.chosenTables available).map fun table =>
            ⟨table, columns table⟩))⟩ := by
  have inputs := source.loadTables_eq_of_columns columns _ loaded
  simp [trace, validValues, listed, validTables, inputs, enumerated, plan]

/-- A run is refused without a query when its settings alone are. Otherwise it
asks for the tables, and when these are listed and the allowlist fits them, it
asks for the columns of each chosen table, in ascending order and once, and for
the enums. It stops at the first query that fails, with its error, and when none
does it generates from all answers. -/
theorem trace_follows_plan (settings : Settings) (source : Source) :
    (∀ error, settings.validateValues = .error error ->
      settings.trace source = ⟨[], .error (.settings error)⟩) ∧
    (settings.validateValues = .ok () ->
      (∀ error, source.tables settings.schemas = .error error ->
        settings.trace source =
          ⟨[.tables settings.schemas], .error (.source error)⟩) ∧
      ∀ available, source.tables settings.schemas = .ok available ->
        (settings.chosenTables available).Pairwise (· < ·) ∧
        (settings.plan available).Nodup ∧
        (settings.trace source).queries <+: settings.plan available ∧
        (∀ error, settings.validateTables available = .error error ->
          settings.trace source =
            ⟨[.tables settings.schemas], .error (.settings error)⟩) ∧
        (settings.validateTables available = .ok () ->
          (∀ before query after error,
            settings.plan available = before ++ query :: after ->
            (∀ earlier ∈ before, source.failure? earlier = none) ->
            source.failure? query = some error ->
            settings.trace source =
              ⟨before ++ [query], .error (.source error)⟩) ∧
          ((∀ query ∈ settings.plan available,
              source.failure? query = none) ->
            ∃ rows, ∃ columns : String -> List Column,
              source.enumRows settings.schemas = .ok rows ∧
              (∀ table ∈ settings.chosenTables available,
                source.columns table = .ok (columns table)) ∧
              settings.trace source =
                ⟨settings.plan available,
                  .ok (settings.generate rows
                    ((settings.chosenTables available).map fun table =>
                      ⟨table, columns table⟩))⟩))) := by
  refine ⟨fun error refused => by simp [trace, refused],
    fun validValues => ⟨fun error failed => ?_, fun available listed => ?_⟩⟩
  · simp [trace, validValues, failed]
  · have refusal (error : SettingsError)
        (refused : settings.validateTables available = .error error) :
        settings.trace source =
          ⟨[.tables settings.schemas], .error (.settings error)⟩ := by
      simp [trace, validValues, listed, refused]
    refine ⟨settings.pairwise_chosenTables available,
      settings.nodup_plan available, ?_, refusal, fun validTables => ?_⟩
    · cases validTables : settings.validateTables available with
      | error error =>
          rw [refusal error validTables]
          exact List.prefix_append [Query.tables settings.schemas] _
      | ok _ =>
          exact (trace_keepsTo validValues listed
            validTables).queries_isPrefix_plan
    · refine ⟨(trace_keepsTo validValues listed validTables).stops,
        fun answered => ?_⟩
      obtain ⟨rows, enumerated⟩ := (failureOf_eq_none_iff _).mp
        (answered (.enums settings.schemas) (by simp [plan]))
      have loaded : ∀ table ∈ settings.chosenTables available,
          source.columns table =
            .ok ((source.columns table).toOption.getD []) := by
        intro table chosen
        have planned : Query.columns table ∈ settings.plan available :=
          List.mem_cons_of_mem _ (List.mem_append_left _
            (List.mem_map_of_mem chosen))
        obtain ⟨columns, succeeds⟩ :=
          (failureOf_eq_none_iff _).mp (answered (.columns table) planned)
        rw [succeeds]
        rfl
      exact ⟨rows, _, enumerated, loaded,
        trace_eq_of_answers _ validValues listed validTables loaded enumerated⟩

end Settings
end TableTypes
