import TableTypes.Host
import TableTypes.Proofs.SnapshotRun

/-!
# The output file

The program stores its output only when every column has its field. A run that fails
for any other reason than the storing leaves all files as they were, and its error
stream tells each column that has no field before it tells why the program failed.
-/

namespace TableTypes

/-- The result of a report without errors is its output. -/
theorem Report.toResult_of_complete {report : Report} (complete : report.errors = []) :
    report.toResult = .ok report.output := by
  simp [toResult, isComplete, complete]

namespace CommandLine

/-- The casing that the arguments ask for, unless they name one that does not
exist. -/
def casing? (arguments : List String) : Option Casing :=
  match arguments[2]? with
  | none => some .pascal
  | some text => Casing.ofText? text

/-- The snapshot that the arguments ask for, unless its file cannot be read as one. -/
def snapshot?
    (arguments : List String)
    (read : String -> Except FileError ByteArray) : Option Snapshot :=
  match arguments[0]? with
  | none => some sampleSnapshot
  | some path => (Snapshot.ofFile (read path)).toOption

/-- The arguments ask for a casing that exists and a snapshot that can be read, and the
run of the snapshot has this report. -/
def Reports
    (arguments : List String)
    (read : String -> Except FileError ByteArray)
    (report : Report) : Prop :=
  ∃ casing snapshot,
    casing? arguments = some casing ∧
      snapshot? arguments read = some snapshot ∧
      ({ casing, textMinLength := some 1 } : Settings).run snapshot.toSource =
        .ok report

/-- The arguments have one report. -/
theorem reports_unique
    {arguments : List String}
    {read : String -> Except FileError ByteArray}
    {report other : Report}
    (reported : Reports arguments read report)
    (otherReported : Reports arguments read other) :
    report = other := by
  obtain ⟨casing, snapshot, named, captured, ran⟩ := reported
  obtain ⟨otherCasing, otherSnapshot, otherNamed, otherCaptured, otherRan⟩ :=
    otherReported
  cases named.symm.trans otherNamed
  cases captured.symm.trans otherCaptured
  cases ran.symm.trans otherRan
  rfl

/-! ## The outcome of the command line -/

section Outcome

variable
  {arguments : List String}
  {read : String -> Except FileError ByteArray}

/-- Arguments whose casing exists are understood. -/
theorem ofArguments_of_casing?_eq_some
    {casing : Casing}
    (named : casing? arguments = some casing) :
    Request.ofArguments arguments =
      .ok ⟨arguments[0]?, arguments[1]?, { casing, textMinLength := some 1 }⟩ := by
  unfold casing? at named
  unfold Request.ofArguments
  cases given : arguments[2]? with
  | none =>
      rw [given] at named
      cases named
      rfl
  | some text =>
      rw [given] at named
      have known : Casing.ofText? text = some casing := named
      simp only [Casing.ofText, known]

/-- Arguments whose casing does not exist are refused. -/
theorem ofArguments_of_casing?_eq_none (unnamed : casing? arguments = none) :
    ∃ error, Request.ofArguments arguments = .error error := by
  unfold casing? at unnamed
  unfold Request.ofArguments
  cases given : arguments[2]? with
  | none =>
      rw [given] at unnamed
      cases unnamed
  | some text =>
      rw [given] at unnamed
      have unknown : Casing.ofText? text = none := unnamed
      exact ⟨.unknownCasing text, by simp only [Casing.ofText, unknown]⟩

/-- A file that holds a snapshot is run like the snapshot. -/
theorem runFile_of_ofFile_eq_ok
    (settings : Settings)
    {content : Except FileError ByteArray}
    {snapshot : Snapshot}
    (captured : Snapshot.ofFile content = .ok snapshot) :
    settings.runFile content = settings.run snapshot.toSource := by
  unfold Snapshot.ofFile at captured
  unfold Settings.runFile
  cases content with
  | error error => cases captured
  | ok bytes =>
      cases decoded : decodeText bytes with
      | error error => simp [decoded] at captured
      | ok document =>
          simp only [decoded] at captured
          simp only [decoded, Settings.runDocument, captured]

/-- A file that holds no snapshot is not run. -/
theorem runFile_of_ofFile_eq_error
    (settings : Settings)
    {content : Except FileError ByteArray}
    {refusal : SourceError}
    (refused : Snapshot.ofFile content = .error refusal) :
    ∃ error, settings.runFile content = .error error := by
  unfold Snapshot.ofFile at refused
  unfold Settings.runFile
  cases content with
  | error error => exact ⟨.file error, rfl⟩
  | ok bytes =>
      cases decoded : decodeText bytes with
      | error error => exact ⟨.file error, by simp only [decoded]⟩
      | ok document =>
          simp only [decoded] at refused
          exact ⟨.source refusal, by
            simp only [decoded, Settings.runDocument, refused]⟩

/-- What is asked for has a report exactly when the arguments have one. -/
theorem run_eq_ok_iff_reports
    {casing : Casing}
    (named : casing? arguments = some casing)
    (report : Report) :
    Request.run ⟨arguments[0]?, arguments[1]?, { casing, textMinLength := some 1 }⟩
        read = .ok report ↔
      Reports arguments read report := by
  have alternatives : Reports arguments read report ↔
      ∃ snapshot, snapshot? arguments read = some snapshot ∧
        ({ casing, textMinLength := some 1 } : Settings).run snapshot.toSource =
          .ok report := by
    simp [Reports, named]
  rw [alternatives]
  unfold Request.run snapshot?
  cases given : arguments[0]? with
  | none => simp
  | some path =>
      cases captured : Snapshot.ofFile (read path) with
      | error refusal =>
          obtain ⟨error, fails⟩ := runFile_of_ofFile_eq_error
            { casing, textMinLength := some 1 } captured
          simp [fails, Except.toOption, captured]
      | ok snapshot =>
          simp [runFile_of_ofFile_eq_ok _ captured, Except.toOption, captured]

/-- With a report the program goes on to store it or to print it. -/
theorem execute_of_reports
    {report : Report}
    (reported : Reports arguments read report)
    (write : String -> String -> Except FileError Unit) :
    execute arguments read write =
      match arguments[1]? with
      | none => printReport report
      | some path => storeReport report path write := by
  obtain ⟨casing, named⟩ : ∃ casing, casing? arguments = some casing :=
    reported.imp fun _ asked => asked.choose_spec.1
  have runs := (run_eq_ok_iff_reports named report).mpr reported
  rw [execute, ofArguments_of_casing?_eq_some named]
  cases target : arguments[1]? with
  | none =>
      rw [target] at runs
      simp only [runs]
  | some path =>
      rw [target] at runs
      simp only [runs]

/-- Without a report the program fails, and whether a file can be stored plays no
part. -/
theorem execute_of_not_reports
    (unreported : ∀ report, ¬Reports arguments read report) :
    ∃ message, ∀ write,
      execute arguments read write = Outcome.failure "" message := by
  unfold execute
  cases named : casing? arguments with
  | none =>
      obtain ⟨error, refused⟩ := ofArguments_of_casing?_eq_none named
      exact ⟨error.message, fun write => by rw [refused]⟩
  | some casing =>
      rw [ofArguments_of_casing?_eq_some named]
      cases ran : Request.run ⟨arguments[0]?, arguments[1]?,
          { casing, textMinLength := some 1 }⟩ read with
      | error error => exact ⟨error.message, fun write => by simp only [ran]⟩
      | ok report =>
          exact absurd ((run_eq_ok_iff_reports named report).mp ran)
            (unreported report)

/-- Of the files the program reads no other than that of the snapshot. -/
theorem execute_congr
    {other : String -> Except FileError ByteArray}
    (same : ∀ path, arguments[0]? = some path -> other path = read path)
    (write : String -> String -> Except FileError Unit) :
    execute arguments other write = execute arguments read write := by
  unfold execute
  cases named : casing? arguments with
  | none =>
      obtain ⟨error, refused⟩ := ofArguments_of_casing?_eq_none named
      rw [refused]
  | some casing =>
      rw [ofArguments_of_casing?_eq_some named]
      have sameRun : Request.run ⟨arguments[0]?, arguments[1]?,
            { casing, textMinLength := some 1 }⟩ other =
          Request.run ⟨arguments[0]?, arguments[1]?,
            { casing, textMinLength := some 1 }⟩ read := by
        unfold Request.run
        cases given : arguments[0]? with
        | none => rfl
        | some path =>
            change Settings.runFile _ (other path) = _
            rw [same path given]
      simp only [sameRun]

/-- The error stream tells each column that has no field, and after them the reason of
a failure. -/
def TellsErrors (report : Report) (outcome : Outcome) : Prop :=
  ∃ ending, outcome.standardError = errorLines report ++ ending ∧
    (outcome.succeeds = true -> ending = "") ∧
    (outcome.succeeds = false -> ∃ message, ending = "Error: " ++ message ++ "\n")

theorem tellsErrors_of_success
    {report : Report}
    {outcome : Outcome}
    (complete : report.errors = [])
    (succeeds : outcome.succeeds = true)
    (silent : outcome.standardError = "") :
    TellsErrors report outcome := by
  refine ⟨"", ?_, fun _ => rfl, fun fails => ?_⟩
  · rw [silent, errorLines, complete]
    rfl
  · rw [succeeds] at fails
    cases fails

theorem tellsErrors_of_failure
    {report : Report}
    {outcome : Outcome}
    {message : String}
    (fails : outcome.succeeds = false)
    (told : outcome.standardError =
      (Outcome.failure (errorLines report) message).standardError) :
    TellsErrors report outcome := by
  refine ⟨"Error: " ++ message ++ "\n", ?_, fun succeeds => ?_, fun _ => ⟨message, rfl⟩⟩
  · simp only [told, Outcome.failure, String.append_assoc]
  · rw [fails] at succeeds
    cases succeeds

/-- A report without errors is printed with success. -/
theorem printReport_of_complete {report : Report} (complete : report.errors = []) :
    printReport report = { succeeds := true, standardOutput := report.output } := by
  simp [printReport, Report.isComplete, complete]

/-- A report with errors is printed all the same, and fails the program. -/
theorem printReport_of_incomplete {report : Report} (incomplete : report.errors ≠ []) :
    printReport report =
      { Outcome.failure (errorLines report)
          (Nat.repr report.errors.length ++ " column(s) could not be resolved") with
        standardOutput := report.output } := by
  simp [printReport, Report.isComplete, incomplete]

/-- Printing a report stores nothing. -/
theorem written_printReport (report : Report) :
    (printReport report).written = none := by
  unfold printReport
  split <;> rfl

/-- A report with errors is not stored, however storing would end. -/
theorem storeReport_of_incomplete
    {report : Report}
    (incomplete : report.errors ≠ [])
    (path : String)
    (write : String -> String -> Except FileError Unit) :
    storeReport report path write =
      Outcome.failure (errorLines report)
        (RunError.resolution report.errors).message := by
  simp [storeReport, Report.store, Report.toResult, Report.isComplete, incomplete]

/-- A report without errors is stored when it can be. -/
theorem storeReport_of_stored
    {report : Report}
    (complete : report.errors = [])
    (path : String)
    {write : String -> String -> Except FileError Unit}
    (stored : write path report.output = .ok ()) :
    storeReport report path write =
      { succeeds := true, written := some (path, report.output) } := by
  simp [storeReport, Report.store, Report.toResult, Report.isComplete, complete, stored]

/-- A report without errors that cannot be stored fails the program. -/
theorem storeReport_of_not_stored
    {report : Report}
    (complete : report.errors = [])
    (path : String)
    {write : String -> String -> Except FileError Unit}
    {error : FileError}
    (failed : write path report.output = .error error) :
    storeReport report path write =
      Outcome.failure (errorLines report) (RunError.file error).message := by
  simp [storeReport, Report.store, Report.toResult, Report.isComplete, complete, failed]

end Outcome

end CommandLine

/-- The files of a host: what reading a path gives, and what storing a text under a
path does. A text that was stored is read back. -/
structure FileStore (σ : Type) where
  read : σ -> String -> Except FileError ByteArray
  write : σ -> String -> String -> Except FileError Unit × σ
  read_write : ∀ files path text, (write files path text).1 = .ok () ->
    read (write files path text).2 path = .ok text.toUTF8

/-- The state of a host: its files, and what was printed on its two streams. -/
structure HostState (σ : Type) where
  files : σ
  output : String
  errorOutput : String

namespace HostState

/-- The status of an outcome, and the state after it was printed. -/
def finish (state : HostState σ) (outcome : CommandLine.Outcome) : UInt32 × HostState σ :=
  (UInt32.ofNat outcome.exitCode,
    {
      files := state.files
      output := state.output ++ outcome.standardOutput
      errorOutput := state.errorOutput ++ outcome.standardError
    })

/-- The status is 0 exactly for a success. -/
theorem finish_status_eq_zero_iff
    (state : HostState σ)
    (outcome : CommandLine.Outcome) :
    (state.finish outcome).1 = 0 ↔ outcome.succeeds = true := by
  rw [finish, CommandLine.Outcome.exitCode]
  cases outcome.succeeds <;> simp

end HostState

namespace FileStore

/-- The host that has the files of a store. -/
def host (store : FileStore σ) : Host (StateM (HostState σ)) where
  readFile path := do return store.read (← get).files path
  writeFile path text := modifyGet fun state =>
    let (stored, files) := store.write state.files path text
    (stored, { state with files })
  print text := modify fun state => { state with output := state.output ++ text }
  printError text :=
    modify fun state => { state with errorOutput := state.errorOutput ++ text }

/-- The status with which the program ends, and the state in which it leaves its
host. -/
def runProgram
    (store : FileStore σ)
    (arguments : List String)
    (state : HostState σ) : UInt32 × HostState σ :=
  ((store.host.run arguments).run state).run

/-! ## The run of the program -/

section Run

variable
  (store : FileStore σ)
  {arguments : List String}
  {state : HostState σ}

/-- The status and the state with which an outcome is delivered. The outcome of a
successful storing tells whether anything is stored at all. -/
def deliver
    (outcomeWith : Except FileError Unit -> CommandLine.Outcome)
    (state : HostState σ) : UInt32 × HostState σ :=
  match (outcomeWith (.ok ())).written with
  | none => state.finish (outcomeWith (.ok ()))
  | some (path, text) =>
      let (stored, files) := store.write state.files path text
      { state with files }.finish (outcomeWith stored)

theorem run_deliver
    (outcomeWith : Except FileError Unit -> CommandLine.Outcome)
    (state : HostState σ) :
    (store.host.deliver outcomeWith).run state = store.deliver outcomeWith state := by
  unfold Host.deliver deliver
  cases (outcomeWith (.ok ())).written with
  | none => rfl
  | some file => rfl

/-- The program delivers the outcome of its command line. -/
theorem runProgram_eq (arguments : List String) (state : HostState σ) :
    store.runProgram arguments state =
      store.deliver (fun stored =>
        CommandLine.execute arguments (store.read state.files) fun _ _ => stored)
        state := by
  rw [← run_deliver, runProgram, Host.run]
  cases given : arguments[0]? with
  | none =>
      have sameOutcome (stored : Except FileError Unit) :
          CommandLine.execute arguments (fun _ => .error .notFound)
              (fun _ _ => stored) =
            CommandLine.execute arguments (store.read state.files)
              fun _ _ => stored :=
        CommandLine.execute_congr (by simp [given]) _
      simp only [← sameOutcome]
      rfl
  | some path =>
      have sameOutcome (stored : Except FileError Unit) :
          CommandLine.execute arguments (fun _ => store.read state.files path)
              (fun _ _ => stored) =
            CommandLine.execute arguments (store.read state.files)
              fun _ _ => stored :=
        CommandLine.execute_congr (by simp [given]) _
      simp only [← sameOutcome]
      rfl

/-- Without a report the program fails and no file changes. -/
theorem runProgram_of_not_reports
    (unreported : ∀ report,
      ¬CommandLine.Reports arguments (store.read state.files) report) :
    ∃ message, store.runProgram arguments state =
      state.finish (CommandLine.Outcome.failure "" message) := by
  obtain ⟨message, fails⟩ := CommandLine.execute_of_not_reports unreported
  refine ⟨message, ?_⟩
  simp only [runProgram_eq, fails]
  rfl

variable
  {report : Report}
  (reported : CommandLine.Reports arguments (store.read state.files) report)

include reported

/-- Without an output file the report is printed and no file changes. -/
theorem runProgram_of_printed (printed : arguments[1]? = none) :
    store.runProgram arguments state =
      state.finish (CommandLine.printReport report) := by
  have outcome (stored : Except FileError Unit) :=
    CommandLine.execute_of_reports reported fun _ _ => stored
  simp only [printed] at outcome
  simp only [runProgram_eq, outcome, deliver, CommandLine.written_printReport]

/-- A report with errors is not stored, and no file changes. -/
theorem runProgram_of_incomplete
    {path : String}
    (given : arguments[1]? = some path)
    (incomplete : report.errors ≠ []) :
    store.runProgram arguments state =
      state.finish (CommandLine.Outcome.failure (CommandLine.errorLines report)
        (RunError.resolution report.errors).message) := by
  have outcome (stored : Except FileError Unit) :=
    CommandLine.execute_of_reports reported fun _ _ => stored
  simp only [given, CommandLine.storeReport_of_incomplete incomplete] at outcome
  simp only [runProgram_eq, outcome]
  rfl

/-- A report without errors is stored, and the program succeeds when that does. -/
theorem runProgram_of_complete
    {path : String}
    (given : arguments[1]? = some path)
    (complete : report.errors = []) :
    store.runProgram arguments state =
      let (stored, files) := store.write state.files path report.output
      { state with files }.finish
        (CommandLine.storeReport report path fun _ _ => stored) := by
  have outcome (stored : Except FileError Unit) :=
    CommandLine.execute_of_reports reported fun _ _ => stored
  simp only [given] at outcome
  have planned : CommandLine.storeReport report path (fun _ _ => .ok ()) =
      { succeeds := true, written := some (path, report.output) } :=
    CommandLine.storeReport_of_stored complete path rfl
  simp only [runProgram_eq, outcome, deliver, planned]

end Run

/-- A report comes to its end with an outcome and files: the outcome is a success when
the report has no errors and is printed or stored, and it tells the errors before the
reason of a failure. -/
structure Concludes
    (store : FileStore σ)
    (arguments : List String)
    (state : HostState σ)
    (report : Report)
    (outcome : CommandLine.Outcome)
    (files : σ) : Prop where
  succeeds_iff : outcome.succeeds = true ↔
    report.errors = [] ∧ ∀ path, arguments[1]? = some path ->
      (store.write state.files path report.output).1 = .ok ()
  filesKept : report.errors ≠ [] -> files = state.files
  fileStored : ∀ path, arguments[1]? = some path -> outcome.succeeds = true ->
    store.read files path = .ok report.output.toUTF8
  errorsTold : CommandLine.TellsErrors report outcome
  outputPrinted : arguments[1]? = none -> outcome.standardOutput = report.output

/-- A program that has a report ends with an outcome of the report. -/
theorem exists_concludes
    (store : FileStore σ)
    {arguments : List String}
    {state : HostState σ}
    {report : Report}
    (reported : CommandLine.Reports arguments (store.read state.files) report) :
    ∃ outcome files,
      store.runProgram arguments state = { state with files }.finish outcome ∧
        store.Concludes arguments state report outcome files := by
  cases given : arguments[1]? with
  | none =>
      refine ⟨CommandLine.printReport report, state.files,
        store.runProgram_of_printed reported given, ?_⟩
      by_cases complete : report.errors = []
      · rw [CommandLine.printReport_of_complete complete]
        constructor
        case succeeds_iff => simp [complete, given]
        case filesKept => simp
        case fileStored => simp [given]
        case errorsTold => exact CommandLine.tellsErrors_of_success complete rfl rfl
        case outputPrinted => simp
      · rw [CommandLine.printReport_of_incomplete complete]
        constructor
        case succeeds_iff => simp [CommandLine.Outcome.failure, complete]
        case filesKept => simp
        case fileStored => simp [given]
        case errorsTold => exact CommandLine.tellsErrors_of_failure rfl rfl
        case outputPrinted => simp
  | some path =>
      by_cases complete : report.errors = []
      · have ends := store.runProgram_of_complete reported given complete
        refine ⟨_, _, ends, ?_⟩
        cases stored : (store.write state.files path report.output).1 with
        | ok done =>
            rw [CommandLine.storeReport_of_stored complete path rfl]
            constructor
            case succeeds_iff => simp [complete, given, stored]
            case filesKept => simp [complete]
            case fileStored =>
              rintro _ same -
              cases given.symm.trans same
              exact store.read_write state.files path report.output stored
            case errorsTold => exact CommandLine.tellsErrors_of_success complete rfl rfl
            case outputPrinted => simp [given]
        | error error =>
            rw [CommandLine.storeReport_of_not_stored complete path rfl]
            constructor
            case succeeds_iff => simp [CommandLine.Outcome.failure, given, stored]
            case filesKept => simp [complete]
            case fileStored => simp [CommandLine.Outcome.failure]
            case errorsTold => exact CommandLine.tellsErrors_of_failure rfl rfl
            case outputPrinted => simp [given]
      · refine ⟨_, state.files, store.runProgram_of_incomplete reported given complete,
          ?_⟩
        constructor
        case succeeds_iff => simp [CommandLine.Outcome.failure, complete]
        case filesKept => simp
        case fileStored => simp [CommandLine.Outcome.failure]
        case errorsTold => exact CommandLine.tellsErrors_of_failure rfl rfl
        case outputPrinted => simp [given]

/-- The program ends with status 0 exactly when it has a report without errors that it
prints or stores. Unless the report is without errors all files stay as they were, and
after a success the output file holds the text of the report. Each error of a report is
told on the error stream, before the reason of a failure, and without an output file
the text is printed whether the report has errors or not. -/
theorem runProgram_stores_complete_reports
    (store : FileStore σ)
    (arguments : List String)
    (state : HostState σ) :
    let reports := CommandLine.Reports arguments (store.read state.files)
    let status := (store.runProgram arguments state).1
    let after := (store.runProgram arguments state).2
    (status = 0 ↔ ∃ report, reports report ∧ report.errors = [] ∧
      ∀ path, arguments[1]? = some path ->
        (store.write state.files path report.output).1 = .ok ()) ∧
    ((∀ report, reports report -> report.errors ≠ []) ->
      after.files = state.files) ∧
    (∀ path, arguments[1]? = some path -> status = 0 ->
      ∃ report, reports report ∧ report.toResult = .ok report.output ∧
        store.read after.files path = .ok report.output.toUTF8) ∧
    ∀ report, reports report ->
      (∃ ending,
        after.errorOutput = state.errorOutput
          ++ String.join (report.errors.map fun error =>
            "error at " ++ error.table ++ "." ++ error.column ++ ": "
              ++ error.message ++ "\n")
          ++ ending ∧
        (status = 0 -> ending = "") ∧
        (status ≠ 0 -> ∃ message, ending = "Error: " ++ message ++ "\n")) ∧
      (arguments[1]? = none -> after.output = state.output ++ report.output) := by
  intro reports status after
  by_cases reported : ∃ report, reports report
  · obtain ⟨report, reported⟩ := reported
    have only (other : Report) : reports other ↔ other = report :=
      ⟨fun otherReported => CommandLine.reports_unique otherReported reported,
        fun same => same ▸ reported⟩
    obtain ⟨outcome, files, ends, concludes⟩ := store.exists_concludes reported
    have statusZero : status = 0 ↔ outcome.succeeds = true := by
      simp only [status, ends, HostState.finish_status_eq_zero_iff]
    obtain ⟨ending, told, success, failure⟩ := concludes.errorsTold
    simp only [only, exists_eq_left, forall_eq]
    refine ⟨statusZero.trans concludes.succeeds_iff, fun incomplete => ?_,
      fun path given zero => ?_, ⟨ending, ?_, fun zero => success (statusZero.mp zero),
        fun nonzero => failure ?_⟩, fun unstored => ?_⟩
    · simp only [after, ends]
      exact concludes.filesKept incomplete
    · have succeeds := statusZero.mp zero
      refine ⟨Report.toResult_of_complete (concludes.succeeds_iff.mp succeeds).1, ?_⟩
      simp only [after, ends]
      exact concludes.fileStored path given succeeds
    · simp only [after, ends, HostState.finish, told]
      exact (String.append_assoc).symm
    · rw [Ne, statusZero, Bool.not_eq_true] at nonzero
      exact nonzero
    · simp only [after, ends, HostState.finish, concludes.outputPrinted unstored]
  · have unreported : ∀ report, ¬reports report := not_exists.mp reported
    obtain ⟨message, ends⟩ := store.runProgram_of_not_reports unreported
    have statusNonzero : status ≠ 0 := by
      simp [status, ends, HostState.finish_status_eq_zero_iff,
        CommandLine.Outcome.failure]
    simp only [unreported, false_and, exists_false, iff_false]
    refine ⟨statusNonzero, fun _ => ?_, fun _ _ zero => statusNonzero zero,
      fun _ absent => absent.elim⟩
    simp only [after, ends, HostState.finish]

/-- Files in memory, of which any can be stored. -/
def inMemory : FileStore (String -> Option ByteArray) where
  read files path :=
    match files path with
    | none => .error .notFound
    | some bytes => .ok bytes
  write files path text :=
    (.ok (), fun other => if other = path then some text.toUTF8 else files other)
  read_write files path text _ := by simp

/-- A column of an unknown type keeps the output file from being stored, and a snapshot
without such a column is stored. -/
theorem hstore_column_not_stored :
    let state (document : String) : HostState (String -> Option ByteArray) :=
      ⟨fun path => if path = "snapshot.json" then some document.toUTF8 else none, "", ""⟩
    let arguments := ["snapshot.json", "out.ts", "camel"]
    let failing := state
      "\x7b\"tables\":[\x7b\"name\":\"t\",\"columns\":[\x7b\"name\":\"a\",\"data_type\":\"hstore\"\x7d]\x7d]\x7d"
    let succeeding := state "\x7b\"tables\":[]\x7d"
    (inMemory.runProgram arguments failing).2.files = failing.files ∧
      (inMemory.runProgram arguments failing).1 ≠ 0 ∧
      (inMemory.runProgram arguments succeeding).1 = 0 ∧
      ∃ report, CommandLine.Reports arguments (inMemory.read succeeding.files) report ∧
        inMemory.read (inMemory.runProgram arguments succeeding).2.files "out.ts" =
          .ok report.output.toUTF8 := by
  intro state arguments failing succeeding
  have cased : CommandLine.casing? arguments = some .camel := by decide +kernel
  have failed : ∀ report,
      CommandLine.Reports arguments (inMemory.read failing.files) report ->
        report.errors ≠ [] := by
    rintro report ⟨_, _, named, captured, ran⟩ complete
    let snapshot : Snapshot :=
      { tables := [{ name := "t", columns := [{ name := "a", dataType := "hstore" }] }] }
    have hasError :
        (({ casing := .camel, textMinLength := some 1 } : Settings).run
          snapshot.toSource).toOption.map Report.isComplete = some false := by
      decide +kernel
    have holds : CommandLine.snapshot? arguments (inMemory.read failing.files) =
        some snapshot := by
      decide +kernel
    cases named.symm.trans cased
    rw [← Option.some.inj (captured.symm.trans holds), ran] at hasError
    simp [Except.toOption, Report.isComplete, complete] at hasError
  have reported : ∃ report,
      CommandLine.Reports arguments (inMemory.read succeeding.files) report ∧
        report.errors = [] := by
    have holds : CommandLine.snapshot? arguments (inMemory.read succeeding.files) =
        some {} := by
      decide +kernel
    exact ⟨({ casing := .camel, textMinLength := some 1 } : Settings).generate [] [],
      ⟨.camel, {}, cased, holds, Settings.run_toSource _ _⟩, rfl⟩
  have ofFailing := runProgram_stores_complete_reports inMemory arguments failing
  have ofSucceeding :=
    runProgram_stores_complete_reports inMemory arguments succeeding
  obtain ⟨report, reported, complete⟩ := reported
  have succeeds := ofSucceeding.1.mpr ⟨report, reported, complete, fun _ _ => rfl⟩
  obtain ⟨stored, storedReported, _, held⟩ :=
    ofSucceeding.2.2.1 "out.ts" rfl succeeds
  refine ⟨ofFailing.2.1 failed, fun zero => ?_, succeeds, stored, storedReported, held⟩
  obtain ⟨_, failingReported, noErrors, _⟩ := ofFailing.1.mp zero
  exact failed _ failingReported noErrors

end FileStore
end TableTypes
