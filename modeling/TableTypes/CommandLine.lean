import TableTypes.Run

/-!
# Command line

The program takes up to three arguments: a snapshot file, an output file and a casing.
Without arguments it runs on a built-in snapshot, and without an output file it prints the
unit. What it does is computed from the content of the snapshot file and the success of
writing.
-/

namespace TableTypes
namespace CommandLine

/-- The snapshot that is used when none is given. -/
def sampleSnapshot : Snapshot where
  tables :=
    [
      {
        name := "user_accounts"
        columns :=
          [
            { name := "id", dataType := "integer" },
            { name := "created_at", dataType := "timestamp with time zone" },
            { name := "role", dataType := "USER-DEFINED", underlyingType := some "role" },
            { name := "email", dataType := "character varying" },
            { name := "last_ip", dataType := "inet", isNullable := "YES" },
            { name := "settings", dataType := "jsonb", isNullable := "YES" }
          ]
      },
      {
        name := "knex_migrations"
        columns := [{ name := "id", dataType := "integer" }]
      }
    ]
  enums := [{ name := "role", literal := some "\x7bUSER,ADMIN\x7d" }]

/-- What the arguments ask for. -/
structure Request where
  snapshotPath : Option String
  outputPath : Option String
  settings : Settings

/-- Read the arguments. Names are in Pascal case unless a casing is given, and required
texts have at least one character. -/
def Request.ofArguments (arguments : List String) : Except SettingsError Request :=
  let request (casing : Casing) : Request :=
    {
      snapshotPath := arguments[0]?
      outputPath := arguments[1]?
      settings := { casing, textMinLength := some 1 }
    }
  match arguments[2]? with
  | none => .ok (request .pascal)
  | some text =>
      match Casing.ofText text with
      | .error error => .error error
      | .ok casing => .ok (request casing)

/-- What the program prints and stores, and whether it fails. -/
structure Outcome where
  succeeds : Bool
  standardOutput : String := ""
  standardError : String := ""
  /-- The path and the content of the file that is written. -/
  written : Option (String × String) := none
  deriving DecidableEq, Repr

namespace Outcome

/-- The status with which the program ends. -/
def exitCode (outcome : Outcome) : Nat :=
  if outcome.succeeds then 0 else 1

/-- The outcome of a failure, after the lines that were printed before it. -/
def failure (lines message : String) : Outcome where
  succeeds := false
  standardError := lines ++ "Error: " ++ message ++ "\n"

end Outcome

/-- The line that reports a column without field. -/
def errorLine (error : ResolutionError) : String :=
  "error at " ++ error.table ++ "." ++ error.column ++ ": " ++ error.message ++ "\n"

/-- The lines of all columns without field. -/
def errorLines (report : Report) : String :=
  String.join (report.errors.map errorLine)

/-- Print a report. -/
def printReport (report : Report) : Outcome :=
  if report.isComplete then
    { succeeds := true, standardOutput := report.output }
  else
    let message := Nat.repr report.errors.length ++ " column(s) could not be resolved"
    { Outcome.failure (errorLines report) message with standardOutput := report.output }

/-- Store a report under a path. -/
def storeReport
    (report : Report)
    (path : String)
    (write : String -> String -> Except FileError Unit) : Outcome :=
  match report.store (write path) with
  | .error error => Outcome.failure (errorLines report) error.message
  | .ok () => { succeeds := true, written := some (path, report.output) }

/-- Run what a request asks for. -/
def Request.run
    (request : Request)
    (read : String -> Except FileError ByteArray) : Except RunError Report :=
  match request.snapshotPath with
  | none => request.settings.run sampleSnapshot.toSource
  | some path => request.settings.runFile (read path)

/-- The outcome of the program for its arguments. `read` gives the content of a file and
`write` tells whether a content can be stored under a path. -/
def execute
    (arguments : List String)
    (read : String -> Except FileError ByteArray)
    (write : String -> String -> Except FileError Unit) : Outcome :=
  match Request.ofArguments arguments with
  | .error error => Outcome.failure "" error.message
  | .ok request =>
      match request.run read with
      | .error error => Outcome.failure "" error.message
      | .ok report =>
          match request.outputPath with
          | none => printReport report
          | some path => storeReport report path write

end CommandLine
end TableTypes
