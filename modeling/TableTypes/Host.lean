import TableTypes.CommandLine

/-!
# Host of the program

The program lives on a host that has files and streams. It reads the snapshot file,
stores the output file, and prints. What a host does for it is given by the actions of a
monad.
-/

namespace TableTypes

/-- What a program can ask of its host. -/
structure Host (m : Type -> Type) where
  /-- The content of the file under a path. -/
  readFile : String -> m (Except FileError ByteArray)
  /-- Store a text under a path. -/
  writeFile : String -> String -> m (Except FileError Unit)
  print : String -> m Unit
  printError : String -> m Unit

namespace Host

/-- Print an outcome and end with its status. -/
def finish
    [Monad m]
    (host : Host m)
    (outcome : CommandLine.Outcome) : m UInt32 := do
  host.printError outcome.standardError
  host.print outcome.standardOutput
  return UInt32.ofNat outcome.exitCode

/-- Store what an outcome asks for and finish with it. The outcome is given by the success
of the storing, and a file is stored only when the outcome of a success asks for it. -/
def deliver
    [Monad m]
    (host : Host m)
    (outcomeWith : Except FileError Unit -> CommandLine.Outcome) : m UInt32 := do
  match (outcomeWith (.ok ())).written with
  | none => host.finish (outcomeWith (.ok ()))
  | some (path, text) => host.finish (outcomeWith (← host.writeFile path text))

/-- Run the command line. -/
def run [Monad m] (host : Host m) (arguments : List String) : m UInt32 := do
  let content ←
    match arguments[0]? with
    | none => pure (.error .notFound)
    | some path => host.readFile path
  host.deliver fun stored =>
    CommandLine.execute arguments (fun _ => content) fun _ _ => stored

end Host
end TableTypes
