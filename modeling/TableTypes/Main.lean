import TableTypes.Host

/-!
# Program

The command line on the system it is started on.
-/

namespace TableTypes
namespace Program

/-- The failure of the system as a file error. -/
def fileError : IO.Error -> FileError
  | .noFileOrDirectory _ _ _ => .notFound
  | error => .other (toString error)

/-- The content of a file, or why it cannot be read. -/
def readContent (path : String) : IO (Except FileError ByteArray) := do
  try
    return .ok (← IO.FS.readBinFile path)
  catch error =>
    return .error (fileError error)

/-- Store a text in a file, or tell why it cannot be stored. -/
def storeContent (path text : String) : IO (Except FileError Unit) := do
  try
    IO.FS.writeFile path text
    return .ok ()
  catch error =>
    return .error (fileError error)

/-- The system as a host. -/
def host : Host IO where
  readFile := readContent
  writeFile := storeContent
  print text := IO.print text
  printError text := IO.eprint text

end Program
end TableTypes

/-- Run the command line and end with its status. -/
def main (arguments : List String) : IO UInt32 :=
  TableTypes.Program.host.run arguments
