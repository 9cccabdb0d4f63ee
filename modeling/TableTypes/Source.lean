import TableTypes.Document.Snapshot

/-!
# Sources

A source answers the three questions of a run: which tables there are, what the columns of
a table are, and what rows the enums have. A snapshot is a source, and can be read from a
stored document.
-/

namespace TableTypes

/-- Why a file could not be used. -/
inductive FileError where
  | notFound
  /-- The content is not UTF-8. -/
  | invalidData
  /-- Any other failure, in the words of the system. -/
  | other (text : String)
  deriving DecidableEq, Repr

namespace FileError

/-- The text of the error. -/
def message : FileError -> String
  | .notFound => "No such file or directory (os error 2)"
  | .invalidData => "stream did not contain valid UTF-8"
  | .other text => text

end FileError

/-- Why a source has no answer. -/
inductive SourceError where
  /-- The snapshot document is refused. -/
  | document (fault : Json.Fault)
  | file (error : FileError)
  | tableNotFound (table : String)
  deriving DecidableEq, Repr

namespace SourceError

/-- The text of the error. -/
def message : SourceError -> String
  | .document fault => "invalid snapshot: " ++ fault.message
  | .file error => "IO error: " ++ error.message
  | .tableNotFound table => "table '" ++ table ++ "' not found in source"

end SourceError

/-- A supplier of reported metadata. -/
structure Source where
  /-- The tables of the given schemas. -/
  tables : NameSet -> Except SourceError (List String)
  /-- The columns of a table. -/
  columns : String -> Except SourceError (List Column)
  /-- The enum rows of the given schemas, possibly repeated. -/
  enumRows : NameSet -> Except SourceError (List EnumRow)

/-- The text of a file by its bytes. -/
def decodeText (bytes : ByteArray) : Except FileError String :=
  match String.fromUTF8? bytes with
  | none => .error .invalidData
  | some text => .ok text

namespace Snapshot

/-- Read a snapshot document. -/
def ofDocument (document : String) : Except SourceError Snapshot :=
  match Json.parse reader document with
  | .error fault => .error (.document fault)
  | .ok snapshot => .ok snapshot

/-- Read a snapshot from what a file holds. -/
def ofFile (content : Except FileError ByteArray) : Except SourceError Snapshot :=
  match content with
  | .error error => .error (.file error)
  | .ok bytes =>
      match decodeText bytes with
      | .error error => .error (.file error)
      | .ok document => ofDocument document

/-- The answer of a snapshot to the question for columns. -/
def columns (snapshot : Snapshot) (table : String) : Except SourceError (List Column) :=
  match snapshot.columns? table with
  | none => .error (.tableNotFound table)
  | some columns => .ok columns

/-- A snapshot as a source. -/
def toSource (snapshot : Snapshot) : Source where
  tables schemas := .ok (snapshot.tableNames schemas)
  columns := snapshot.columns
  enumRows schemas := .ok (snapshot.enumRows schemas)

end Snapshot
end TableTypes
