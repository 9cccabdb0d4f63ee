import TableTypes.Column
import TableTypes.Enum.Row
import TableTypes.Json.Record
import TableTypes.Json.Value

/-!
# Documents of columns and enum rows

The records in which reported columns and enum rows are stored.
-/

namespace TableTypes

open Json

namespace Column

/-- The fields of a column document. -/
def fields : List (RecordField Column) :=
  [
    .required "table_name" Reader.text fun table column => { column with table },
    .required "column_name" Reader.text fun name column => { column with name },
    .required "raw_type" Reader.text fun typeText column => { column with typeText },
    .defaulted "is_nullable" Reader.boolean fun isNullable column =>
      { column with isNullable },
    .defaulted "is_unsigned" Reader.boolean fun isUnsigned column =>
      { column with isUnsigned },
    .defaulted "enum_ref" (Reader.nullable Reader.text) fun enumName column =>
      { column with enumName }
  ]

/-- Read a column document. -/
def reader : Reader Column :=
  Reader.record "ColumnDescriptor" fields { table := "", name := "", typeText := "" }

/-- The document of a column. -/
def toJson (column : Column) : Value :=
  .record [
    ("table_name", .text column.table),
    ("column_name", .text column.name),
    ("raw_type", .text column.typeText),
    ("is_nullable", .boolean column.isNullable),
    ("is_unsigned", .boolean column.isUnsigned),
    ("enum_ref", .ofOption .text column.enumName)
  ]

end Column

namespace EnumRow

/-- The fields of an enum row document. -/
def fields : List (RecordField EnumRow) :=
  [
    .required "enum_name" Reader.text fun enumName row => { row with enumName },
    .required "value" Reader.text fun label row => { row with label }
  ]

/-- Read an enum row document. -/
def reader : Reader EnumRow :=
  Reader.record "RawEnumRow" fields ⟨"", ""⟩

/-- The document of an enum row. -/
def toJson (row : EnumRow) : Value :=
  .record [("enum_name", .text row.enumName), ("value", .text row.label)]

end EnumRow
end TableTypes
