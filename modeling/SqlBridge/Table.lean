import SqlBridge.Value

/-!
# Tables of results

Every statement is answered by a table: named columns, each with a value for every row. Rows
of a backend are turned over into columns, short rows filled up with nulls and long ones cut.
An insertion is answered by the generated id, any other change by a status and the number of
rows that it affected.

Columns put together by hand may differ in length. A row that some column does not reach
cannot be read, although the first column counts it.
-/

namespace SqlBridge

/-- A named column of values. -/
structure Column where
  name : String
  values : List Value

/-- The rows of a backend's answer. -/
structure RowSet where
  columns : List String
  rows : List (List Value)

/-- A column ends before a row that is to be read. -/
structure MissingCell where
  row : Nat
  column : String
  deriving DecidableEq, Repr

/-- A table of named columns. -/
structure Table where
  columns : List Column

namespace Table

/-- The column of a generated id. -/
def insertIdColumn : String := "last_insert_id"

/-- The column of a status. -/
def statusColumn : String := "status"

/-- The column of the number of affected rows. -/
def affectedRowsColumn : String := "affected_rows"

/-- The status of a change that was made. -/
def statusOk : String := "OK"

/-- The table with no columns. -/
def empty : Table := ⟨[]⟩

/-- Puts the cells of a row under the columns; missing cells are null. -/
def pushRow : List Column → List Value → List Column
  | [], _ => []
  | c :: rest, [] => ⟨c.name, c.values ++ [.null]⟩ :: pushRow rest []
  | c :: rest, v :: row => ⟨c.name, c.values ++ [v]⟩ :: pushRow rest row

/-- The table of a backend's rows. -/
def ofRowSet (r : RowSet) : Table :=
  ⟨r.rows.foldl pushRow (r.columns.map fun name => ⟨name, []⟩)⟩

/-- The answer to an insertion. -/
def inserted (id : Option UInt64) : Table :=
  ⟨[⟨insertIdColumn, [match id with | some n => .unsignedBigInt n | none => .null]⟩]⟩

/-- The answer to another change. -/
def status (affected : UInt64) : Table :=
  ⟨[⟨statusColumn, [.string statusOk]⟩, ⟨affectedRowsColumn, [.unsignedBigInt affected]⟩]⟩

/-! ## Reading -/

/-- The names of the columns in order. -/
def columnNames (t : Table) : List String := t.columns.map Column.name

/-- The first column of a name. -/
def column? (t : Table) (name : String) : Option Column :=
  t.columns.find? fun c => c.name = name

/-- The number of columns. -/
def columnCount (t : Table) : Nat := t.columns.length

/-- The number of rows, as the first column counts them. -/
def rowCount (t : Table) : Nat :=
  match t.columns with
  | [] => 0
  | c :: _ => c.values.length

/-- The table has no rows. -/
def isEmpty (t : Table) : Bool := t.rowCount == 0

/-- A cell by its row and the name of its column. -/
def value? (t : Table) (row : Nat) (column : String) : Option Value :=
  (t.column? column).bind fun c => c.values[row]?

/-- The cells of a row that the table counts. -/
def cells (t : Table) (index : Nat) : Except MissingCell (List Value) :=
  t.columns.mapM fun c =>
    match c.values[index]? with
    | some v => .ok v
    | none => .error ⟨index, c.name⟩

/-- The cells of a row, or nothing behind the last row. -/
def row (t : Table) (index : Nat) : Except MissingCell (Option (List Value)) :=
  if index < t.rowCount then some <$> t.cells index else .ok none

/-- All rows in order. -/
def rows (t : Table) : Except MissingCell (List (List Value)) :=
  (List.range t.rowCount).mapM t.cells

/-- The generated id of an insertion. -/
def lastInsertId (t : Table) : Option UInt64 :=
  (t.value? 0 insertIdColumn).bind Value.toUInt64?

/-- The number of rows that a change affected. -/
def affectedRows (t : Table) : Option UInt64 :=
  (t.value? 0 affectedRowsColumn).bind Value.toUInt64?

/-- A row as a JSON object by column name; of a repeated name the last column counts. -/
def jsonRow (t : Table) (index : Nat) : Except MissingCell Json :=
  (fun cells => Json.ofMembers (t.columnNames.zip (cells.map Value.toJson))) <$> t.cells index

/-- All rows as JSON objects. -/
def jsonRows (t : Table) : Except MissingCell (List Json) :=
  (List.range t.rowCount).mapM t.jsonRow

end Table

end SqlBridge
