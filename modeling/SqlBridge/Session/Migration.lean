import SqlBridge.Session.Executor
import SqlBridge.Schema.Ddl

/-!
# Changes of the schema over a connection

A change of the schema is rendered first, so arguments that cannot be rendered are refused
before anything is sent, and then sent once: it is not repeated when the session is lost.
-/

namespace SqlBridge

/-- A column of a table that is created. -/
inductive ColumnSpec where
  /-- The primary key of the usual name. -/
  | id
  /-- The primary key of another name. -/
  | idNamed (name : String) (setters : List ColumnSetter)
  /-- A column with the tag of its type. -/
  | typed (name tag : String) (setters : List ColumnSetter)
  /-- What the caller wrote, or the error with which the caller refuses to. -/
  | written (definition : Except Error String)

/-- The definition of a column. -/
def ColumnSpec.definition : ColumnSpec → Except Error String
  | .id => .ok (idColumnDefinition "id" .none)
  | .idNamed name setters => idColumnDefinition name <$> ColumnOptions.build setters
  | .typed name tag setters => ColumnOptions.build setters >>= columnDefinition name tag
  | .written definition => definition

/-- A change of the schema or of the list of its versions. -/
inductive SchemaChange where
  | createTable (name options : String) (columns : List ColumnSpec)
  | dropTable (name : String)
  | addColumn (table name tag : String) (setters : List ColumnSetter)
  | removeColumn (table column : String)
  | addIndex (table : String) (columns : List String) (unique : Bool) (name : Option String)
  | removeIndex (table : String) (columns : List String) (name : Option String)
  | createVersionsTable
  | recordVersion (version : String)
  | forgetVersion (version : String)

/-- The statement of a change, unless its arguments are refused. -/
def SchemaChange.statement : SchemaChange → Except Error Statement
  | createTable name options columns => do
    Ddl.createTable name (← columns.mapM ColumnSpec.definition) options
  | dropTable name => .ok (Ddl.dropTable name)
  | addColumn table name tag setters =>
    Ddl.addColumn table <$> (ColumnSpec.typed name tag setters).definition
  | removeColumn table column => .ok (Ddl.removeColumn table column)
  | addIndex table columns unique name => Ddl.addIndex table columns unique name
  | removeIndex table columns name => Ddl.removeIndex table columns name
  | createVersionsTable => .ok Ddl.createVersionsTable
  | recordVersion version => .ok (Ddl.recordVersion version)
  | forgetVersion version => .ok (Ddl.forgetVersion version)

namespace Executor

variable {n : Nat}

/-- Makes a change of the schema. -/
def change (x : Executor n) (w : World n) (c : SchemaChange) : Except Error Unit × World n :=
  match c.statement with
  | .error e => (.error e, w)
  | .ok st =>
    let (r, w) := x.runOnce w st
    ((fun _ => ()) <$> r, w)

/-- The versions that a table lists: the texts of the column of that name. -/
def versionsOf (t : Table) : List String :=
  match t.column? "version" with
  | some c => c.values.filterMap Value.toText?
  | none => []

/-- The applied versions. -/
def appliedVersions (x : Executor n) (w : World n) : Except Error (List String) × World n :=
  let (r, w) := x.runOnce w Ddl.appliedVersions
  (versionsOf <$> r, w)

end Executor

end SqlBridge
