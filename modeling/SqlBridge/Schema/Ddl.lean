import SqlBridge.Schema.Column
import SqlBridge.Statement

/-!
# Statements that change the schema

Names of tables, columns and indexes are written as they are given. An index without a name of
its own is named for its table and columns. The versions of the schema that have been applied
are kept in a table of their own.
-/

namespace SqlBridge.Ddl

/-- The table of the applied versions. -/
def versionsTable : String := "schema_migrations"

/-- Creates a table from the definitions of its columns. -/
def createTable (name : String) (columns : List String) (options : String) :
    Except Error Statement :=
  if columns.isEmpty then .error (.invalidQuery (.noColumns name))
  else
    let sql := "CREATE TABLE " ++ name ++ " (" ++ ", ".intercalate columns ++ ")"
    let options := Text.trim options
    .ok ⟨.ddl, if options.isEmpty then sql else sql ++ " " ++ options⟩

/-- Removes a table. -/
def dropTable (name : String) : Statement := ⟨.ddl, "DROP TABLE " ++ name⟩

/-- Adds a column to a table. -/
def addColumn (table definition : String) : Statement :=
  ⟨.ddl, "ALTER TABLE " ++ table ++ " ADD COLUMN " ++ definition⟩

/-- Removes a column from a table. -/
def removeColumn (table column : String) : Statement :=
  ⟨.ddl, "ALTER TABLE " ++ table ++ " DROP COLUMN " ++ column⟩

/-- The name of an index that was given none. -/
def defaultIndexName (table : String) (columns : List String) : String :=
  "index_" ++ table ++ "_on_" ++ "_and_".intercalate columns

/-- Adds an index to a table. -/
def addIndex (table : String) (columns : List String) (unique : Bool) (name : Option String) :
    Except Error Statement :=
  if columns.isEmpty then .error (.invalidQuery (.noIndexColumns table))
  else
    .ok ⟨.ddl, "CREATE " ++ (if unique then "UNIQUE " else "") ++ "INDEX " ++
      name.getD (defaultIndexName table columns) ++ " ON " ++ table ++ " (" ++
      ", ".intercalate columns ++ ")"⟩

/-- Removes an index by its name, or by the name it has when it was given none. -/
def removeIndex (table : String) (columns : List String) (name : Option String) :
    Except Error Statement :=
  match name with
  | some name => .ok ⟨.ddl, Dialect.dropIndex name table⟩
  | none =>
    if columns.isEmpty then .error (.invalidQuery .unnamedIndex)
    else .ok ⟨.ddl, Dialect.dropIndex (defaultIndexName table columns) table⟩

/-- Creates the table of the applied versions. -/
def createVersionsTable : Statement :=
  ⟨.ddl, "CREATE TABLE IF NOT EXISTS " ++ versionsTable ++
    " (version VARCHAR(255) NOT NULL PRIMARY KEY)"⟩

/-- Enters a version. -/
def recordVersion (version : String) : Statement :=
  ⟨.insert, "INSERT INTO " ++ versionsTable ++ " (version) VALUES (" ++
    (Value.string version).literal ++ ")"⟩

/-- Removes a version. -/
def forgetVersion (version : String) : Statement :=
  ⟨.delete, "DELETE FROM " ++ versionsTable ++ " WHERE version = " ++
    (Value.string version).literal⟩

/-- Lists the applied versions. -/
def appliedVersions : Statement :=
  ⟨.select, "SELECT version FROM " ++ versionsTable ++ " ORDER BY version ASC"⟩

end SqlBridge.Ddl
