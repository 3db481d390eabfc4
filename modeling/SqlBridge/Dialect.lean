import SqlBridge.Sql.Literal

/-!
# What differs between backends

Both supported backends speak the same dialect. An insertion meets a duplicate key in one of
three ways: it fails, it leaves the row alone, or it overwrites it.
-/

namespace SqlBridge

/-- The supported backends. -/
inductive BackendKind where
  | mySQL
  | mariaDB
  deriving DecidableEq, Repr

/-- What an insertion does about a duplicate key. -/
inductive ConflictStrategy where
  | error
  | ignore
  | update
  deriving DecidableEq, Repr, Inhabited

namespace Dialect

/-- The backend whose dialect another one speaks. -/
def spokenBy : BackendKind → BackendKind
  | .mySQL => .mySQL
  | .mariaDB => .mySQL

/-- The modifiers of a primary key that counts up by itself. -/
def autoIncrement : String := "AUTO_INCREMENT PRIMARY KEY"

/-- The leading keywords of an insertion. -/
def insertKeyword : ConflictStrategy → String
  | .error => "INSERT INTO"
  | .ignore => "INSERT IGNORE INTO"
  | .update => "INSERT INTO"

/-- The clause that overwrites the columns, which are given as they are written. -/
def upsertClause (columns : List String) : String :=
  "ON DUPLICATE KEY UPDATE " ++
    ", ".intercalate (columns.map fun c => c ++ " = VALUES(" ++ c ++ ")")

/-- The statement that removes an index. -/
def dropIndex (index table : String) : String := "DROP INDEX " ++ index ++ " ON " ++ table

end Dialect

end SqlBridge
