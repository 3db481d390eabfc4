import SqlBridge.Named
import SqlBridge.Query.Condition
import SqlBridge.Sql.Whitespace
import SqlBridge.Dialect
import SqlBridge.Statement
import SqlBridge.Error

/-!
# Statements that write rows

A row is written as fields, a value for each column name, in the order in which the names
were first given. A row without fields is refused. Updates and deletions are collapsed as
queries are; an insertion has no text of others in it and is left alone.
-/

namespace SqlBridge

/-- Values by column name. -/
abbrev Fields := Named Value

namespace Statement

/-- The columns of the fields as they are written. -/
def columnTexts (f : Fields) : List String := f.names.map Name.escape

/-- The values of the fields as literals. -/
def valueTexts (f : Fields) : List String := f.values.map Value.literal

/-- Puts a row into a table. -/
def insertRow (table : String) (f : Fields) (strategy : ConflictStrategy) :
    Except Error Statement :=
  if f.isEmpty then .error (.invalidQuery (.noFields table))
  else
    let columns := columnTexts f
    let sql := Dialect.insertKeyword strategy ++ " " ++ Name.escape table ++ " (" ++
      ", ".intercalate columns ++ ") VALUES (" ++ ", ".intercalate (valueTexts f) ++ ")"
    .ok ⟨.insert,
      if strategy = .update then sql ++ " " ++ Dialect.upsertClause columns else sql⟩

/-- One assignment of an update. -/
def assignment (e : String × Value) : String := Name.escape e.1 ++ " = " ++ e.2.literal

/-- Changes the rows that meet the conditions. -/
def updateRows (table : String) (f : Fields) (conditions : List Condition) :
    Except Error Statement :=
  if f.isEmpty then .error (.invalidQuery (.noFields table))
  else
    .ok ⟨.update, Sql.collapse ("UPDATE " ++ Name.escape table ++ " SET " ++
      ", ".intercalate (f.entries.map assignment) ++ " " ++ Condition.whereClause conditions)⟩

/-- Removes the rows that meet the conditions; without conditions, all of them. -/
def deleteRows (table : String) (conditions : List Condition) : Statement :=
  ⟨.delete, Sql.collapse ("DELETE FROM " ++ Name.escape table ++ " " ++
    Condition.whereClause conditions)⟩

end Statement

end SqlBridge
