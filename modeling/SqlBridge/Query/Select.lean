import SqlBridge.Query.Basic
import SqlBridge.Sql.Whitespace
import SqlBridge.Statement

/-!
# The text of a query

Each clause is a text of its own, empty when it has nothing to say. The `SELECT` is all of
them in order with spaces between, collapsed.

A sort key that is a bare name belongs to the query's table and is qualified with it; a
qualified name, a raw expression or a value stays as it is.
-/

namespace SqlBridge.Query

/-- What to select; everything when nothing is named. -/
def selectList (columns : List SelectItem) : String :=
  if columns.isEmpty then "*" else ", ".intercalate (columns.map SelectItem.sql)

/-- The clause that names the table. -/
def fromClause (table : String) : String := "FROM " ++ Name.escape table

/-- One join. -/
def joinText (j : Join) : String :=
  j.type.keyword ++ " " ++ Name.escape j.table ++
    (match j.aliasName with | some a => " AS " ++ a | none => "") ++
    (match j.onText with | some text => " ON " ++ text | none => "")

/-- All joins in order. -/
def joinClause (joins : List Join) : String := " ".intercalate (joins.map joinText)

/-- The clause that groups rows. -/
def groupByClause (columns : List Expr) : String :=
  if columns.isEmpty then "" else " GROUP BY " ++ ", ".intercalate (columns.map Expr.sql)

/-- The SQL of a sort key's column. -/
def orderColumn (table : String) : Expr → String
  | .name n => if Name.isQualified n then Name.escape n else Name.escape (table ++ "." ++ n)
  | e => e.sql

/-- One sort key. -/
def orderText (table : String) (o : Order) : String :=
  orderColumn table o.column ++ " " ++ o.direction.keyword

/-- The clause that sorts rows. -/
def orderByClause (table : String) (orderBy : List Order) : String :=
  if orderBy.isEmpty then "" else "ORDER BY " ++ ", ".intercalate (orderBy.map (orderText table))

/-- The clauses in order. -/
def clauses (q : Query) : List String :=
  ["SELECT", selectList q.columns, fromClause q.table, joinClause q.joins,
    Condition.whereClause q.conditions, groupByClause q.groupBy,
    Condition.havingClause q.having, orderByClause q.table q.orderBy, q.limit.clause,
    offsetClause q.offset]

/-- The text of a query. -/
def render (q : Query) : String := Sql.collapse (" ".intercalate q.clauses)

/-- The query as a statement. -/
def toStatement (q : Query) : Statement := ⟨.select, q.render⟩

end SqlBridge.Query
