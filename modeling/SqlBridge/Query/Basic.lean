import SqlBridge.Query.Condition
import SqlBridge.Error

/-!
# Queries

A query describes a `SELECT`: the table, what to select from it and from joined tables, which
rows and groups, in which order, and which window of the result. It starts out as everything
from one table; each builder changes one part and leaves the others alone.

A limit is a number of rows or none. As a text, no limit is the word `ALL`. Pages are counted from
one, and page zero is page one. An offset beyond 64 bits stays at the greatest one.
-/

namespace SqlBridge

/-! ## Limits -/

/-- How many rows are wanted. -/
inductive Limit where
  | all
  | rows (n : UInt64)
  deriving DecidableEq, Repr, Inhabited

namespace Limit

/-- The text of a limit. -/
def text : Limit → String
  | all => "ALL"
  | rows n => toString n.toNat

/-- Reads the word or a number of rows. -/
def ofText (s : String) : Except Error Limit :=
  if s = "ALL" then .ok .all
  else
    match Numeral.readNat UInt64.size s.toList with
    | .ok n => .ok (.rows (UInt64.ofNat n))
    | .error _ => .error (.invalidQuery (.badLimit s))

/-- The clause for a limit; nothing for none. -/
def clause : Limit → String
  | all => ""
  | rows n => "LIMIT " ++ toString n.toNat

end Limit

/-- The clause for the rows to skip; nothing for zero. -/
def offsetClause (offset : UInt64) : String :=
  if offset = 0 then "" else "OFFSET " ++ toString offset.toNat

/-! ## Queries -/

/-- The kinds of join. -/
inductive JoinType where
  | inner
  | left
  | right
  | cross
  deriving DecidableEq, Repr

/-- The keywords of a join. -/
def JoinType.keyword : JoinType → String
  | inner => "INNER JOIN"
  | left => "LEFT JOIN"
  | right => "RIGHT JOIN"
  | cross => "CROSS JOIN"

/-- A joined table; its alias and condition are inserted as they are. -/
structure Join where
  type : JoinType
  table : String
  aliasName : Option String
  onText : Option String
  deriving DecidableEq, Repr

/-- A direction of sorting. -/
inductive Direction where
  | ascending
  | descending
  deriving DecidableEq, Repr

/-- The keyword of a direction. -/
def Direction.keyword : Direction → String
  | ascending => "ASC"
  | descending => "DESC"

/-- A sort key. -/
structure Order where
  column : Expr
  direction : Direction

/-- The description of a `SELECT`. -/
structure Query where
  table : String
  columns : List SelectItem
  joins : List Join
  conditions : List Condition
  groupBy : List Expr
  having : List Condition
  orderBy : List Order
  limit : Limit
  offset : UInt64

namespace Query

/-- Everything from a table. -/
def ofTable (table : String) : Query :=
  ⟨table, [], [], [], [], [], [], .all, 0⟩

/-! ## Builders -/

/-- Selects from another table. -/
def withTable (q : Query) (table : String) : Query := { q with table }

/-- Replaces the select list. -/
def withColumns (q : Query) (columns : List SelectItem) : Query := { q with columns }

/-- Replaces the joins. -/
def withJoins (q : Query) (joins : List Join) : Query := { q with joins }

/-- Replaces the conditions on rows. -/
def withConditions (q : Query) (conditions : List Condition) : Query := { q with conditions }

/-- Replaces the grouping. -/
def withGroupBy (q : Query) (groupBy : List Expr) : Query := { q with groupBy }

/-- Replaces the conditions on groups. -/
def withHaving (q : Query) (having : List Condition) : Query := { q with having }

/-- Replaces the sort keys. -/
def withOrder (q : Query) (orderBy : List Order) : Query := { q with orderBy }

/-- Limits the number of rows. -/
def withLimit (q : Query) (n : UInt64) : Query := { q with limit := .rows n }

/-- Takes the limit away. -/
def unlimited (q : Query) : Query := { q with limit := .all }

/-- Skips rows. -/
def withOffset (q : Query) (offset : UInt64) : Query := { q with offset }

/-- Adds a condition joined by `AND`. -/
def andWhere (q : Query) (p : Predicate) : Query :=
  { q with conditions := q.conditions ++ [⟨.and, p⟩] }

/-- Adds a condition joined by `OR`. -/
def orWhere (q : Query) (p : Predicate) : Query :=
  { q with conditions := q.conditions ++ [⟨.or, p⟩] }

/-- Adds a join. -/
def join (q : Query) (j : Join) : Query := { q with joins := q.joins ++ [j] }

/-- Adds a sort key. -/
def order (q : Query) (o : Order) : Query := { q with orderBy := q.orderBy ++ [o] }

/-- The number of rows before a page. -/
def pageOffset (page perPage : UInt64) : UInt64 :=
  UInt64.ofNat (min ((page.toNat - 1) * perPage.toNat) (UInt64.size - 1))

/-- Takes one page of the result. -/
def paginate (q : Query) (page perPage : UInt64) : Query :=
  { q with limit := .rows perPage, offset := pageOffset page perPage }

end Query

end SqlBridge
