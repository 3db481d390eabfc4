import SqlBridge.Sql.Name
import SqlBridge.Sql.Literal
import SqlBridge.Text.Characters

/-!
# Expressions, predicates and chains of conditions

An expression is raw SQL, a name, or a value. Raw SQL is inserted as it is; names and values
are escaped.

A condition is a predicate with the connective that joins it to what stands before. A chain
starts from a truth value that the first connective leaves without effect, `TRUE` before an
`AND` and `FALSE` before an `OR`, so every condition can be written the same way; a `TRUE` at
the start is then taken out again together with its connective.

A list of no values cannot be written after `IN`. Nothing is in it, so the predicate is
`FALSE`, and its negation `TRUE`.
-/

namespace SqlBridge

/-! ## Expressions -/

/-- A column or value inside a query. -/
inductive Expr where
  /-- SQL inserted as it is. -/
  | raw (sql : String)
  /-- A table or column name. -/
  | name (name : String)
  /-- A literal. -/
  | value (v : Value)
  deriving Inhabited

/-- The SQL of an expression. -/
def Expr.sql : Expr → String
  | .raw sql => sql
  | .name n => Name.escape n
  | .value v => v.literal

/-- The expression is raw SQL. -/
def Expr.isRaw : Expr → Bool
  | .raw _ => true
  | _ => false

/-- An entry of the select list. -/
structure SelectItem where
  expr : Expr
  /-- A name for the entry, inserted as it is. -/
  aliasName : Option String

/-- The SQL of an entry. -/
def SelectItem.sql (item : SelectItem) : String :=
  match item.aliasName with
  | some a => item.expr.sql ++ " AS " ++ a
  | none => item.expr.sql

/-! ## Conditions -/

/-- What joins a condition to the ones before. -/
inductive Connective where
  | and
  | or
  deriving DecidableEq, Repr

/-- The keyword of a connective. -/
def Connective.keyword : Connective → String
  | and => "AND"
  | or => "OR"

/-- The truth value that a connective leaves without effect. -/
def Connective.seed : Connective → String
  | and => "TRUE"
  | or => "FALSE"

/-- The comparisons. -/
inductive CompareOp where
  | eq
  | ne
  | lt
  | le
  | gt
  | ge
  | like
  | notLike
  deriving DecidableEq, Repr

/-- The sign of a comparison. -/
def CompareOp.sign : CompareOp → String
  | eq => "="
  | ne => "!="
  | lt => "<"
  | le => "<="
  | gt => ">"
  | ge => ">="
  | like => "LIKE"
  | notLike => "NOT LIKE"

/-- The body of a condition. -/
inductive Predicate where
  | raw (sql : String)
  | compare (left : Expr) (op : CompareOp) (right : Expr)
  | isNull (expr : Expr)
  | isNotNull (expr : Expr)
  | member (expr : Expr) (values : List Expr) (negated : Bool)
  | between (expr low high : Expr)
  deriving Inhabited

namespace Predicate

/-- The column has the value. -/
def eq (column : Expr) (v : Value) : Predicate := compare column .eq (.value v)

/-- The column has one of the values. -/
def isIn (column : Expr) (values : List Value) : Predicate :=
  member column (values.map .value) false

/-- The column has none of the values. -/
def notIn (column : Expr) (values : List Value) : Predicate :=
  member column (values.map .value) true

/-- The column lies between two values, both included. -/
def within (column : Expr) (low high : Value) : Predicate :=
  between column (.value low) (.value high)

/-- The SQL of a predicate. -/
def sql : Predicate → String
  | raw s => s
  | compare left op right => left.sql ++ " " ++ op.sign ++ " " ++ right.sql
  | isNull e => e.sql ++ " IS NULL"
  | isNotNull e => e.sql ++ " IS NOT NULL"
  | member e values negated =>
    if values.isEmpty then if negated then "TRUE" else "FALSE"
    else
      e.sql ++ (if negated then " NOT IN (" else " IN (") ++
        ", ".intercalate (values.map Expr.sql) ++ ")"
  | between e low high => e.sql ++ " BETWEEN " ++ low.sql ++ " AND " ++ high.sql

/-- The predicate is raw SQL or has a raw part. -/
def hasRaw : Predicate → Bool
  | raw _ => true
  | compare left _ right => left.isRaw || right.isRaw
  | isNull e => e.isRaw
  | isNotNull e => e.isRaw
  | member e values _ => e.isRaw || values.any Expr.isRaw
  | between e low high => e.isRaw || low.isRaw || high.isRaw

end Predicate

/-- A predicate and what joins it to the ones before. -/
structure Condition where
  connective : Connective
  predicate : Predicate

namespace Condition

/-- The SQL of a condition behind others. -/
def sql (c : Condition) : String := " " ++ c.connective.keyword ++ " " ++ c.predicate.sql

/-- What follows a word in any case of letters; the word is given in capitals. -/
def behindWord? : List Char → List Char → Option (List Char)
  | [], s => some s
  | _ :: _, [] => none
  | w :: word, c :: s => if c.toUpper = w then behindWord? word s else none

/-- What follows one blank or more. -/
def behindBlanks? : List Char → Option (List Char)
  | [] => none
  | c :: s => if Text.isBlank c then some (s.dropWhile Text.isBlank) else none

/-- What follows the keyword, `TRUE` and `AND`, each with blanks behind it. -/
def behindSeed? (keyword : List Char) (s : List Char) : Option (List Char) :=
  (behindWord? keyword s).bind fun s => (behindBlanks? s).bind fun s =>
    (behindWord? ['T', 'R', 'U', 'E'] s).bind fun s => (behindBlanks? s).bind fun s =>
      (behindWord? ['A', 'N', 'D'] s).bind behindBlanks?

/-- The clause without a `TRUE AND` behind its keyword. -/
def dropSeed (s : List Char) : List Char :=
  match behindSeed? ['W', 'H', 'E', 'R', 'E'] s with
  | some rest => s.take 5 ++ ' ' :: rest
  | none =>
    match behindSeed? ['H', 'A', 'V', 'I', 'N', 'G'] s with
    | some rest => s.take 6 ++ ' ' :: rest
    | none => s

/-- The clause with its keyword and the truth value at the start. -/
def seededChain (keyword : String) (first : Condition) (rest : List Condition) : String :=
  keyword ++ " " ++ first.connective.seed ++ String.join ((first :: rest).map sql)

/-- The clause that joins the conditions under a keyword; nothing for no conditions. -/
def chain (keyword : String) : List Condition → String
  | [] => ""
  | first :: rest => String.ofList (dropSeed (seededChain keyword first rest).toList)

/-- The clause that chooses rows. -/
def whereClause (conditions : List Condition) : String := chain "WHERE" conditions

/-- The clause that chooses groups. -/
def havingClause (conditions : List Condition) : String := chain "HAVING" conditions

end Condition

end SqlBridge
