/-!
# Statements

A statement is SQL text with its kind, which decides the shape of the result. What this
library renders has its kind from the start; for other text the kind is told by the leading
keyword, in capitals and with a space behind it.
-/

namespace SqlBridge

/-- What a statement does, as far as its result goes. -/
inductive StatementKind where
  /-- Returns rows; also everything that is not recognized. -/
  | select
  /-- Returns a generated id. -/
  | insert
  | update
  | delete
  /-- Changes the schema. -/
  | ddl
  deriving DecidableEq, Repr, Inhabited

namespace StatementKind

/-- The leading words by which a kind is told. -/
def leadingWords : List (String × StatementKind) :=
  [("INSERT ", insert), ("ALTER ", ddl), ("CREATE ", ddl), ("DROP ", ddl),
    ("DELETE ", delete), ("UPDATE ", update)]

/-- The kind of a text by its leading word. -/
def classify (sql : String) : StatementKind :=
  match leadingWords.find? fun w => w.1.toList.isPrefixOf sql.toList with
  | some w => w.2
  | none => select

/-- The result is a status and no rows. -/
def isWrite : StatementKind → Bool
  | select => false
  | _ => true

end StatementKind

/-- SQL text with its kind. -/
structure Statement where
  kind : StatementKind
  sql : String
  deriving DecidableEq, Repr, Inhabited

/-- Text of unknown origin as a statement. -/
def Statement.classify (sql : String) : Statement := ⟨StatementKind.classify sql, sql⟩

end SqlBridge
