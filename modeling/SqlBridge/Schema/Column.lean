import SqlBridge.Error
import SqlBridge.Sql.Literal
import SqlBridge.Text.Characters
import SqlBridge.Dialect

/-!
# Column definitions

Migrations name the type of a column by a tag. Some types have two tags; tags are matched exactly.

A column is defined by its name, its type and options: a size, a default, whether it may be
null, and SQL to put behind. The options are built by setters, the later of two for the same
option winning, and a setter refuses what no column can have: a length or precision of zero, a
scale beyond the precision, a suffix that holds a semicolon. A blank suffix is none.
-/

namespace SqlBridge

/-! ## Types -/

/-- The type of a column. -/
inductive ColumnType where
  | char
  | string
  | text
  | integer
  | float
  | decimal
  | dateTime
  | timestamp
  | time
  | date
  | binary
  | boolean
  deriving DecidableEq, Repr, Inhabited

namespace ColumnType

/-- The keyword of a type. -/
def keyword : ColumnType → String
  | char => "CHARACTER"
  | string => "VARCHAR"
  | text => "TEXT"
  | integer => "INTEGER"
  | float => "FLOAT"
  | decimal => "DECIMAL"
  | dateTime => "DATETIME"
  | timestamp => "TIMESTAMP"
  | time => "TIME"
  | date => "DATE"
  | binary => "BLOB"
  | boolean => "BOOLEAN"

/-- All tags with their types. -/
def tags : List (String × ColumnType) :=
  [("char", char), ("string", string), ("text", text), ("integer", integer),
    ("int", integer), ("float", float), ("decimal", decimal), ("datetime", dateTime),
    ("timestamp", timestamp), ("time", time), ("date", date), ("binary", binary),
    ("boolean", boolean), ("bool", boolean)]

/-- The type with a tag. -/
def ofTag (tag : String) : Except Error ColumnType :=
  match tags.lookup tag with
  | some t => .ok t
  | none => .error (.unknownType tag)

end ColumnType

/-! ## Options -/

/-- The size of a column in brackets. -/
inductive ColumnSize where
  | length (n : UInt32)
  | precision (p s : UInt32)
  deriving DecidableEq, Repr

/-- The text of a size. -/
def ColumnSize.sql : ColumnSize → String
  | length n => "(" ++ toString n.toNat ++ ")"
  | precision p s => "(" ++ toString p.toNat ++ "," ++ toString s.toNat ++ ")"

/-- The options of a column. -/
structure ColumnOptions where
  default : Option Value
  size : Option ColumnSize
  notNull : Bool
  suffix : Option String

/-- One call of a setter. -/
inductive ColumnSetter where
  | default (v : Value)
  | limit (n : UInt32)
  | precision (p s : UInt32)
  | notNull
  | suffix (s : String)

namespace ColumnOptions

/-- No options. -/
def none : ColumnOptions := ⟨.none, .none, false, .none⟩

/-- A suffix without the blanks around it; a blank one is none. -/
def suffixOf (s : String) : Option String :=
  if (Text.trim s).isEmpty then .none else some (Text.trim s)

/-- Applies a setter. -/
def set (o : ColumnOptions) : ColumnSetter → Except Error ColumnOptions
  | .default v => .ok { o with default := some v }
  | .limit n =>
    if n = 0 then .error (.invalidColumn .zeroLimit)
    else .ok { o with size := some (.length n) }
  | .precision p s =>
    if p = 0 then .error (.invalidColumn .zeroPrecision)
    else if p < s then .error (.invalidColumn (.scaleExceedsPrecision s p))
    else .ok { o with size := some (.precision p s) }
  | .notNull => .ok { o with notNull := true }
  | .suffix s =>
    if s.toList.contains ';' then .error (.invalidColumn (.suffixSeparator s))
    else .ok { o with suffix := suffixOf s }

/-- Applies setters in order; the first that refuses ends it. -/
def build (setters : List ColumnSetter) : Except Error ColumnOptions :=
  setters.foldlM set none

/-- The suffix with the blank in front of it. -/
def suffixSql (o : ColumnOptions) : String :=
  match o.suffix with
  | some s => " " ++ s
  | .none => ""

end ColumnOptions

/-- The definition of a column: its name, type, size, default, null rule and suffix. -/
def columnDefinition (name tag : String) (o : ColumnOptions) : Except Error String :=
  match ColumnType.ofTag tag with
  | .error e => .error e
  | .ok t =>
    .ok (name ++ " " ++ t.keyword ++
      (match o.size with | some size => size.sql | none => "") ++
      (match o.default with | some v => " DEFAULT " ++ v.literal | none => "") ++
      (if o.notNull then " NOT NULL" else "") ++ o.suffixSql)

/-- The definition of a primary key that counts up by itself; only the suffix applies. -/
def idColumnDefinition (name : String) (o : ColumnOptions) : String :=
  name ++ " INTEGER NOT NULL " ++ Dialect.autoIncrement ++ o.suffixSql

end SqlBridge
