import SqlBridge.Proofs.Query.Condition
import SqlBridge.Query.Select

/-!
# The tokens of a query

`Query.tokens` is what a query without raw SQL (`Query.RawFree`) is meant to say, as a list of
tokens that follows its structure: the keywords, names and values of each clause in order, and
nothing for a clause that is missing. `Query.tokens_render` says that the server reads exactly these
tokens from the rendered text. So whatever stands in a name or a value, it is one token of its own
kind there and changes no other.
-/

namespace SqlBridge

open Sql

/-! ## Limits -/

/-- A number of rows spells itself. -/
theorem spells_rows (n : UInt64) :
    Spells (toString n.toNat) [.number (toString n.toNat)] := by
  refine Numeral.spells_unsigned (.whole ?_)
  have htext : (toString n.toNat).toList = Nat.toDigits 10 n.toNat := Nat.toList_repr
  rw [htext]
  exact Numeral.isDigits_toDigits _

/-- The tokens of a limit; none for no limit. -/
def Limit.tokens : Limit → List Token
  | all => []
  | rows n => [.word "LIMIT", .number (toString n.toNat)]

/-- The clause of a limit spells the keyword and the number, or is missing. -/
theorem Limit.spellsPart_clause (l : Limit) : SpellsPart l.clause l.tokens := by
  cases l with
  | all => exact .missing
  | rows n =>
    have hspells := (spells_word "LIMIT" rfl).space (spells_rows n)
    exact .plain (by simpa [clause, tokens, String.append_assoc] using hspells)

/-- The tokens of the rows to skip; none for zero. -/
def offsetTokens (offset : UInt64) : List Token :=
  if offset = 0 then [] else [.word "OFFSET", .number (toString offset.toNat)]

/-- The clause of an offset spells the keyword and the number, or is missing for zero. -/
theorem spellsPart_offsetClause (offset : UInt64) :
    SpellsPart (offsetClause offset) (offsetTokens offset) := by
  unfold offsetClause offsetTokens
  split
  · exact .missing
  · have hspells := (spells_word "OFFSET" rfl).space (spells_rows offset)
    exact .plain (by simpa [String.append_assoc] using hspells)

namespace Query

/-! ## What is selected, and from where -/

/-- The tokens of the select list; a star when nothing is named. -/
def selectTokens (columns : List SelectItem) : List Token :=
  if columns.isEmpty then [.sign "*"] else commaTokens (columns.map fun i => i.expr.tokens)

/-- Names and values that are selected spell their tokens with commas between them, and a star when
nothing is named. -/
theorem spells_selectList {columns : List SelectItem}
    (h : ∀ i ∈ columns, i.expr.isRaw = false ∧ i.aliasName = none) :
    Spells (selectList columns) (selectTokens columns) := by
  unfold selectList selectTokens
  split
  · exact spells_sign '*' rfl ⟨rfl, rfl⟩
  · next hne =>
    refine Spells.commaList (by simpa using hne) fun i hi => ?_
    obtain ⟨hraw, halias⟩ := h i hi
    rw [SelectItem.sql, halias]
    exact Expr.spells_sql hraw

/-- The tokens of the clause that names the table. -/
def fromTokens (table : String) : List Token := .word "FROM" :: Name.tokens table

/-- The clause of the table spells the keyword and the table's name. -/
theorem spells_fromClause (table : String) : Spells (fromClause table) (fromTokens table) := by
  have hspells := (spells_word "FROM" rfl).space (Name.spells_escape table)
  simpa [fromClause, fromTokens, String.append_assoc] using hspells

/-! ## Joins -/

/-- The keywords of a join as tokens. -/
def joinKeywords : JoinType → List Token
  | .inner => [.word "INNER", .word "JOIN"]
  | .left => [.word "LEFT", .word "JOIN"]
  | .right => [.word "RIGHT", .word "JOIN"]
  | .cross => [.word "CROSS", .word "JOIN"]

/-- The keywords of a join are one word or two. -/
theorem spells_joinKeywords (t : JoinType) : Spells t.keyword (joinKeywords t) := by
  cases t with
  | inner => exact (spells_word "INNER" rfl).space (spells_word "JOIN" rfl)
  | left => exact (spells_word "LEFT" rfl).space (spells_word "JOIN" rfl)
  | right => exact (spells_word "RIGHT" rfl).space (spells_word "JOIN" rfl)
  | cross => exact (spells_word "CROSS" rfl).space (spells_word "JOIN" rfl)

/-- The tokens of a join. -/
def joinTokens (j : Join) : List Token := joinKeywords j.type ++ Name.tokens j.table

/-- Joins without an alias and a condition spell their keywords and tables in order. -/
theorem spellsPart_joinClause {joins : List Join}
    (h : ∀ j ∈ joins, j.aliasName = none ∧ j.onText = none) :
    SpellsPart (joinClause joins) (joins.flatMap joinTokens) := by
  by_cases hnil : joins = []
  · subst hnil
    exact .missing
  · refine .plain (Spells.spaceList hnil fun j hj => ?_)
    obtain ⟨halias, hon⟩ := h j hj
    have hspells := (spells_joinKeywords j.type).space (Name.spells_escape j.table)
    simpa [joinText, joinTokens, halias, hon] using hspells

/-! ## Grouping and sorting -/

/-- The tokens of the clause that groups rows; none for no columns. -/
def groupByTokens (columns : List Expr) : List Token :=
  if columns.isEmpty then []
  else .word "GROUP" :: .word "BY" :: commaTokens (columns.map Expr.tokens)

/-- Names and values that rows are grouped by spell their tokens behind two keywords. -/
theorem spellsPart_groupByClause {columns : List Expr} (h : ∀ e ∈ columns, e.isRaw = false) :
    SpellsPart (groupByClause columns) (groupByTokens columns) := by
  unfold groupByClause groupByTokens
  cases hempty : columns.isEmpty with
  | true => exact .missing
  | false =>
    have hspells := ((spells_word "GROUP" rfl).space (spells_word "BY" rfl)).space
      (Expr.spells_list hempty h)
    have hindent := SpellsPart.indented hspells
    simpa [← String.append_assoc] using hindent

/-- The tokens of a sort key's column: a name without a qualifier is qualified with the table. -/
def orderColumnTokens (table : String) : Expr → List Token
  | .name n =>
    if Name.isQualified n then Name.tokens n else Name.tokens table ++ .sign "." :: Name.tokens n
  | e => e.tokens

/-- A bare name spells its table's segments in front of its own; a dotted one its own alone. -/
theorem spells_orderColumn (table : String) {e : Expr} (h : e.isRaw = false) :
    Spells (orderColumn table e) (orderColumnTokens table e) := by
  cases e with
  | raw sql => simp [Expr.isRaw] at h
  | name n =>
    simp only [orderColumn, orderColumnTokens]
    split
    · exact Name.spells_escape n
    · rw [← Name.tokens_qualified]
      exact Name.spells_escape _
  | value v => exact v.spells_literal

/-- The tokens of a sort key. -/
def orderTokens (table : String) (o : Order) : List Token :=
  orderColumnTokens table o.column ++ [.word o.direction.keyword]

/-- The tokens of the clause that sorts rows; none for no keys. -/
def orderByTokens (table : String) (orderBy : List Order) : List Token :=
  if orderBy.isEmpty then []
  else .word "ORDER" :: .word "BY" :: commaTokens (orderBy.map (orderTokens table))

/-- Sort keys spell their columns, each with its direction. -/
theorem spellsPart_orderByClause (table : String) {orderBy : List Order}
    (h : ∀ o ∈ orderBy, o.column.isRaw = false) :
    SpellsPart (orderByClause table orderBy) (orderByTokens table orderBy) := by
  unfold orderByClause orderByTokens
  split
  · exact .missing
  · next hne =>
    have hkeys := Spells.commaList (f := orderText table) (g := orderTokens table)
      (by simpa using hne) fun o ho => by
        have hdir : Spells o.direction.keyword [.word o.direction.keyword] := by
          cases o.direction
          · exact spells_word "ASC" rfl
          · exact spells_word "DESC" rfl
        exact (spells_orderColumn table (h o ho)).space hdir
    have hspells := ((spells_word "ORDER" rfl).space (spells_word "BY" rfl)).space hkeys
    exact .plain (by simpa [commaTokens, String.append_assoc] using hspells)

/-! ## The query -/

/-- Nothing in the query is raw SQL. -/
structure RawFree (q : Query) : Prop where
  columns : ∀ i ∈ q.columns, i.expr.isRaw = false ∧ i.aliasName = none
  joins : ∀ j ∈ q.joins, j.aliasName = none ∧ j.onText = none
  conditions : ∀ c ∈ q.conditions, c.predicate.hasRaw = false
  groupBy : ∀ e ∈ q.groupBy, e.isRaw = false
  having : ∀ c ∈ q.having, c.predicate.hasRaw = false
  orderBy : ∀ o ∈ q.orderBy, o.column.isRaw = false

/-- What a query without raw SQL says, clause by clause. -/
def tokens (q : Query) : List Token :=
  .word "SELECT" :: selectTokens q.columns ++ fromTokens q.table ++ q.joins.flatMap joinTokens ++
    Condition.chainTokens "WHERE" q.conditions ++ groupByTokens q.groupBy ++
    Condition.chainTokens "HAVING" q.having ++ orderByTokens q.table q.orderBy ++ q.limit.tokens ++
    offsetTokens q.offset

/-- The clauses with what each of them says. -/
def parts (q : Query) : List (String × List Token) :=
  [("SELECT", [.word "SELECT"]), (selectList q.columns, selectTokens q.columns),
    (fromClause q.table, fromTokens q.table), (joinClause q.joins, q.joins.flatMap joinTokens),
    (Condition.whereClause q.conditions, Condition.chainTokens "WHERE" q.conditions),
    (groupByClause q.groupBy, groupByTokens q.groupBy),
    (Condition.havingClause q.having, Condition.chainTokens "HAVING" q.having),
    (orderByClause q.table q.orderBy, orderByTokens q.table q.orderBy),
    (q.limit.clause, q.limit.tokens), (offsetClause q.offset, offsetTokens q.offset)]

/-- The clauses of a query without raw SQL spell the tokens of the query's structure. -/
theorem spellsPart_parts {q : Query} (h : q.RawFree) : ∀ p ∈ q.parts, SpellsPart p.1 p.2 := by
  simp only [parts, List.forall_mem_cons, List.not_mem_nil, false_imp_iff, implies_true, and_true]
  exact ⟨.plain (spells_word "SELECT" rfl), .plain (spells_selectList h.columns),
    .plain (spells_fromClause q.table), spellsPart_joinClause h.joins,
    Condition.spellsPart_chain (.inl rfl) h.conditions, spellsPart_groupByClause h.groupBy,
    Condition.spellsPart_chain (.inr rfl) h.having, spellsPart_orderByClause q.table h.orderBy,
    q.limit.spellsPart_clause, spellsPart_offsetClause q.offset⟩

/-- **The server reads a query without raw SQL as it is meant**: the tokens of the rendered text are
those that the query's structure gives, whatever stands in its names and values. -/
theorem tokens_render {q : Query} (h : q.RawFree) : Sql.tokens q.render = some q.tokens := by
  have hread := tokens_collapse_intercalate (spellsPart_parts h)
  have htokens : q.parts.flatMap Prod.snd = q.tokens := by simp [parts, tokens]
  rw [htokens] at hread
  exact hread

/-- A query whose names and values try to be more than that. -/
def hostile : Query :=
  { ofTable "app.us\x60ers" with
    columns := [⟨.name "t.*", none⟩, ⟨.value (.string "a', 1 -- "), none⟩]
    joins := [⟨.left, "x FROM y", none, none⟩]
    conditions :=
      [⟨.and, .compare (.name "name") .eq (.value (.text "\\' OR '1'='1"))⟩,
        ⟨.or, .member (.name "n") [.value (.int (-7)), .value (.bytes [0xAF])] true⟩]
    orderBy := [⟨.name "a  b", .descending⟩]
    limit := .rows 10 }

/-- Names with quotes, keywords and blanks in them, values with quotes, backslashes and comments. -/
theorem tokens_render_hostile : hostile.RawFree ∧ Sql.tokens hostile.render =
    some [.word "SELECT", .name "t", .sign ".", .sign "*", .sign ",", .text "a', 1 -- ",
      .word "FROM", .name "app", .sign ".", .name "us-ers", .word "LEFT", .word "JOIN",
      .name "x FROM y", .word "WHERE", .name "name", .sign "=", .text "\\' OR '1'='1", .word "OR",
      .name "n", .word "NOT", .word "IN", .sign "(", .sign "-", .number "7", .sign ",",
      .bytes [0xAF], .sign ")", .word "ORDER", .word "BY", .name "app", .sign ".", .name "us-ers",
      .sign ".", .name "a  b", .word "DESC", .word "LIMIT", .number "10"] := by
  have hraw : hostile.RawFree := by
    constructor <;> simp [hostile, ofTable, Expr.isRaw, Predicate.hasRaw]
  refine ⟨hraw, (tokens_render hraw).trans ?_⟩
  decide +kernel

end Query

end SqlBridge
