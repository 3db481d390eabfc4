import SqlBridge.Proofs.Query.Tokens
import SqlBridge.Proofs.Sql.Pieces

/-!
# The clauses of a query, collapsed one by one

Raw SQL in a query may be anything, but when each raw piece closes the quotes that it opens
(`Query.RawBalanced`), no clause reaches into the next one: the rendered text is the clauses, each
collapsed on its own, with single spaces between those of which something is left, and every escaped
name and value stands in it as it was written (`Query.render_eq_clauses`).

Each clause is shown to be made of balanced pieces with its escaped forms among them, in the order
of the builders: expressions, predicates, chains of conditions, lists. A chain loses its seed and
the blanks behind it, which belong to no form (`Condition.carries_chain`).
-/

namespace SqlBridge

open Sql

/-! ## Expressions -/

namespace Expr

/-- Raw SQL that closes the quotes that it opens; names and values always do. -/
def RawBalanced : Expr → Prop
  | .raw s => Balanced s.toList
  | _ => True

/-- The escaped form of a name or a value. -/
def forms : Expr → List String
  | .raw _ => []
  | e => [e.sql]

/-- An expression carries its escaped form; one that is raw has none, and closes its quotes. -/
theorem carries_sql {e : Expr} (h : e.RawBalanced) : Carries e.sql e.forms := by
  cases e with
  | raw s => exact .text s h
  | name n => exact .form (Name.spells_escape n).isForm
  | value v => exact .form v.spells_literal.isForm

/-- A list of expressions carries the forms of its entries. -/
theorem carries_list {l : List Expr} (h : ∀ e ∈ l, e.RawBalanced) :
    Carries (", ".intercalate (l.map Expr.sql)) (l.flatMap forms) :=
  Carries.intercalate (.text ", " rfl) fun e he => carries_sql (h e he)

end Expr

/-! ## Predicates -/

namespace Predicate

/-- The expressions that a predicate writes; for a list of no values there are none. -/
def exprs : Predicate → List Expr
  | raw _ => []
  | compare left _ right => [left, right]
  | isNull e => [e]
  | isNotNull e => [e]
  | member e values _ => if values.isEmpty then [] else e :: values
  | between e low high => [e, low, high]

/-- Raw SQL in the predicate closes the quotes that it opens. -/
def RawBalanced : Predicate → Prop
  | raw s => Balanced s.toList
  | p => ∀ e ∈ p.exprs, e.RawBalanced

/-- The escaped forms in a predicate. -/
def forms (p : Predicate) : List String := p.exprs.flatMap Expr.forms

/-- A predicate carries the forms of its expressions and values. -/
theorem carries_sql {p : Predicate} (h : p.RawBalanced) : Carries p.sql p.forms := by
  cases p with
  | raw s => exact .text s h
  | compare left op right =>
    have hleft := Expr.carries_sql (h left (by simp [exprs]))
    have hright := Expr.carries_sql (h right (by simp [exprs]))
    have hsign : Carries op.sign [] := by cases op <;> exact .text _ rfl
    have hspace : Carries " " [] := .text " " rfl
    have hall := (((hleft.append hspace).append hsign).append hspace).append hright
    simpa [sql, forms, exprs, String.append_assoc] using hall
  | isNull e =>
    have hall := (Expr.carries_sql (h e (by simp [exprs]))).append (.text " IS NULL" rfl)
    simpa [sql, forms, exprs] using hall
  | isNotNull e =>
    have hall := (Expr.carries_sql (h e (by simp [exprs]))).append (.text " IS NOT NULL" rfl)
    simpa [sql, forms, exprs] using hall
  | member e values negated =>
    cases hempty : values.isEmpty with
    | true =>
      have hword : Carries (if negated then "TRUE" else "FALSE") [] := by
        cases negated <;> exact .text _ rfl
      simpa [sql, forms, exprs, hempty] using hword
    | false =>
      have hexprs : (member e values negated).exprs = e :: values := by simp [exprs, hempty]
      have he := Expr.carries_sql (h e (by simp [hexprs]))
      have hlist := Expr.carries_list (l := values) fun x hx => h x (by simp [hexprs, hx])
      have hin : Carries (if negated then " NOT IN (" else " IN (") [] := by
        cases negated <;> exact .text _ rfl
      have hall := ((he.append hin).append hlist).append (.text ")" rfl)
      simpa [sql, forms, exprs, hempty] using hall
  | between e low high =>
    have he := Expr.carries_sql (h e (by simp [exprs]))
    have hlow := Expr.carries_sql (h low (by simp [exprs]))
    have hhigh := Expr.carries_sql (h high (by simp [exprs]))
    have hbounds := (hlow.append (.text " AND " rfl)).append hhigh
    have hall := (he.append (.text " BETWEEN " rfl)).append hbounds
    simpa [sql, forms, exprs, String.append_assoc] using hall

end Predicate

/-! ## Chains of conditions -/

namespace Condition

/-- A condition behind others carries the forms of its predicate. -/
theorem carries_sql {c : Condition} (h : c.predicate.RawBalanced) :
    Carries c.sql c.predicate.forms := by
  have hword : Carries c.connective.keyword [] := by cases c.connective <;> exact .text _ rfl
  have hall := (((Carries.text " " rfl).append hword).append (.text " " rfl)).append
    (Predicate.carries_sql h)
  simpa [sql, String.append_assoc] using hall

/-- What a chain is without its seed: behind a `TRUE` the blanks in front of the first predicate are
dropped as well, and a `FALSE` stays. -/
theorem chain_eq_dropSeed {keyword : String} (hkw : keyword = "WHERE" ∨ keyword = "HAVING")
    (first : Condition) (rest : List Condition) :
    let body := first.predicate.sql ++ String.join (rest.map sql)
    chain keyword (first :: rest) = keyword ++
      match first.connective with
      | .and => " " ++ String.ofList (body.toList.dropWhile Text.isBlank)
      | .or => " FALSE OR " ++ body := by
  intro body
  have hbody : (seededChain keyword first rest).toList =
      keyword.toList ++ (" ".toList ++ first.connective.seed.toList ++ " ".toList ++
        first.connective.keyword.toList ++ " ".toList) ++ body.toList := by
    simp [seededChain, sql, body, List.flatMap_map]
  rw [← String.toList_inj, chain, String.toList_ofList, hbody]
  cases first.connective with
  | and =>
    rcases hkw with rfl | rfl
    · refine (dropSeed_true body.toList).1.trans ?_
      simp
    · refine (dropSeed_true body.toList).2.trans ?_
      simp
  | or =>
    rcases hkw with rfl | rfl
    · refine (dropSeed_false (" OR ".toList ++ body.toList)).1.trans ?_
      simp
    · refine (dropSeed_false (" OR ".toList ++ body.toList)).2.trans ?_
      simp

/-- **A chain carries the forms of its predicates**, although its seed is taken out again. -/
theorem carries_chain {keyword : String} (hkw : keyword = "WHERE" ∨ keyword = "HAVING")
    {conditions : List Condition} (h : ∀ c ∈ conditions, c.predicate.RawBalanced) :
    Carries (chain keyword conditions) (conditions.flatMap fun c => c.predicate.forms) := by
  cases conditions with
  | nil => exact .text "" rfl
  | cons first rest =>
    have hword : Carries keyword [] := by
      rcases hkw with rfl | rfl
      · exact .text "WHERE" rfl
      · exact .text "HAVING" rfl
    have hfirst := Predicate.carries_sql (h first (by simp))
    have hrest : Carries (String.join (rest.map sql))
        (rest.flatMap fun c => c.predicate.forms) :=
      .join fun c hc => carries_sql (h c (by simp [hc]))
    have hbody := hfirst.append hrest
    rw [chain_eq_dropSeed hkw, List.flatMap_cons]
    cases first.connective with
    | and => simpa using hword.append ((Carries.text " " rfl).append hbody.dropBlanks)
    | or => simpa using hword.append ((Carries.text " FALSE OR " rfl).append hbody)

end Condition

/-! ## The query -/

namespace Query

/-- Every raw piece of the query closes the quotes that it opens. -/
structure RawBalanced (q : Query) : Prop where
  columns : ∀ i ∈ q.columns, i.expr.RawBalanced ∧ ∀ a ∈ i.aliasName, Balanced a.toList
  joins : ∀ j ∈ q.joins, (∀ a ∈ j.aliasName, Balanced a.toList) ∧
    ∀ text ∈ j.onText, Balanced text.toList
  conditions : ∀ c ∈ q.conditions, c.predicate.RawBalanced
  groupBy : ∀ e ∈ q.groupBy, e.RawBalanced
  having : ∀ c ∈ q.having, c.predicate.RawBalanced
  orderBy : ∀ o ∈ q.orderBy, o.column.RawBalanced

/-- The escaped form of a sort key, qualified as it is written. -/
def orderForms (table : String) : Expr → List String
  | .raw _ => []
  | e => [orderColumn table e]

/-- The escaped forms of a query's names and values, clause by clause. -/
def forms (q : Query) : List String :=
  q.columns.flatMap (·.expr.forms) ++ [Name.escape q.table] ++
    q.joins.map (fun j => Name.escape j.table) ++
    q.conditions.flatMap (·.predicate.forms) ++ q.groupBy.flatMap Expr.forms ++
    q.having.flatMap (·.predicate.forms) ++ q.orderBy.flatMap fun o => orderForms q.table o.column

/-- The select list carries the forms of its entries. -/
theorem carries_selectList {columns : List SelectItem}
    (h : ∀ i ∈ columns, i.expr.RawBalanced ∧ ∀ a ∈ i.aliasName, Balanced a.toList) :
    Carries (selectList columns) (columns.flatMap (·.expr.forms)) := by
  unfold selectList
  cases hempty : columns.isEmpty with
  | true =>
    rw [List.isEmpty_iff.1 hempty]
    exact .text "*" rfl
  | false =>
    refine Carries.intercalate (.text ", " rfl) fun i hi => ?_
    obtain ⟨hexpr, halias⟩ := h i hi
    have hsql := Expr.carries_sql hexpr
    rw [SelectItem.sql]
    cases ha : i.aliasName with
    | none => exact hsql
    | some a =>
      have hall := (hsql.append (.text " AS " rfl)).append (.text a (halias a ha))
      simpa using hall

/-- The clause of the table carries its name. -/
theorem carries_fromClause (table : String) : Carries (fromClause table) [Name.escape table] :=
  (Carries.text "FROM " rfl).append (.form (Name.spells_escape table).isForm)

/-- The joins carry the names of their tables. -/
theorem carries_joinClause {joins : List Join}
    (h : ∀ j ∈ joins, (∀ a ∈ j.aliasName, Balanced a.toList) ∧
      ∀ text ∈ j.onText, Balanced text.toList) :
    Carries (joinClause joins) (joins.map fun j => Name.escape j.table) := by
  have hforms : (joins.map fun j => Name.escape j.table) =
      joins.flatMap fun j => [Name.escape j.table] := by simp [List.map_eq_flatMap]
  rw [hforms]
  refine Carries.intercalate (.text " " rfl) fun j hj => ?_
  obtain ⟨halias, hon⟩ := h j hj
  have hword : Carries j.type.keyword [] := by cases j.type <;> exact .text _ rfl
  have halias : Carries (j.aliasName.elim "" (" AS " ++ ·)) [] := by
    cases ha : j.aliasName with
    | none => exact .text "" rfl
    | some a => exact (Carries.text " AS " rfl).append (.text a (halias a ha))
  have hon : Carries (j.onText.elim "" (" ON " ++ ·)) [] := by
    cases ht : j.onText with
    | none => exact .text "" rfl
    | some text => exact (Carries.text " ON " rfl).append (.text text (hon text ht))
  have htext : joinText j = j.type.keyword ++ " " ++ Name.escape j.table ++
      j.aliasName.elim "" (" AS " ++ ·) ++ j.onText.elim "" (" ON " ++ ·) := by
    rw [joinText]
    cases j.aliasName <;> cases j.onText <;> rfl
  have hall := (((hword.append (.text " " rfl)).append
    (.form (Name.spells_escape j.table).isForm)).append halias).append hon
  rw [htext]
  exact hall

/-- The grouping carries the forms of its columns. -/
theorem carries_groupByClause {columns : List Expr} (h : ∀ e ∈ columns, e.RawBalanced) :
    Carries (groupByClause columns) (columns.flatMap Expr.forms) := by
  unfold groupByClause
  cases hempty : columns.isEmpty with
  | true =>
    rw [List.isEmpty_iff.1 hempty]
    exact .text "" rfl
  | false => exact (Carries.text " GROUP BY " rfl).append (Expr.carries_list h)

/-- A sort key carries its column in the form that is qualified with the table. -/
theorem carries_orderColumn (table : String) {e : Expr} (h : e.RawBalanced) :
    Carries (orderColumn table e) (orderForms table e) := by
  cases e with
  | raw s => exact .text s h
  | name n => exact .form (spells_orderColumn table (e := .name n) rfl).isForm
  | value v => exact .form v.spells_literal.isForm

/-- The sorting carries the forms of its keys. -/
theorem carries_orderByClause (table : String) {orderBy : List Order}
    (h : ∀ o ∈ orderBy, o.column.RawBalanced) :
    Carries (orderByClause table orderBy) (orderBy.flatMap fun o => orderForms table o.column) := by
  unfold orderByClause
  cases hempty : orderBy.isEmpty with
  | true =>
    rw [List.isEmpty_iff.1 hempty]
    exact .text "" rfl
  | false =>
    refine (Carries.text "ORDER BY " rfl).append
      (Carries.intercalate (.text ", " rfl) fun o ho => ?_)
    have hdir : Carries o.direction.keyword [] := by cases o.direction <;> exact .text _ rfl
    have hall := ((carries_orderColumn table (h o ho)).append (.text " " rfl)).append hdir
    simpa [orderText] using hall

/-- A number of rows holds no form. -/
theorem carries_rows (n : UInt64) : Carries (toString n.toNat) [] :=
  .text _ (spells_rows n).balanced

/-- A limit carries nothing: it is a keyword and digits. -/
theorem carries_limit (l : Limit) : Carries l.clause [] := by
  cases l with
  | all => exact .text "" rfl
  | rows n => exact (Carries.text "LIMIT " rfl).append (carries_rows n)

/-- An offset holds no form. -/
theorem carries_offsetClause (offset : UInt64) : Carries (offsetClause offset) [] := by
  unfold offsetClause
  split
  · exact .text "" rfl
  · exact (Carries.text "OFFSET " rfl).append (carries_rows offset)

/-- The clauses with the escaped forms in each of them. -/
def clauseForms (q : Query) : List (String × List String) :=
  [("SELECT", []), (selectList q.columns, q.columns.flatMap (·.expr.forms)),
    (fromClause q.table, [Name.escape q.table]),
    (joinClause q.joins, q.joins.map fun j => Name.escape j.table),
    (Condition.whereClause q.conditions, q.conditions.flatMap (·.predicate.forms)),
    (groupByClause q.groupBy, q.groupBy.flatMap Expr.forms),
    (Condition.havingClause q.having, q.having.flatMap (·.predicate.forms)),
    (orderByClause q.table q.orderBy, q.orderBy.flatMap fun o => orderForms q.table o.column),
    (q.limit.clause, []), (offsetClause q.offset, [])]

/-- Every clause carries the names and values that belong to it. -/
theorem carries_clauseForms {q : Query} (h : q.RawBalanced) :
    ∀ p ∈ q.clauseForms, Carries p.1 p.2 := by
  simp only [clauseForms, List.forall_mem_cons, List.not_mem_nil, false_imp_iff, implies_true,
    and_true]
  exact ⟨.text "SELECT" rfl, carries_selectList h.columns, carries_fromClause q.table,
    carries_joinClause h.joins, Condition.carries_chain (.inl rfl) h.conditions,
    carries_groupByClause h.groupBy, Condition.carries_chain (.inr rfl) h.having,
    carries_orderByClause q.table h.orderBy, carries_limit q.limit,
    carries_offsetClause q.offset⟩

/-- The forms of the clauses are those of the query. -/
theorem flatMap_clauseForms (q : Query) : q.clauseForms.flatMap Prod.snd = q.forms := by
  simp only [clauseForms, forms, List.flatMap_cons, List.flatMap_nil, List.nil_append,
    List.append_nil, List.append_assoc]

/-- **The text of a query is its clauses, each collapsed on its own**, with a single space between
those of which something is left, and the escaped form of every name and every value stands in it
unchanged. Raw SQL may be anything that closes the quotes that it opens. -/
theorem render_eq_clauses {q : Query} (h : q.RawBalanced) :
    q.render = " ".intercalate ((q.clauses.map collapse).filter (· ≠ "")) ∧
      ∀ f ∈ q.forms, f.toList <:+: q.render.toList := by
  have hcarries := carries_clauseForms h
  have hclauses : q.clauses = q.clauseForms.map Prod.fst := rfl
  refine ⟨?_, fun f hf => ?_⟩
  · refine collapse_intercalate fun a ha => ?_
    rw [hclauses] at ha
    obtain ⟨p, hp, rfl⟩ := List.mem_map.1 ha
    exact (hcarries p hp).balanced
  · have hall : Carries (" ".intercalate (q.clauseForms.map Prod.fst))
        (q.clauseForms.flatMap Prod.snd) := .intercalate (.text " " rfl) hcarries
    rw [flatMap_clauseForms] at hall
    exact hall.isInfix_collapse hf

/-- A query with blanks and quotes in its raw pieces and in its names. -/
def spacious : Query :=
  { ofTable "app.users" with
    columns := [⟨.raw "'a  b'", some " `x  y` "⟩, ⟨.value (.text "O'Neil  \n"), none⟩]
    joins := [⟨.left, "pets", some "p", some "p.name  =  \"it's  \\\" here\""⟩]
    conditions := [⟨.and, .raw "\n n = 'it''s  '"⟩, ⟨.or, .member (.name "n") [] true⟩]
    orderBy := [⟨.name "c  d", .ascending⟩] }

/-- Blanks between quotes are kept in names, in values and in raw SQL, and collapsed around them. -/
theorem render_eq_clauses_spacious : spacious.RawBalanced ∧
    spacious.render = " ".intercalate ["SELECT", "'a  b' AS `x  y` , 'O\\'Neil  \\n'",
      "FROM `app`.`users`", "LEFT JOIN `pets` AS p ON p.name = \"it's  \\\" here\"",
      "WHERE n = 'it''s  ' OR TRUE", "ORDER BY `app`.`users`.`c  d` ASC"] ∧
    "`app`.`users`.`c  d`".toList <:+: spacious.render.toList := by
  have hraw : spacious.RawBalanced := by
    constructor <;> simp [spacious, ofTable, Expr.RawBalanced, Predicate.RawBalanced,
      Predicate.exprs] <;> decide
  obtain ⟨hrender, hforms⟩ := render_eq_clauses hraw
  refine ⟨hraw, hrender.trans (congrArg _ ?_), hforms _ ?_⟩
  · decide +kernel
  · decide +kernel

end Query

end SqlBridge
