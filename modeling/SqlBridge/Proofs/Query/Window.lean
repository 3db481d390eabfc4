import SqlBridge.Proofs.Query.Tokens
import SqlBridge.Proofs.Setters
import SqlBridge.Proofs.Sql.Truth

/-!
# The window of a query

The limit and the offset of a query say which rows of the result are wanted: some are skipped, and
then at most so many taken, or all. Both are fields that the last builder of their own has set
(`Query.limit_build`, `Query.offset_build`). In the text they are the last two clauses, and a server
that reads these takes the same rows from the result (`Window.ofTokens?`, `Window.select`).

There is one exception (`Query.render_window`). With an offset and no limit the text ends in an
`OFFSET` alone, which is not a clause of the language (`Query.not_always_window`).
-/

namespace SqlBridge

open Sql

/-! ## Windows -/

/-- A part of the rows of a result. -/
structure Window where
  /-- The number of rows that are skipped. -/
  skip : Nat
  /-- The number of rows that are taken at most; all when there is none. -/
  count : Option Nat
  deriving DecidableEq, Repr

namespace Window

/-- The rows in the window. -/
def select {α : Type} (w : Window) (rows : List α) : List α :=
  match w.count with
  | some n => (rows.drop w.skip).take n
  | none => rows.drop w.skip

/-- A number of rows: digits alone. -/
def number? (s : String) : Option Nat :=
  if s.toList.all Char.isDigit then some (Nat.ofDigitChars 10 s.toList 0) else none

/-- The window that a server reads behind the sort keys: nothing, `LIMIT` with a number, or behind
it an `OFFSET` with another one. -/
def ofTokens? : List Token → Option Window
  | [] => some ⟨0, none⟩
  | [limit, .number n] =>
    if limit.isKeyword "LIMIT" then (number? n).map fun n => ⟨0, some n⟩ else none
  | [limit, .number n, offset, .number m] =>
    if limit.isKeyword "LIMIT" ∧ offset.isKeyword "OFFSET" then
      (number? n).bind fun n => (number? m).map fun m => ⟨m, some n⟩
    else none
  | _ => none

/-- A number is read from its digits. -/
theorem number?_repr (n : Nat) : number? n.repr = some n := by
  have hdigits : n.repr.toList.all Char.isDigit = true := by
    rw [Nat.toList_repr, List.all_eq_true]
    exact (Numeral.isDigits_toDigits n).digits
  rw [number?, if_pos hdigits, Nat.toList_repr, Nat.ofDigitChars_toDigits (by decide) (by decide)]

/-- The window of a limit and an offset is read; an offset without a limit is not. -/
theorem ofTokens?_tokens (limit : Limit) (offset : UInt64) :
    ofTokens? (limit.tokens ++ offsetTokens offset) =
      match limit with
      | .rows n => some ⟨offset.toNat, some n.toNat⟩
      | .all => if offset = 0 then some ⟨0, none⟩ else none := by
  have hlimit : (Token.word "LIMIT").isKeyword "LIMIT" = true := by decide
  have hoffset : (Token.word "OFFSET").isKeyword "OFFSET" = true := by decide
  have hneither : (Token.word "OFFSET").isKeyword "LIMIT" = false := by decide
  unfold offsetTokens
  cases limit with
  | all =>
    split
    · rfl
    · simp [Limit.tokens, ofTokens?, hneither]
  | rows n =>
    split
    · next hzero => simp [Limit.tokens, ofTokens?, hlimit, number?_repr, hzero]
    · simp [Limit.tokens, ofTokens?, hlimit, hoffset, number?_repr]

end Window

namespace Query

/-! ## Builders -/

/-- A call of a builder. -/
inductive Builder where
  | withTable (table : String)
  | withColumns (columns : List SelectItem)
  | withJoins (joins : List Join)
  | withConditions (conditions : List Condition)
  | withGroupBy (groupBy : List Expr)
  | withHaving (having : List Condition)
  | withOrder (orderBy : List Order)
  | withLimit (n : UInt64)
  | unlimited
  | withOffset (offset : UInt64)
  | andWhere (p : Predicate)
  | orWhere (p : Predicate)
  | join (j : Join)
  | order (o : Order)
  | paginate (page perPage : UInt64)

namespace Builder

/-- What a call makes of a query. -/
def apply (q : Query) : Builder → Query
  | withTable table => q.withTable table
  | withColumns columns => q.withColumns columns
  | withJoins joins => q.withJoins joins
  | withConditions conditions => q.withConditions conditions
  | withGroupBy groupBy => q.withGroupBy groupBy
  | withHaving conditions => q.withHaving conditions
  | withOrder orderBy => q.withOrder orderBy
  | withLimit n => q.withLimit n
  | unlimited => q.unlimited
  | withOffset offset => q.withOffset offset
  | andWhere p => q.andWhere p
  | orWhere p => q.orWhere p
  | join j => q.join j
  | order o => q.order o
  | paginate page perPage => q.paginate page perPage

/-- The limit that a call sets. -/
def limit? : Builder → Option Limit
  | withLimit n => some (.rows n)
  | unlimited => some .all
  | paginate _ perPage => some (.rows perPage)
  | _ => none

/-- The offset that a call sets. -/
def offset? : Builder → Option UInt64
  | withOffset offset => some offset
  | paginate page perPage => some (pageOffset page perPage)
  | _ => none

/-- A call sets the limit or leaves it alone. -/
theorem limit_apply (q : Query) (b : Builder) : (b.apply q).limit = b.limit?.getD q.limit := by
  cases b <;> rfl

/-- A call sets the offset or leaves it alone. -/
theorem offset_apply (q : Query) (b : Builder) :
    (b.apply q).offset = b.offset?.getD q.offset := by
  cases b <;> rfl

end Builder

/-- The query that calls make, one after the other, of everything from a table. -/
def build (table : String) (calls : List Builder) : Query :=
  calls.foldl Builder.apply (ofTable table)

/-- **The limit is the last one that was set.** -/
theorem limit_build (table : String) (calls : List Builder) :
    (build table calls).limit = (calls.filterMap Builder.limit?).getLastD .all :=
  Setters.foldl_eq_getLastD Builder.limit_apply calls _

/-- **The offset is the last one that was set.** -/
theorem offset_build (table : String) (calls : List Builder) :
    (build table calls).offset = (calls.filterMap Builder.offset?).getLastD 0 :=
  Setters.foldl_eq_getLastD Builder.offset_apply calls _

end Query

/-! ## The last two clauses -/

/-- A letter, a digit or a space. -/
def isPlain (c : Char) : Bool := c.isAlphanum || c == ' '

/-- What is plain is neither a quote nor a backslash. -/
theorem not_quote_of_isPlain {c : Char} (h : isPlain c = true) (q : QuoteMark) :
    c ≠ q.char ∧ ¬(c = '\\' ∧ q.hasEscapes) := by
  have hne : ∀ d : Char, isPlain d = false → c ≠ d := by
    rintro d hd rfl
    rw [h] at hd
    cases hd
  refine ⟨?_, fun hslash => hne '\\' (by decide) hslash.1⟩
  cases q with
  | apostrophe => exact hne '\'' (by decide)
  | double => exact hne '"' (by decide)
  | backtick => exact hne Name.backtick (by decide)

/-- The digits of a number of rows are plain. -/
theorem isPlain_rows (n : UInt64) : (toString n.toNat).toList.all isPlain = true := by
  have htext : (toString n.toNat).toList = Nat.toDigits 10 n.toNat := Nat.toList_repr
  rw [htext, List.all_eq_true]
  intro c hc
  have hdigit := (Numeral.isDigits_toDigits n.toNat).digits c hc
  simp [isPlain, Char.isAlphanum, hdigit]

/-- Both clauses are plain. -/
theorem isPlain_window (l : Limit) (offset : UInt64) :
    (l.clause.toList ++ ' ' :: (offsetClause offset).toList).all isPlain = true := by
  have hlimit : l.clause.toList.all isPlain = true := by
    cases l with
    | all => rfl
    | rows n =>
      rw [Limit.clause, String.toList_append, List.all_append, isPlain_rows]
      rfl
  have hoffset : (offsetClause offset).toList.all isPlain = true := by
    unfold offsetClause
    split
    · rfl
    · rw [String.toList_append, List.all_append, isPlain_rows]
      rfl
  rw [List.all_append, List.all_cons, hlimit, hoffset]
  rfl

/-- Outside of quotes both clauses are collapsed, and what is left reads as their tokens. -/
theorem tokens_window_gap (l : Limit) (offset : UInt64) :
    tokensFrom .between
        (collapseFrom .gap (l.clause.toList ++ ' ' :: (offsetClause offset).toList)) =
      some (l.tokens ++ offsetTokens offset) := by
  have hboth : ∀ p ∈ [(l.clause, l.tokens), (offsetClause offset, offsetTokens offset)],
      SpellsPart p.1 p.2 := by
    simp [l.spellsPart_clause, spellsPart_offsetClause offset]
  have hparts := tokens_collapse_intercalate hboth
  have hjoined : (" ".intercalate [l.clause, offsetClause offset]).toList =
      l.clause.toList ++ ' ' :: (offsetClause offset).toList := by simp
  rw [tokens, toList_collapse] at hparts
  simp only [List.map_cons, List.map_nil, hjoined, List.flatMap_cons, List.flatMap_nil,
    List.append_nil] at hparts
  rw [collapseFrom_gap, spaced]
  split
  · next hnil => rw [← hparts, hnil]
  · rw [tokensFrom_between_space, hparts]

/-- Between quotes both clauses are copied, and on their own they read as their tokens as well. -/
theorem tokens_window_quoted (q : QuoteMark) (l : Limit) (offset : UInt64) :
    tokensFrom .between (' ' :: collapseFrom (.quoted q)
        (l.clause.toList ++ ' ' :: (offsetClause offset).toList)) =
      some (l.tokens ++ offsetTokens offset) := by
  have hplain : ∀ c ∈ l.clause.toList ++ ' ' :: (offsetClause offset).toList,
      c ≠ q.char ∧ ¬(c = '\\' ∧ q.hasEscapes) := fun c hc =>
    not_quote_of_isPlain (List.all_eq_true.1 (isPlain_window l offset) c hc) q
  have hoffset := (spellsPart_offsetClause offset).reads _ breaks_nil
  rw [List.append_nil] at hoffset
  rw [(collapseFrom_quoted hplain).1, tokensFrom_between_space,
    l.spellsPart_clause.reads _ (breaks_space _), tokensFrom_between_space, hoffset]
  simp [Lexer.finish, Lexer.pending]

/-- What is left of the two clauses behind other text reads as their tokens, also between quotes
that are not closed there. -/
theorem tokens_window {s : Scan} (hs : s ≠ .start) (l : Limit) (offset : UInt64) :
    tokensFrom .between
        (collapseFrom s (' ' :: (l.clause.toList ++ ' ' :: (offsetClause offset).toList))) =
      some (l.tokens ++ offsetTokens offset) := by
  cases s with
  | start => exact absurd rfl hs
  | word => exact tokens_window_gap l offset
  | gap => exact tokens_window_gap l offset
  | quoted q =>
    have hnext : (Scan.quoted q).next ' ' = .quoted q := by cases q <;> decide
    rw [collapseFrom_cons, hnext]
    exact tokens_window_quoted q l offset
  | escaped q => exact tokens_window_quoted q l offset

namespace Query

/-- The text of the clauses up to the sort keys. -/
def front (q : Query) : String := collapse (" ".intercalate (q.clauses.take 8))

/-- The text of a query goes on behind its sort keys with what the server reads as its limit and its
offset. -/
theorem exists_render_eq (q : Query) :
    ∃ tail : String, q.render = q.front ++ tail ∧ (∀ c ∈ tail.toList.head?, c = ' ') ∧
      Sql.tokens tail = some (q.limit.tokens ++ offsetTokens q.offset) := by
  generalize hfront : (" ".intercalate (q.clauses.take 8)).toList = front
  have htext : (" ".intercalate q.clauses).toList =
      front ++ ' ' :: (q.limit.clause.toList ++ ' ' :: (offsetClause q.offset).toList) := by
    rw [← hfront]
    simp [clauses]
  -- the text begins with a word, so the scan is past its start
  have hstart : Scan.start.after front ≠ .start := by
    have hword : Text.isBlank 'S' = false := by decide
    rw [Ne, ← collapseChars_eq_nil_iff, ← hfront]
    simp [clauses, collapseChars, Scan.emit, hword]
  refine ⟨String.ofList (collapseFrom (Scan.start.after front)
    (' ' :: (q.limit.clause.toList ++ ' ' :: (offsetClause q.offset).toList))), ?_, ?_, ?_⟩
  · rw [← String.toList_inj, render, Query.front, toList_collapse, htext, String.toList_append,
      toList_collapse, String.toList_ofList, hfront]
    exact collapseFrom_append .start front _
  · rw [String.toList_ofList]
    exact head_collapseFrom hstart _
  · rw [Sql.tokens, String.toList_ofList]
    exact tokens_window hstart q.limit q.offset

/-- Without raw SQL the server reads the clauses one after the other. -/
theorem tokens_front {q : Query} (h : q.RawFree) :
    ∃ ts, Sql.tokens q.front = some ts ∧
      Sql.tokens q.render = some (ts ++ (q.limit.tokens ++ offsetTokens q.offset)) := by
  have hparts : ∀ p ∈ q.parts.take 8, SpellsPart p.1 p.2 := fun p hp =>
    spellsPart_parts h p (List.mem_of_mem_take hp)
  have hclauses : (q.parts.take 8).map Prod.fst = q.clauses.take 8 := rfl
  have hfront := tokens_collapse_intercalate hparts
  rw [hclauses] at hfront
  have htokens : q.tokens =
      (q.parts.take 8).flatMap Prod.snd ++ (q.limit.tokens ++ offsetTokens q.offset) := by
    simp [Query.tokens, parts]
  exact ⟨_, hfront, htokens ▸ tokens_render h⟩

/-- **The window of a query**, whatever calls of builders it was made with. Limit and offset are the
last ones that were set. The text is that of the other clauses with the window behind it, and from
the window alone the server reads which rows of the result are wanted: it skips as many as the
offset says and takes as many as the limit says, or all that are left. With no limit it reads a
window only if the offset is zero; otherwise an `OFFSET` stands alone, and no server reads that.
Without raw SQL the window is also what the server reads at the end of the whole text. -/
theorem render_window (table : String) (calls : List Builder) :
    let q := build table calls
    q.limit = (calls.filterMap Builder.limit?).getLastD .all ∧
      q.offset = (calls.filterMap Builder.offset?).getLastD 0 ∧
      (∃ tail : String, q.render = q.front ++ tail ∧ (∀ c ∈ tail.toList.head?, c = ' ') ∧
        Sql.tokens tail = some (q.limit.tokens ++ offsetTokens q.offset) ∧
        ∀ (α : Type) (rows : List α),
          ((Sql.tokens tail).bind Window.ofTokens?).map (·.select rows) =
            match q.limit with
            | .rows n => some ((rows.drop q.offset.toNat).take n.toNat)
            | .all => if q.offset = 0 then some rows else none) ∧
      (q.RawFree → ∃ ts, Sql.tokens q.front = some ts ∧
        Sql.tokens q.render = some (ts ++ (q.limit.tokens ++ offsetTokens q.offset))) := by
  intro q
  obtain ⟨tail, hrender, hhead, htokens⟩ := q.exists_render_eq
  refine ⟨limit_build table calls, offset_build table calls,
    ⟨tail, hrender, hhead, htokens, fun α rows => ?_⟩, tokens_front⟩
  rw [htokens, Option.bind_some, Window.ofTokens?_tokens]
  cases q.limit with
  | rows n => rfl
  | all =>
    by_cases hzero : q.offset = 0
    · rw [if_pos hzero]
      simp [hzero, Window.select]
    · rw [if_neg hzero]
      simp [hzero]

/-- Pages of the logs, with all rows behind the first ones in the end. -/
def scrolled : List Builder := [.withLimit 20, .paginate 3 10, .order ⟨.name "id", .descending⟩]

/-- The third page of ten is a limit and an offset, and a query without raw SQL has them for its
last tokens. -/
theorem render_window_scrolled :
    let q := build "logs" scrolled
    q.RawFree ∧ q.limit = .rows 10 ∧ q.offset = 20 ∧
      q.render = q.front ++ " LIMIT 10 OFFSET 20" ∧
      ∃ ts, Sql.tokens q.front = some ts ∧ Sql.tokens q.render =
        some (ts ++ [.word "LIMIT", .number "10", .word "OFFSET", .number "20"]) := by
  intro q
  obtain ⟨hlimit, hoffset, -, hread⟩ := render_window "logs" scrolled
  have hraw : q.RawFree := by
    constructor <;> simp [q, build, scrolled, Builder.apply, ofTable, Expr.isRaw, withLimit,
      paginate, order]
  exact ⟨hraw, hlimit, hoffset, by decide +kernel, hread hraw⟩

/-- **Not every query has a window that a server reads**: without a limit an offset stands alone. -/
theorem not_always_window :
    ¬∀ (table : String) (calls : List Builder),
      ∃ tail : String, (build table calls).render = (build table calls).front ++ tail ∧
        ((Sql.tokens tail).bind Window.ofTokens?).isSome := by
  intro h
  obtain ⟨tail, hrender, hread⟩ := h "logs" [.withLimit 20, .unlimited, .withOffset 50]
  have htext : (build "logs" [.withLimit 20, .unlimited, .withOffset 50]).render =
      (build "logs" [.withLimit 20, .unlimited, .withOffset 50]).front ++ " OFFSET 50" := by
    decide +kernel
  have htail : tail.toList = " OFFSET 50".toList := by
    have hboth := congrArg String.toList (hrender.symm.trans htext)
    rw [String.toList_append, String.toList_append] at hboth
    exact List.append_cancel_left hboth
  rw [String.toList_inj.1 htail] at hread
  revert hread
  decide +kernel

end Query

end SqlBridge
