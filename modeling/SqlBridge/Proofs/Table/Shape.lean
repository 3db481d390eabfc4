import SqlBridge.Proofs.Session.Retry

/-!
# The shape of result tables

Turning rows over gives one column for each name, with one cell for each row: the cell of the row in
the column's place, or a null (`columns_ofRowSet`). The columns of such a table are of one length
(`Table.Rectangular`), and so are those of every table that is returned (`Table.Returned`), by
whatever statement and whatever way it went.

Of a table whose columns are of one length every row that it counts can be read, cell by cell, and
no other (`Table.Readable`); the rows of a table that was turned over are those it was made of, cut
or filled up to the number of columns (`tables_readable`).
-/

namespace SqlBridge

namespace Table

/-! ## Turning rows over -/

/-- A row as it stands under so many columns: cut, or filled up with nulls. -/
def fitRow (width : Nat) (row : List Value) : List Value :=
  row.take width ++ List.replicate (width - row.length) .null

/-- A row is cut or filled up to the width. -/
theorem length_fitRow (width : Nat) (row : List Value) : (fitRow width row).length = width := by
  simp only [fitRow, List.length_append, List.length_take, List.length_replicate]
  omega

/-- A cell of the row, or a null behind its end. -/
theorem getElem?_fitRow {width j : Nat} (hj : j < width) (row : List Value) :
    (fitRow width row)[j]? = some (row.getD j .null) := by
  rw [fitRow, List.getElem?_append, List.length_take, List.getElem?_take, List.getElem?_replicate,
    List.getD_eq_getElem?_getD]
  by_cases hrow : j < row.length
  · rw [if_pos (by omega), if_pos hj, List.getElem?_eq_getElem hrow]
    rfl
  · rw [if_neg (by omega), if_pos (by omega), List.getElem?_eq_none (by omega)]
    rfl

/-- Each column takes the cell in its own place. -/
theorem getElem?_pushRow (columns : List Column) (row : List Value) (j : Nat) :
    (pushRow columns row)[j]? =
      columns[j]?.map fun c => ⟨c.name, c.values ++ [row.getD j .null]⟩ := by
  induction columns generalizing row j with
  | nil => rfl
  | cons c rest ih =>
    cases row <;> cases j <;> simp [pushRow, ih]

/-- A column has got the cell of each row in its place, a null where the row was too short. -/
theorem getElem?_foldl_pushRow (rows : List (List Value)) (columns : List Column) (j : Nat) :
    (rows.foldl pushRow columns)[j]? =
      columns[j]?.map fun c => ⟨c.name, c.values ++ rows.map fun row => row.getD j .null⟩ := by
  induction rows generalizing columns with
  | nil => simp
  | cons row rows ih =>
    rw [List.foldl_cons, ih, getElem?_pushRow, Option.map_map]
    simp [Function.comp_def]

/-- **The columns that rows are turned into.** -/
theorem getElem?_columns_ofRowSet (r : RowSet) (j : Nat) :
    (ofRowSet r).columns[j]? =
      r.columns[j]?.map fun name => ⟨name, r.rows.map fun row => row.getD j .null⟩ := by
  rw [ofRowSet, getElem?_foldl_pushRow, List.getElem?_map, Option.map_map]
  rfl

/-- The columns are named as in the result, in its order. -/
theorem columnNames_ofRowSet (r : RowSet) : (ofRowSet r).columnNames = r.columns := by
  refine List.ext_getElem? fun j => ?_
  rw [columnNames, List.getElem?_map, getElem?_columns_ofRowSet, Option.map_map]
  exact Option.map_id'

/-- There are as many columns as in the result. -/
theorem columnCount_ofRowSet (r : RowSet) : (ofRowSet r).columnCount = r.columns.length := by
  rw [columnCount, ← columnNames_ofRowSet, columnNames, List.length_map]

/-! ## Columns of one length -/

/-- All columns are as long as the first one. -/
def Rectangular (t : Table) : Prop := ∀ c ∈ t.columns, c.values.length = t.rowCount

/-- Each column has a value for every row of the result. -/
theorem length_of_mem_ofRowSet {r : RowSet} {c : Column} (hc : c ∈ (ofRowSet r).columns) :
    c.values.length = r.rows.length := by
  obtain ⟨j, hj⟩ := List.mem_iff_getElem?.1 hc
  rw [getElem?_columns_ofRowSet, Option.map_eq_some_iff] at hj
  obtain ⟨name, -, rfl⟩ := hj
  exact List.length_map _

/-- The rows are counted unless there is no column. -/
theorem rowCount_ofRowSet (r : RowSet) :
    (ofRowSet r).rowCount = if r.columns = [] then 0 else r.rows.length := by
  have hnames := columnNames_ofRowSet r
  rw [columnNames] at hnames
  rw [rowCount]
  cases hcolumns : (ofRowSet r).columns with
  | nil =>
    rw [← hnames, hcolumns]
    rfl
  | cons c rest =>
    rw [← hnames, hcolumns]
    exact length_of_mem_ofRowSet (hcolumns ▸ List.mem_cons_self)

/-- The columns of a result are of one length. -/
theorem rectangular_ofRowSet (r : RowSet) : (ofRowSet r).Rectangular := by
  intro c hc
  have hne : r.columns ≠ [] := by
    intro hnil
    have hcount := columnCount_ofRowSet r
    rw [hnil, columnCount, List.length_nil, List.length_eq_zero_iff] at hcount
    exact absurd hc (hcount ▸ List.not_mem_nil)
  rw [length_of_mem_ofRowSet hc, rowCount_ofRowSet, if_neg hne]

/-- The columns of the table for an insertion are as long as each other. -/
theorem rectangular_inserted (id : Option UInt64) : (inserted id).Rectangular := by
  simp [Rectangular, inserted, rowCount]

/-- The columns of the table for a change are as long as each other. -/
theorem rectangular_status (affected : UInt64) : (status affected).Rectangular := by
  simp [Rectangular, status, rowCount]

/-- A table without columns has none that differ in length. -/
theorem rectangular_empty : empty.Rectangular := by simp [Rectangular, empty]

/-! ## Reading rows -/

/-- The rows that can be read from a table: these and no others, one by one and together. -/
structure Readable (t : Table) (cells : List (List Value)) : Prop where
  count : cells.length = t.rowCount
  row : ∀ i, t.row i = .ok cells[i]?
  rows : t.rows = .ok cells
  jsonRows : t.jsonRows = .ok (cells.map fun row =>
    Json.ofMembers (t.columnNames.zip (row.map Value.toJson)))

/-- A `mapM` that never fails is a `map`. -/
theorem mapM_eq_ok_map {α β ε : Type} {f : α → Except ε β} {g : α → β} {l : List α}
    (h : ∀ a ∈ l, f a = .ok (g a)) : l.mapM f = .ok (l.map g) := by
  induction l with
  | nil => rfl
  | cons a l ih =>
    rw [List.mapM_cons, h a List.mem_cons_self, ih fun b hb => h b (List.mem_cons_of_mem _ hb)]
    rfl

variable {t : Table}

/-- The cells in one place of all columns. -/
def cellsAt (t : Table) (i : Nat) : List Value := t.columns.map fun c => c.values.getD i .null

/-- In a rectangular table every row has a cell in every column. -/
theorem Rectangular.cells (ht : t.Rectangular) {i : Nat} (hi : i < t.rowCount) :
    t.cells i = .ok (t.cellsAt i) := by
  refine mapM_eq_ok_map fun c hc => ?_
  have hlt : i < c.values.length := (ht c hc).symm ▸ hi
  simp [List.getElem?_eq_getElem hlt]

/-- **A table whose columns are of one length can be read.** -/
theorem Rectangular.readable (ht : t.Rectangular) :
    t.Readable ((List.range t.rowCount).map t.cellsAt) where
  count := by simp
  row i := by
    rw [Table.row]
    split
    · next hi => simp [ht.cells hi, hi]
    · next hi => simp [hi]
  rows := mapM_eq_ok_map fun i hi => ht.cells (List.mem_range.1 hi)
  jsonRows := by
    rw [List.map_map]
    refine mapM_eq_ok_map fun i hi => ?_
    rw [jsonRow, ht.cells (List.mem_range.1 hi)]
    rfl

/-- The cells that rows leave in one place of all columns are the row in that place. -/
theorem cellsAt_ofRowSet {r : RowSet} {i : Nat} {row : List Value} (hrow : r.rows[i]? = some row) :
    (ofRowSet r).cellsAt i = fitRow r.columns.length row := by
  refine List.ext_getElem? fun j => ?_
  rw [cellsAt, List.getElem?_map, getElem?_columns_ofRowSet, Option.map_map]
  by_cases hj : j < r.columns.length
  · rw [getElem?_fitRow hj, List.getElem?_eq_getElem hj]
    simp [hrow]
  · rw [List.getElem?_eq_none (by omega), List.getElem?_eq_none (by rw [length_fitRow]; omega)]
    rfl

/-- **The rows of a table are those it was made of.** -/
theorem readable_ofRowSet (r : RowSet) :
    (ofRowSet r).Readable
      (if r.columns = [] then [] else r.rows.map (fitRow r.columns.length)) := by
  have hall := (rectangular_ofRowSet r).readable
  rw [rowCount_ofRowSet] at hall
  split at hall
  · next hnil => rwa [if_pos hnil]
  · next hne =>
    have hrows : (List.range r.rows.length).map (ofRowSet r).cellsAt =
        r.rows.map (fitRow r.columns.length) := by
      refine List.ext_getElem (by simp) fun i hi hi' => ?_
      have hlt : i < r.rows.length := by simpa using hi
      simp [cellsAt_ofRowSet (List.getElem?_eq_getElem hlt)]
    rwa [if_neg hne, ← hrows]

/-! ## Tables that are returned -/

/-- The tables that callers are given: turned over from rows, made for an effect, empty, or returned
by an executor. -/
inductive Returned : Table → Prop
  | ofRowSet (r : RowSet) : Returned (ofRowSet r)
  | inserted (id : Option UInt64) : Returned (inserted id)
  | status (affected : UInt64) : Returned (status affected)
  | empty : Returned empty
  | run {n : Nat} {x : Executor n} {w : World n} {st : Statement} {internal : Bool} {t : Table}
    (h : (x.run w st internal).1 = .ok t) : Returned t
  | runOn {n : Nat} {x : Executor n} {w : World n} {h : Handle} {st : Statement} {internal : Bool}
    {t : Table} (h : (x.runOn w h st internal).1 = .ok t) : Returned t
  | runSql {n : Nat} {x : Executor n} {w : World n} {sql : String} {internal : Bool} {t : Table}
    (h : (x.runSql w sql internal).1 = .ok t) : Returned t
  | runOnce {n : Nat} {x : Executor n} {w : World n} {st : Statement} {t : Table}
    (h : (x.runOnce w st).1 = .ok t) : Returned t
  | runWithOutcome {n : Nat} {x : Executor n} {w : World n} {st : Statement} {internal : Bool}
    {o : RetryOutcome Table} {t : Table} (h : (x.runWithOutcome w st internal).1 = .ok o)
    (ho : o.toExcept = .ok t) : Returned t

end Table

namespace Executor

variable {n : Nat} {x : Executor n} {w : World n} {h : Handle} {st : Statement} {internal : Bool}
  {t : Table}

/-- Whatever the answer is, the table made of it has columns of one length. -/
theorem rectangular_shape {kind : StatementKind} {a : Answer} (ht : kind.shape a = .ok t) :
    t.Rectangular := by
  cases kind with
  | select =>
    cases a <;> cases ht <;> exact Table.rectangular_ofRowSet _
  | insert =>
    cases a <;> cases ht <;> exact Table.rectangular_inserted _
  | update | delete | ddl =>
    cases a <;> cases ht <;> exact Table.rectangular_status _

/-- The table of an attempt that succeeds is rectangular, whatever the kind of the statement. -/
theorem rectangular_attempt (ht : (x.attempt w h st internal).1 = .ok t) : t.Rectangular := by
  rw [(x.attempt_spec w h st internal).1] at ht
  exact rectangular_shape ht

/-- The table of a statement is that of its first attempt or of its second one. -/
theorem rectangular_runWithRetry
    (ht : plainResult (x.runWithRetry w h st internal).1 = .ok t) : t.Rectangular := by
  rcases runWithRetry_table ht with ⟨hfirst, -⟩ | ⟨e, hretry⟩
  · exact rectangular_attempt hfirst
  · rw [hretry] at ht
    obtain ⟨fresh, w₂, w₃, -, hsecond, -⟩ := retry_table ht
    exact rectangular_attempt (congrArg Prod.fst hsecond)

/-- The table of a statement on the current connection is rectangular. -/
theorem rectangular_runWithOutcome
    (ht : plainResult (x.runWithOutcome w st internal).1 = .ok t) : t.Rectangular := by
  rw [runWithOutcome] at ht
  cases hactive : w.active x.manager with
  | error e =>
    rw [hactive] at ht
    cases ht
  | ok h =>
    rw [hactive] at ht
    exact rectangular_runWithRetry ht

/-- The table of a statement that is sent only once is rectangular. -/
theorem rectangular_runOnce (ht : (x.runOnce w st).1 = .ok t) : t.Rectangular := by
  rw [runOnce] at ht
  cases hactive : w.active x.manager with
  | error e =>
    rw [hactive] at ht
    cases ht
  | ok h =>
    rw [hactive] at ht
    cases hfirst : x.attempt w h st true with
    | mk r w₁ =>
      simp only [hfirst] at ht
      cases r with
      | error e => cases ht
      | ok t' =>
        cases ht
        exact rectangular_attempt (congrArg Prod.fst hfirst)

end Executor

namespace Table

/-- **The columns of a table that is returned are of one length.** -/
theorem Returned.rectangular {t : Table} (ht : t.Returned) : t.Rectangular := by
  cases ht with
  | ofRowSet r => exact rectangular_ofRowSet r
  | inserted id => exact rectangular_inserted id
  | status affected => exact rectangular_status affected
  | empty => exact rectangular_empty
  | run h => exact Executor.rectangular_runWithOutcome h
  | runOn h => exact Executor.rectangular_runWithRetry h
  | runSql h => exact Executor.rectangular_runWithOutcome h
  | runOnce h => exact Executor.rectangular_runOnce h
  | @runWithOutcome n x w st internal o t h ho =>
    have hresult : Executor.plainResult (x.runWithOutcome w st internal).1 = .ok t := by
      rw [h]
      exact ho
    exact Executor.rectangular_runWithOutcome hresult

/-- **Rows become columns of one length and can be read again.** A table that is made of rows has
their columns in order, each with one cell for each row, and its rows are the given ones, cut or
filled up with nulls. And of every table that is returned the columns are of one length, so that
every row that it counts can be read and no reading ends in a missing cell. -/
theorem tables_readable :
    (∀ r : RowSet,
      (ofRowSet r).columnNames = r.columns ∧
        (∀ (j : Nat) (c : Column), (ofRowSet r).columns[j]? = some c →
          c.values.length = r.rows.length ∧
            ∀ (i : Nat) (row : List Value), r.rows[i]? = some row →
              c.values[i]? = some (row.getD j .null)) ∧
        (ofRowSet r).Readable
          (if r.columns = [] then [] else r.rows.map (fitRow r.columns.length))) ∧
      ∀ t : Table, t.Returned → t.Rectangular ∧ ∃ cells, t.Readable cells := by
  refine ⟨fun r => ⟨columnNames_ofRowSet r, fun j c hc => ⟨?_, fun i row hrow => ?_⟩,
    readable_ofRowSet r⟩, fun t ht => ⟨ht.rectangular, _, ht.rectangular.readable⟩⟩
  · exact length_of_mem_ofRowSet (List.mem_of_getElem? hc)
  · rw [getElem?_columns_ofRowSet, Option.map_eq_some_iff] at hc
    obtain ⟨name, -, rfl⟩ := hc
    simp [hrow]

/-- Rows that are shorter and longer than the columns, of which two have one name. -/
def ragged : RowSet :=
  ⟨["a", "b", "a"], [[.int 1], [.int 2, .int 3, .int 4, .int 5], []]⟩

/-- A world with a connection whose next statement loses its session and is answered after that. -/
def answering : World 1 :=
  ((World.fresh [⟨.fail (.transientBackend (some 2006) "gone away"), []⟩,
    ⟨.rows ragged, []⟩]).connect World.solo (.ofNames "localhost" "app" "shop")).2

/-- Rows that are too short and too long, under a name that stands there twice. -/
theorem tables_readable_ragged :
    let t := ofRowSet ragged
    (Executor.run ⟨0, false⟩ answering ⟨.select, "SELECT a, b, a FROM t"⟩ false).1 = .ok t ∧
      t.rows = .ok [[.int 1, .null, .null], [.int 2, .int 3, .int 4], [.null, .null, .null]] ∧
      t.row 3 = .ok none ∧ t.Rectangular := by
  intro t
  have hrun : (Executor.run ⟨0, false⟩ answering ⟨.select, "SELECT a, b, a FROM t"⟩ false).1 =
      .ok t := rfl
  obtain ⟨-, -, hreadable⟩ := tables_readable.1 ragged
  obtain ⟨hrectangular, -⟩ := tables_readable.2 t (.run hrun)
  exact ⟨hrun, hreadable.rows, hreadable.row 3, hrectangular⟩

end Table

end SqlBridge
