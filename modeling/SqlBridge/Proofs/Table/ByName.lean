import SqlBridge.Proofs.Table.Shape

/-!
# Cells by the names of their columns

A cell can be found by the name of its column in two ways. The table takes the first column of that
name (`Table.column?`). The object of a row is put together member by member, and a later member
replaces an earlier one of the same key (`Json.lookup_insertMember`), so there the last column of
that name counts (`Table.lastColumn?`, `Table.Rectangular.jsonRow`).

The two agree on a name that only one column has. Of a repeated name they give the cells of two
columns, and agree only where these have the same JSON form (`Table.cells_by_name`).
-/

namespace SqlBridge

/-! ## The first and the last place of an entry -/

/-- The place is that of the first such entry. -/
def IsFirst {α : Type} (l : List α) (a : α) (j : Nat) : Prop :=
  l[j]? = some a ∧ ∀ i < j, l[i]? ≠ some a

/-- The place is that of the last such entry. -/
def IsLast {α : Type} (l : List α) (a : α) (k : Nat) : Prop :=
  l[k]? = some a ∧ ∀ i > k, l[i]? ≠ some a

section Places

variable {α : Type} {l : List α} {a : α} {j k : Nat}

/-- There is only one first place. -/
theorem IsFirst.eq (hj : IsFirst l a j) (hk : IsFirst l a k) : j = k := by
  rcases Nat.lt_trichotomy j k with hlt | heq | hlt
  · exact absurd hj.1 (hk.2 j hlt)
  · exact heq
  · exact absurd hk.1 (hj.2 k hlt)

/-- There is only one last place. -/
theorem IsLast.eq (hj : IsLast l a j) (hk : IsLast l a k) : j = k := by
  rcases Nat.lt_trichotomy j k with hlt | heq | hlt
  · exact absurd hk.1 (hj.2 k hlt)
  · exact heq
  · exact absurd hj.1 (hk.2 j hlt)

/-- What is in a list has a first place in it. -/
theorem exists_isFirst (h : a ∈ l) : ∃ j, IsFirst l a j := by
  obtain ⟨before, behind, rfl, hbefore⟩ := List.eq_append_cons_of_mem h
  refine ⟨before.length, by simp, fun i hi => ?_⟩
  rw [List.getElem?_append_left hi]
  exact fun hget => hbefore (List.mem_of_getElem? hget)

/-- The last entry is the first one from behind. -/
theorem isLast_iff (hk : k < l.length) :
    IsLast l a k ↔ IsFirst l.reverse a (l.length - 1 - k) := by
  have hplace : l.reverse[l.length - 1 - k]? = l[k]? := by
    rw [List.getElem?_reverse (by omega)]
    congr 1
    omega
  rw [IsLast, IsFirst, hplace]
  refine and_congr_right fun _ => ⟨fun h i hi => ?_, fun h i hi hget => ?_⟩
  · rw [List.getElem?_reverse (by omega)]
    exact h _ (by omega)
  · have hi' : i < l.length := (List.getElem?_eq_some_iff.1 hget).1
    refine h (l.length - 1 - i) (by omega) ?_
    rw [List.getElem?_reverse (by omega), ← hget]
    congr 1
    omega

/-- What is in a list has a last place in it. -/
theorem exists_isLast (h : a ∈ l) : ∃ k, IsLast l a k := by
  obtain ⟨j, hj⟩ := exists_isFirst (List.mem_reverse.2 h)
  have hlt : j < l.length := by
    simpa using (List.getElem?_eq_some_iff.1 hj.1).1
  have hback : l.length - 1 - (l.length - 1 - j) = j := by omega
  exact ⟨l.length - 1 - j, (isLast_iff (by omega)).2 (hback.symm ▸ hj)⟩

end Places

/-! ## Members of objects -/

namespace Json

/-- What is found under a key is what the first such entry holds. -/
theorem lookup_cons_ite {β : Type} (key k : String) (b : β) (l : List (String × β)) :
    ((key, b) :: l).lookup k = if k = key then some b else l.lookup k := by
  rw [List.lookup_cons]
  by_cases hk : k = key
  · rw [if_pos hk, beq_iff_eq.2 hk]
  · rw [if_neg hk, beq_eq_false_iff_ne.2 hk]

/-- A member that is inserted is found under its key, and no other key is touched. -/
theorem lookup_insertMember (key : String) (value : Json) (members : List (String × Json))
    (k : String) :
    (insertMember key value members).lookup k =
      if k = key then some value else members.lookup k := by
  induction members with
  | nil => exact lookup_cons_ite key k value []
  | cons m rest ih =>
    obtain ⟨key', value'⟩ := m
    rw [insertMember]
    split
    · -- in front of a greater key
      exact lookup_cons_ite key k value _
    · split
      · next heq =>
        -- in the place of an equal one
        subst heq
        rw [lookup_cons_ite, lookup_cons_ite]
        split <;> rfl
      · next hne =>
        rw [lookup_cons_ite, lookup_cons_ite, ih]
        by_cases hk : k = key'
        · rw [if_pos hk, if_pos hk, if_neg (hk ▸ Ne.symm hne)]
        · rw [if_neg hk, if_neg hk]

/-- **Of members with one key the last one counts.** -/
theorem member?_ofMembers (members : List (String × Json)) (key : String) :
    (ofMembers members).member? key = members.reverse.lookup key := by
  suffices h : ∀ sorted : List (String × Json),
      (members.foldl (fun sorted m => insertMember m.1 m.2 sorted) sorted).lookup key =
        (members.reverse.lookup key).or (sorted.lookup key) from
    (h []).trans (Option.or_none)
  induction members with
  | nil => exact fun sorted => rfl
  | cons m rest ih =>
    intro sorted
    rw [List.foldl_cons, ih, lookup_insertMember, List.reverse_cons, List.lookup_append,
      Option.or_assoc, lookup_cons_ite]
    congr 1
    split <;> rfl

end Json

/-! ## Columns of a name -/

namespace Table

variable {t : Table} {name : String}

/-- The last column of a name. -/
def lastColumn? (t : Table) (name : String) : Option Column :=
  t.columns.reverse.find? fun c => c.name = name

/-- A name finds the first column that has it. -/
theorem column?_of_isFirst {j : Nat} (h : IsFirst t.columnNames name j) :
    t.column? name = t.columns[j]? := by
  obtain ⟨hname, hfirst⟩ := h
  rw [columnNames, List.getElem?_map, Option.map_eq_some_iff] at hname
  obtain ⟨c, hc, hcname⟩ := hname
  obtain ⟨hj, hget⟩ := List.getElem?_eq_some_iff.1 hc
  rw [hc]
  refine List.find?_eq_some_iff_getElem.2 ⟨by simpa using hcname, j, hj, hget, fun i hi => ?_⟩
  have hne := hfirst i hi
  rw [columnNames, List.getElem?_map, List.getElem?_eq_getElem (by omega)] at hne
  simpa using hne

/-- Looked up from the end, a name finds the last column that has it. -/
theorem lastColumn?_of_isLast {k : Nat} (h : IsLast t.columnNames name k) :
    t.lastColumn? name = t.columns[k]? := by
  have hk : k < t.columnNames.length := (List.getElem?_eq_some_iff.1 h.1).1
  have hlength : t.columnNames.length = t.columns.length := List.length_map _
  -- it is the first column of the table with its columns the other way round
  have hfirst : IsFirst (Table.mk t.columns.reverse).columnNames name
      (t.columnNames.length - 1 - k) := by
    rw [columnNames, List.map_reverse]
    exact (isLast_iff hk).1 h
  refine (column?_of_isFirst hfirst).trans ?_
  rw [List.getElem?_reverse (by omega)]
  congr 1
  omega

/-- A name that no column has finds nothing. -/
theorem column?_eq_none (h : name ∉ t.columnNames) : t.column? name = none := by
  refine List.find?_eq_none.2 fun c hc hname => h ?_
  exact List.mem_map.2 ⟨c, hc, of_decide_eq_true hname⟩

/-- Looked up from the end, a name that no column has finds nothing. -/
theorem lastColumn?_eq_none (h : name ∉ t.columnNames) : t.lastColumn? name = none := by
  refine List.find?_eq_none.2 fun c hc hname => h ?_
  exact List.mem_map.2 ⟨c, List.mem_reverse.1 hc, of_decide_eq_true hname⟩

/-! ## Rows as objects -/

/-- The cell of a row under the last column of a name. -/
def lastValue? (t : Table) (row : Nat) (name : String) : Option Value :=
  (t.lastColumn? name).bind fun c => c.values[row]?

/-- What is kept by name is found where the column is. -/
theorem lookup_map_columns {β : Type} (columns : List Column) (f : Column → β) (name : String) :
    (columns.map fun c => (c.name, f c)).lookup name =
      (columns.find? fun c => c.name = name).map f := by
  induction columns with
  | nil => rfl
  | cons c rest ih =>
    rw [List.map_cons, Json.lookup_cons_ite, List.find?_cons, ih]
    by_cases hname : c.name = name
    · rw [if_pos hname.symm, decide_eq_true hname]
      rfl
    · rw [if_neg (Ne.symm hname), decide_eq_false hname]

/-- The members of a row's object, before equal keys are sorted out. -/
def rowMembers (t : Table) (i : Nat) : List (String × Json) :=
  t.columns.map fun c => (c.name, (c.values.getD i .null).toJson)

/-- Every row of a rectangular table has an object, made of the names of the columns and the cells
of the row. -/
theorem Rectangular.jsonRow (ht : t.Rectangular) {i : Nat} (hi : i < t.rowCount) :
    t.jsonRow i = .ok (Json.ofMembers (t.rowMembers i)) := by
  rw [Table.jsonRow, ht.cells hi, columnNames, cellsAt]
  simp [rowMembers, List.zip_map', Function.comp_def]

/-- **The object of a row** has under each name the JSON form of the cell in the last column of that
name. -/
theorem Rectangular.member?_row (ht : t.Rectangular) {i : Nat} (hi : i < t.rowCount)
    (name : String) :
    (Json.ofMembers (t.rowMembers i)).member? name = (t.lastValue? i name).map Value.toJson := by
  rw [Json.member?_ofMembers, rowMembers, ← List.map_reverse, lookup_map_columns, lastValue?,
    lastColumn?]
  cases hlast : t.columns.reverse.find? fun c => c.name = name with
  | none => rfl
  | some c =>
    have hc : c ∈ t.columns := List.mem_reverse.1 (List.mem_of_find?_eq_some hlast)
    have hlt : i < c.values.length := (ht c hc).symm ▸ hi
    simp [List.getElem?_eq_getElem hlt]

/-- A rectangular table has an object for each of its rows, in order. -/
theorem Rectangular.jsonRows (ht : t.Rectangular) :
    t.jsonRows = .ok ((List.range t.rowCount).map fun i => Json.ofMembers (t.rowMembers i)) :=
  mapM_eq_ok_map fun _ hi => ht.jsonRow (List.mem_range.1 hi)

/-! ## Rows that were turned over -/

variable {r : RowSet} {i : Nat} {row : List Value}

/-- A cell of a row stands in its column. -/
theorem cell_ofRowSet {j : Nat} (hrow : r.rows[i]? = some row) (hname : r.columns[j]? = some name) :
    ((ofRowSet r).columns[j]?.bind fun c => c.values[i]?) = some (row.getD j .null) := by
  rw [getElem?_columns_ofRowSet, hname]
  simp [hrow]

/-- By its name a cell is taken from the first column of that name. -/
theorem value?_ofRowSet {j : Nat} (hrow : r.rows[i]? = some row) (hj : IsFirst r.columns name j) :
    (ofRowSet r).value? i name = some (row.getD j .null) := by
  have hfirst : IsFirst (ofRowSet r).columnNames name j := (columnNames_ofRowSet r).symm ▸ hj
  rw [value?, column?_of_isFirst hfirst]
  exact cell_ofRowSet hrow hj.1

/-- In the object of a row the cell of the last column of a name is kept. -/
theorem lastValue?_ofRowSet {k : Nat} (hrow : r.rows[i]? = some row)
    (hk : IsLast r.columns name k) : (ofRowSet r).lastValue? i name = some (row.getD k .null) := by
  have hlast : IsLast (ofRowSet r).columnNames name k := (columnNames_ofRowSet r).symm ▸ hk
  rw [lastValue?, lastColumn?_of_isLast hlast]
  exact cell_ofRowSet hrow hk.1

/-- **Cells by the name of their column.** All rows of a table that was made of rows can be had as
objects. By the name of a column, the table gives the cell of a row in the first column of that
name, and the object of the row the JSON form of the cell in the last one. The two agree exactly
where these cells have the same JSON form, and so they do on every name that is not repeated and on
every name that no column has. -/
theorem cells_by_name (r : RowSet) :
    ∃ objects, (ofRowSet r).jsonRows = .ok objects ∧ objects.length = (ofRowSet r).rowCount ∧
      ∀ (i : Nat) (row : List Value) (object : Json),
        r.rows[i]? = some row → objects[i]? = some object → ∀ name : String,
          (name ∈ r.columns → ∃ j k, IsFirst r.columns name j ∧ IsLast r.columns name k ∧
            (ofRowSet r).value? i name = some (row.getD j .null) ∧
            object.member? name = some (row.getD k .null).toJson ∧
            (object.member? name = ((ofRowSet r).value? i name).map Value.toJson ↔
              (row.getD k .null).toJson = (row.getD j .null).toJson)) ∧
          ((∀ j k : Nat, r.columns[j]? = some name → r.columns[k]? = some name → j = k) →
            object.member? name = ((ofRowSet r).value? i name).map Value.toJson) := by
  have ht := rectangular_ofRowSet r
  refine ⟨_, ht.jsonRows, by simp, fun i row object hrow hobject name => ?_⟩
  rw [List.getElem?_map, Option.map_eq_some_iff] at hobject
  obtain ⟨i', hplace, rfl⟩ := hobject
  obtain ⟨hi, rfl⟩ := List.getElem?_eq_some_iff.1 hplace
  simp only [List.length_range, List.getElem_range] at hi ⊢
  have hmember := ht.member?_row hi name
  rw [hmember]
  have hfound (hname : name ∈ r.columns) : ∃ j k, IsFirst r.columns name j ∧
      IsLast r.columns name k ∧ (ofRowSet r).value? i name = some (row.getD j .null) ∧
      (ofRowSet r).lastValue? i name = some (row.getD k .null) := by
    obtain ⟨j, hj⟩ := exists_isFirst hname
    obtain ⟨k, hk⟩ := exists_isLast hname
    exact ⟨j, k, hj, hk, value?_ofRowSet hrow hj, lastValue?_ofRowSet hrow hk⟩
  refine ⟨fun hname => ?_, fun hsingle => ?_⟩
  · obtain ⟨j, k, hj, hk, hvalue, hlast⟩ := hfound hname
    refine ⟨j, k, hj, hk, hvalue, by rw [hlast]; rfl, ?_⟩
    rw [hvalue, hlast, Option.map_some, Option.map_some, Option.some_inj]
  · by_cases hname : name ∈ r.columns
    · obtain ⟨j, k, hj, hk, hvalue, hlast⟩ := hfound hname
      rw [hvalue, hlast, hsingle j k hj.1 hk.1]
    · rw [← columnNames_ofRowSet r] at hname
      rw [value?, lastValue?, column?_eq_none hname, lastColumn?_eq_none hname]

/-- A row of two joined tables that both have an `id`. -/
def joinedTables : RowSet := ⟨["id", "name", "id"], [[.int 1, .string "ann", .int 2]]⟩

/-- The value of `id` is that of the first table, and the member of the object is that of the
second; for `name`, that only one of them has, they are the same. -/
theorem cells_by_name_joined : ∃ object,
    (ofRowSet joinedTables).jsonRows = .ok [object] ∧
      (ofRowSet joinedTables).value? 0 "id" = some (.int 1) ∧
      object.member? "id" = some (Value.int 2).toJson ∧
      object.member? "name" = ((ofRowSet joinedTables).value? 0 "name").map Value.toJson := by
  obtain ⟨objects, hobjects, hlength, hcells⟩ := cells_by_name joinedTables
  obtain ⟨object, rfl⟩ := List.length_eq_one_iff.1 hlength
  have hcells := hcells 0 _ object rfl rfl
  obtain ⟨j, k, hj, hk, hvalue, hmember, -⟩ := (hcells "id").1 (by decide)
  have hfirst : IsFirst joinedTables.columns "id" 0 := ⟨rfl, by simp⟩
  have hlast : IsLast joinedTables.columns "id" 2 := by
    refine ⟨rfl, fun i hi hget => ?_⟩
    have hlt : i < 3 := (List.getElem?_eq_some_iff.1 hget).1
    omega
  obtain rfl := hj.eq hfirst
  obtain rfl := hk.eq hlast
  have hmiddle (j : Nat) (hj : joinedTables.columns[j]? = some "name") : j = 1 := by
    rcases j with _ | _ | j
    · simp [joinedTables] at hj
    · rfl
    · cases j <;> simp [joinedTables] at hj
  exact ⟨object, hobjects, hvalue, hmember,
    (hcells "name").2 fun j k hj hk => (hmiddle j hj).trans (hmiddle k hk).symm⟩

/-- **The two ways of finding a cell disagree**: of a name that two joined tables have, the row
gives the cell of the first column and its object that of the last. -/
theorem not_cells_agree :
    ¬∀ (r : RowSet) (objects : List Json) (i : Nat) (object : Json) (name : String),
      (ofRowSet r).jsonRows = .ok objects → objects[i]? = some object → name ∈ r.columns →
        object.member? name = ((ofRowSet r).value? i name).map Value.toJson := by
  intro h
  have hid := h joinedTables _ 0 _ "id" rfl rfl (by decide)
  cases hid

end Table

end SqlBridge
