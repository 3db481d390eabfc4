import SqlBridge.Proofs.Write.Conditions
import SqlBridge.Session.Migration

/-!
# The kind of a statement and its text

A builder gives a statement its kind, and for text of unknown origin the kind is told by the leading
word. `Statement.Built` lists the builders, each with all its inputs; every change of the schema is
made by one of them (`built_of_change`). Whatever a builder is given, names and raw SQL included,
its text starts with a word of its kind (`Built.leads`): the words of a query, an update and a
deletion stand in front of the first name, where collapsing leaves them alone.

So a built statement and its bare text are run in the same way (`Built.kind_eq_classify`).
-/

namespace SqlBridge

namespace StatementKind

/-- The text starts with a word of the kind; rows are asked for with `SELECT`. -/
def Leads (kind : StatementKind) (sql : String) : Prop :=
  ∃ w rest, sql = w ++ rest ∧ ((w, kind) ∈ leadingWords ∨ w = "SELECT" ∧ kind = .select)

/-- What a text leads with does not depend on what follows. -/
theorem Leads.append {kind : StatementKind} {a : String} (ha : kind.Leads a) (b : String) :
    kind.Leads (a ++ b) := by
  obtain ⟨w, rest, rfl, hw⟩ := ha
  exact ⟨w, rest ++ b, String.append_assoc .., hw⟩

/-- A leading word with something behind it. -/
theorem leads_word {kind : StatementKind} (w rest : String) (hw : (w, kind) ∈ leadingWords) :
    kind.Leads (w ++ rest) :=
  ⟨w, rest, rfl, .inl hw⟩

/-- An `INSERT` leads to insertions. -/
theorem leads_insert (rest : String) : insert.Leads ("INSERT " ++ rest) :=
  leads_word _ rest (by decide)

/-- An `UPDATE` leads to updates. -/
theorem leads_update (rest : String) : update.Leads ("UPDATE " ++ rest) :=
  leads_word _ rest (by decide)

/-- A `DELETE` leads to deletions. -/
theorem leads_delete (rest : String) : delete.Leads ("DELETE " ++ rest) :=
  leads_word _ rest (by decide)

/-- A `CREATE` leads to changes of the schema. -/
theorem leads_create (rest : String) : ddl.Leads ("CREATE " ++ rest) :=
  leads_word _ rest (by decide)

/-- An `ALTER` leads to changes of the schema. -/
theorem leads_alter (rest : String) : ddl.Leads ("ALTER " ++ rest) :=
  leads_word _ rest (by decide)

/-- A `DROP` leads to changes of the schema. -/
theorem leads_drop (rest : String) : ddl.Leads ("DROP " ++ rest) :=
  leads_word _ rest (by decide)

/-- A `SELECT` leads to queries, whatever follows it. -/
theorem leads_select (rest : String) : select.Leads ("SELECT" ++ rest) :=
  ⟨"SELECT", rest, rfl, .inr ⟨rfl, rfl⟩⟩

/-- A leading word tells the kind, whatever follows it: no other leading word starts like it. -/
theorem classify_word {w : String} {kind : StatementKind} (hw : (w, kind) ∈ leadingWords)
    (rest : String) : classify (w ++ rest) = kind := by
  rw [classify, String.toList_append]
  simp only [leadingWords, List.mem_cons, Prod.mk.injEq, List.not_mem_nil, or_false] at hw
  rcases hw with ⟨rfl, rfl⟩ | ⟨rfl, rfl⟩ | ⟨rfl, rfl⟩ | ⟨rfl, rfl⟩ | ⟨rfl, rfl⟩ | ⟨rfl, rfl⟩ <;> rfl

/-- A text that asks for rows starts with none of the leading words. -/
theorem classify_select (rest : String) : classify ("SELECT" ++ rest) = select := by
  rw [classify, String.toList_append]
  rfl

/-- **The kind of a text is told by the word that leads it.** -/
theorem Leads.classify_eq {kind : StatementKind} {sql : String} (h : kind.Leads sql) :
    classify sql = kind := by
  obtain ⟨w, rest, rfl, hw | ⟨rfl, rfl⟩⟩ := h
  · exact classify_word hw rest
  · exact classify_select rest

end StatementKind

open Sql StatementKind

namespace Statement

/-- The statements that builders make, from whatever they are given. -/
inductive Built : Statement → Prop
  | query (q : Query) : Built q.toStatement
  | insertRow {table : String} {f : Fields} {strategy : ConflictStrategy} {st : Statement}
    (h : insertRow table f strategy = .ok st) : Built st
  | updateRows {table : String} {f : Fields} {conditions : List Condition} {st : Statement}
    (h : updateRows table f conditions = .ok st) : Built st
  | deleteRows (table : String) (conditions : List Condition) : Built (deleteRows table conditions)
  | createTable {name options : String} {columns : List String} {st : Statement}
    (h : Ddl.createTable name columns options = .ok st) : Built st
  | dropTable (name : String) : Built (Ddl.dropTable name)
  | addColumn (table definition : String) : Built (Ddl.addColumn table definition)
  | removeColumn (table column : String) : Built (Ddl.removeColumn table column)
  | addIndex {table : String} {columns : List String} {unique : Bool} {name : Option String}
    {st : Statement} (h : Ddl.addIndex table columns unique name = .ok st) : Built st
  | removeIndex {table : String} {columns : List String} {name : Option String} {st : Statement}
    (h : Ddl.removeIndex table columns name = .ok st) : Built st
  | createVersionsTable : Built Ddl.createVersionsTable
  | recordVersion (version : String) : Built (Ddl.recordVersion version)
  | forgetVersion (version : String) : Built (Ddl.forgetVersion version)
  | appliedVersions : Built Ddl.appliedVersions

/-- Every change of the schema is made by a builder. -/
theorem built_of_change {c : SchemaChange} {st : Statement} (h : c.statement = .ok st) :
    st.Built := by
  cases c with
  | createTable name options columns =>
    rw [SchemaChange.statement] at h
    cases hall : columns.mapM ColumnSpec.definition with
    | error e =>
      rw [hall] at h
      cases h
    | ok definitions =>
      rw [hall] at h
      exact .createTable h
  | addColumn table name tag setters =>
    rw [SchemaChange.statement] at h
    cases hdefinition : (ColumnSpec.typed name tag setters).definition with
    | error e =>
      rw [hdefinition] at h
      cases h
    | ok definition =>
      rw [hdefinition] at h
      cases h
      exact .addColumn table definition
  | addIndex table columns unique name => exact .addIndex h
  | removeIndex table columns name => exact .removeIndex h
  | dropTable name =>
    cases h
    exact .dropTable name
  | removeColumn table column =>
    cases h
    exact .removeColumn table column
  | createVersionsTable =>
    cases h
    exact .createVersionsTable
  | recordVersion version =>
    cases h
    exact .recordVersion version
  | forgetVersion version =>
    cases h
    exact .forgetVersion version

/-! ## Leading words -/

/-- The text of a query leads with `SELECT`, which collapsing leaves in front. -/
theorem leads_query (q : Query) : StatementKind.select.Leads q.render := by
  have htext : " ".intercalate q.clauses = "SELECT" ++ " " ++ " ".intercalate q.clauses.tail :=
    String.toList_inj.1 (by simp [Query.clauses])
  rw [Query.render, htext, (spells_word "SELECT" rfl).collapse_append]
  exact leads_select _

/-- Under every strategy the text of an insertion leads with `INSERT`. -/
theorem leads_insertRow {table : String} {f : Fields} {strategy : ConflictStrategy} {st : Statement}
    (h : insertRow table f strategy = .ok st) : st.kind.Leads st.sql := by
  have hword : StatementKind.insert.Leads (Dialect.insertKeyword strategy) := by
    cases strategy
    · exact leads_insert "INTO"
    · exact leads_insert "IGNORE INTO"
    · exact leads_insert "INTO"
  rw [insertRow] at h
  split at h
  · cases h
  · cases h
    simp only [String.append_assoc]
    split <;> exact hword.append _

/-- The text of an update leads with `UPDATE`. -/
theorem leads_updateRows {table : String} {f : Fields} {conditions : List Condition}
    {st : Statement} (h : updateRows table f conditions = .ok st) : st.kind.Leads st.sql := by
  have hword : StatementKind.update.Leads "UPDATE " := leads_update ""
  rw [updateRows] at h
  split at h
  · cases h
  · next hf =>
    cases h
    have hspells := spells_update table (f := f) (by simpa [Named.isEmpty] using hf)
    have hleads : StatementKind.update.Leads
        (updateText table f ++ behind (Condition.whereClause conditions)) :=
      (((hword.append _).append _).append _).append _
    rw [← hspells.collapse_append] at hleads
    exact hleads

/-- The text of a deletion leads with `DELETE`. -/
theorem leads_deleteRows (table : String) (conditions : List Condition) :
    StatementKind.delete.Leads (deleteRows table conditions).sql := by
  have hword : StatementKind.delete.Leads "DELETE FROM " := leads_delete "FROM "
  have hleads : StatementKind.delete.Leads
      (deleteText table ++ behind (Condition.whereClause conditions)) :=
    (hword.append _).append _
  rw [← (spells_delete table).collapse_append] at hleads
  exact hleads

/-- The text that creates a table leads with `CREATE`. -/
theorem leads_createTable {name options : String} {columns : List String} {st : Statement}
    (h : Ddl.createTable name columns options = .ok st) : st.kind.Leads st.sql := by
  have hword : StatementKind.ddl.Leads "CREATE TABLE " := leads_create "TABLE "
  rw [Ddl.createTable] at h
  split at h
  · cases h
  · cases h
    simp only [String.append_assoc]
    split <;> exact hword.append _

/-- The text that adds an index leads with `CREATE`, for a unique one as well. -/
theorem leads_addIndex {table : String} {columns : List String} {unique : Bool}
    {name : Option String} {st : Statement}
    (h : Ddl.addIndex table columns unique name = .ok st) : st.kind.Leads st.sql := by
  rw [Ddl.addIndex] at h
  split at h
  · cases h
  · cases h
    simp only [String.append_assoc]
    exact leads_create _

/-- The text that drops an index by its name leads with `DROP`. -/
theorem leads_dropIndex (index table : String) :
    StatementKind.ddl.Leads (Dialect.dropIndex index table) := by
  have hword : StatementKind.ddl.Leads "DROP INDEX " := leads_drop "INDEX "
  exact ((hword.append _).append _).append _

/-- The text that removes an index leads with `DROP`, whether its name is given or found. -/
theorem leads_removeIndex {table : String} {columns : List String} {name : Option String}
    {st : Statement} (h : Ddl.removeIndex table columns name = .ok st) :
    st.kind.Leads st.sql := by
  cases name with
  | some name =>
    cases h
    exact leads_dropIndex name table
  | none =>
    rw [Ddl.removeIndex] at h
    split at h
    · cases h
    · cases h
      exact leads_dropIndex _ table

/-- **A built statement starts with a word of its kind.** -/
theorem Built.leads {st : Statement} (h : st.Built) : st.kind.Leads st.sql := by
  have hdrop : StatementKind.ddl.Leads "DROP TABLE " := leads_drop "TABLE "
  have halter : StatementKind.ddl.Leads "ALTER TABLE " := leads_alter "TABLE "
  have hcreate : StatementKind.ddl.Leads "CREATE TABLE IF NOT EXISTS " :=
    leads_create "TABLE IF NOT EXISTS "
  have hinsert : StatementKind.insert.Leads "INSERT INTO " := leads_insert "INTO "
  have hdelete : StatementKind.delete.Leads "DELETE FROM " := leads_delete "FROM "
  have hselect : StatementKind.select.Leads "SELECT version FROM " := leads_select " version FROM "
  cases h with
  | query q => exact leads_query q
  | insertRow h => exact leads_insertRow h
  | updateRows h => exact leads_updateRows h
  | deleteRows table conditions => exact leads_deleteRows table conditions
  | createTable h => exact leads_createTable h
  | dropTable name => exact hdrop.append name
  | addColumn table definition => exact ((halter.append table).append _).append definition
  | removeColumn table column => exact ((halter.append table).append _).append column
  | addIndex h => exact leads_addIndex h
  | removeIndex h => exact leads_removeIndex h
  | createVersionsTable => exact (hcreate.append _).append _
  | recordVersion version => exact (((hinsert.append _).append _).append _).append _
  | forgetVersion version => exact ((hdelete.append _).append _).append _
  | appliedVersions => exact (hselect.append _).append _

/-! ## Running built statements -/

/-- **The kind of a built statement is the one that its text tells**, so the statement and its bare
text are run with the same result and leave the same world: the same answers taken, the same
statements sent, the same sessions and the same log. -/
theorem Built.kind_eq_classify {st : Statement} (h : st.Built) :
    StatementKind.classify st.sql = st.kind ∧
      ∀ {n : Nat} (x : Executor n) (w : World n), x.runSql w st.sql false = x.run w st false := by
  have hkind : StatementKind.classify st.sql = st.kind := h.leads.classify_eq
  refine ⟨hkind, fun x w => ?_⟩
  rw [Executor.runSql, classify, hkind]

/-- A world with a connection whose next statement changes two rows. -/
def served : World 1 :=
  ((World.fresh [⟨.done ⟨2, none⟩, []⟩]).connect (Fin.last 0)
    (.ofNames "localhost" "app" "shop")).2

/-- An update of a table with the name `*`, under a raw condition that leaves a quote open. -/
theorem kind_eq_classify_unclosed :
    let st : Statement := ⟨.update, "UPDATE * SET `a` = 1 WHERE x = 'INSERT  "⟩
    updateRows "*" (.ofList [("a", .int 1)]) [⟨.and, .raw "  x  = 'INSERT  "⟩] = .ok st ∧
      StatementKind.classify st.sql = .update ∧
      (Executor.runSql ⟨0, true⟩ served st.sql false).1 = .ok (Table.status 2) := by
  intro st
  have htext : collapse ("UPDATE * SET `a` = 1 " ++ Condition.whereClause
      [⟨.and, .raw "  x  = 'INSERT  "⟩]) = st.sql := by decide +kernel
  have hbuilt : updateRows "*" (.ofList [("a", .int 1)]) [⟨.and, .raw "  x  = 'INSERT  "⟩] =
      .ok st := congrArg Except.ok (congrArg (Statement.mk .update) htext)
  obtain ⟨hkind, hrun⟩ := (Built.updateRows hbuilt).kind_eq_classify
  refine ⟨hbuilt, hkind, ?_⟩
  rw [hrun]
  rfl

end Statement

end SqlBridge
