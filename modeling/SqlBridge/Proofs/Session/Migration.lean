import SqlBridge.Proofs.Session.Failure

/-!
# Changes of the schema are sent once

A change of the schema is not sent when its arguments are rejected; which arguments those are, and
with which error, is told by `SchemaChange.Rejects`. Otherwise it is sent at most once: whatever the
answer is, nothing is opened, closed or sent again (`Executor.SendsOnce`). The same holds of asking
for the applied versions.
-/

namespace SqlBridge

variable {n : Nat}

/-! ## Arguments that are rejected -/

section Lists

variable {α β : Type} {f : α → Except Error β} {a : α} {l : List α} {e : Error}

/-- A list fails at its first entry that does: the head, or one behind a head that gives a
result. -/
theorem mapM_cons_eq_error_iff :
    (a :: l).mapM f = .error e ↔ f a = .error e ∨ (∃ b, f a = .ok b) ∧ l.mapM f = .error e := by
  rw [List.mapM_cons]
  cases hfirst : f a with
  | error e' => simp [bind, Except.bind]
  | ok b =>
    cases hrest : l.mapM f with
    | error e' => simp [bind, Except.bind]
    | ok bs => simp [bind, Except.bind, pure, Except.pure]

/-- Of several that fail the first one decides. -/
theorem mapM_eq_error_iff :
    l.mapM f = .error e ↔ ∃ before a after,
      l = before ++ a :: after ∧ (∀ b ∈ before, ∃ t, f b = .ok t) ∧ f a = .error e := by
  induction l with
  | nil => simp [pure, Except.pure]
  | cons a l ih =>
    rw [mapM_cons_eq_error_iff, ih]
    constructor
    · rintro (ha | ⟨hfirst, before, b, after, rfl, hbefore, hb⟩)
      · exact ⟨[], a, l, rfl, by simp, ha⟩
      · exact ⟨a :: before, b, after, rfl, List.forall_mem_cons.2 ⟨hfirst, hbefore⟩, hb⟩
    · rintro ⟨_ | ⟨b, before⟩, c, after, heq, hbefore, hc⟩
      · obtain ⟨rfl, rfl⟩ := List.cons.inj heq
        exact .inl hc
      · obtain ⟨rfl, rfl⟩ := List.cons.inj heq
        obtain ⟨hfirst, hbefore⟩ := List.forall_mem_cons.1 hbefore
        exact .inr ⟨hfirst, before, c, after, rfl, hbefore, hc⟩

/-- A list with an entry does not lead to an empty one. -/
theorem not_mapM_cons_eq_nil : (a :: l).mapM f ≠ .ok [] := by
  rw [List.mapM_cons]
  cases f a with
  | error e => simp [bind, Except.bind]
  | ok b => cases l.mapM f <;> simp [bind, Except.bind, pure, Except.pure]

end Lists

/-- The arguments of a change are rejected with an error. -/
inductive SchemaChange.Rejects : SchemaChange → Error → Prop
  /-- The first column without a definition decides. -/
  | column {name options : String} {before after : List ColumnSpec} {c : ColumnSpec} {e : Error}
    (hbefore : ∀ b ∈ before, ∃ definition, b.definition = .ok definition)
    (hc : c.definition = .error e) : Rejects (.createTable name options (before ++ c :: after)) e
  | noColumns {name options : String} :
    Rejects (.createTable name options []) (.invalidQuery (.noColumns name))
  | addColumn {table name tag : String} {setters : List ColumnSetter} {e : Error}
    (hc : (ColumnSpec.typed name tag setters).definition = .error e) :
    Rejects (.addColumn table name tag setters) e
  | addIndex {table : String} {unique : Bool} {name : Option String} :
    Rejects (.addIndex table [] unique name) (.invalidQuery (.noIndexColumns table))
  | removeIndex {table : String} :
    Rejects (.removeIndex table [] none) (.invalidQuery .unnamedIndex)

namespace SchemaChange

variable {c : SchemaChange} {e : Error}

/-- Arguments that are rejected give no statement but the error. -/
theorem Rejects.statement (h : c.Rejects e) : c.statement = .error e := by
  cases h with
  | @column name options before after c e hbefore hc =>
    have hall := mapM_eq_error_iff.2 ⟨before, c, after, rfl, hbefore, hc⟩
    simp only [SchemaChange.statement, hall]
    rfl
  | addColumn hc =>
    simp only [SchemaChange.statement, hc]
    rfl
  | noColumns | addIndex | removeIndex => rfl

/-- When a table cannot be created, its columns are to blame: there are none, or one of them has no
definition. -/
theorem rejects_createTable {name options : String} {columns : List ColumnSpec}
    (h : (createTable name options columns).statement = .error e) :
    (createTable name options columns).Rejects e := by
  rw [SchemaChange.statement] at h
  cases hall : columns.mapM ColumnSpec.definition with
  | error e' =>
    rw [hall] at h
    obtain ⟨before, c, after, rfl, hbefore, hc⟩ := mapM_eq_error_iff.1 hall
    cases h
    exact .column hbefore hc
  | ok definitions =>
    rw [hall] at h
    cases definitions with
    | nil =>
      cases columns with
      | nil =>
        cases h
        exact .noColumns
      | cons c columns => exact absurd hall not_mapM_cons_eq_nil
    | cons definition definitions => cases h

/-- **A change has no statement exactly if its arguments are rejected.** -/
theorem statement_eq_error_iff : c.statement = .error e ↔ c.Rejects e := by
  refine ⟨fun h => ?_, Rejects.statement⟩
  cases c with
  | createTable name options columns => exact rejects_createTable h
  | addColumn table name tag setters =>
    rw [SchemaChange.statement] at h
    cases hc : (ColumnSpec.typed name tag setters).definition with
    | error e' =>
      rw [hc] at h
      cases h
      exact .addColumn hc
    | ok definition =>
      rw [hc] at h
      cases h
  | addIndex table columns unique name =>
    cases columns with
    | nil =>
      cases h
      exact .addIndex
    | cons column columns => cases h
  | removeIndex table columns name =>
    cases name with
    | some name => cases h
    | none =>
      cases columns with
      | nil =>
        cases h
        exact .removeIndex
      | cons column columns => cases h
  | dropTable | removeColumn | createVersionsTable | recordVersion | forgetVersion => cases h

end SchemaChange

/-! ## Sending once -/

namespace Executor

/-- What becomes of an operation with a statement, or with arguments that were rejected: the
statement is sent at most once. -/
structure SendsOnce {α : Type} (x : Executor n) (w : World n) (statement : Except Error Statement)
    (after : Except Error α × World n) : Prop where
  /-- Arguments that are rejected are so whether or not there is a connection. -/
  rejected : ∀ e, statement = .error e → after = (.error e, w)
  /-- Without a current handle nothing is sent. -/
  unconnected : ∀ st, statement = .ok st → (w.manager x.manager).current = none →
    after = (.error (.notConnected .noneActive), w)
  /-- Otherwise the statement is sent on the current handle, and nothing else is done. An error of
  the server is the result, whichever it is, and with any other answer the operation succeeds. -/
  asked : ∀ st h, statement = .ok st → (w.manager x.manager).current = some h →
    w.OnlyAsked (sentOn st h) after.2 ∧
      (∀ e, w.server.answer 0 = .fail e → after.1 = .error e) ∧
      ((∀ e, w.server.answer 0 ≠ .fail e) → ∃ a, after.1 = .ok a)
  /-- In every case the server receives at most one statement. -/
  atMostOnce : ∃ statements, statements.length ≤ 1 ∧
    after.2.server.sent = w.server.sent ++ statements
  /-- In every case managers, handles and sessions stay as they are, unless other tasks act until
  the answer arrives. -/
  untouched : (∀ r ∈ w.server.replies[0]?, r.meanwhile = []) → w.Alike after.2

variable {α : Type} {w : World n} {h : Handle} (x : Executor n)

/-- Arguments that are rejected send nothing and leave the world as it is. -/
theorem sendsOnce_rejected (w : World n) (e : Error) :
    x.SendsOnce (α := α) w (.error e) (.error e, w) where
  rejected _ he := by rw [Except.error.inj he]
  unconnected _ hst := nomatch hst
  asked _ _ hst := nomatch hst
  atMostOnce := ⟨[], Nat.zero_le 1, (List.append_nil _).symm⟩
  untouched _ := ⟨rfl, rfl, rfl, rfl, rfl⟩

/-- Without a current handle a statement is not sent, and the error says so. -/
theorem sendsOnce_unconnected (hcurrent : (w.manager x.manager).current = none) (st : Statement) :
    x.SendsOnce (α := α) w (.ok st) (.error (.notConnected .noneActive), w) where
  rejected _ he := nomatch he
  unconnected _ _ _ := rfl
  asked _ _ _ hh := nomatch hcurrent.symm.trans hh
  atMostOnce := ⟨[], Nat.zero_le 1, (List.append_nil _).symm⟩
  untouched _ := ⟨rfl, rfl, rfl, rfl, rfl⟩

/-- On the current handle the statement is sent, once, and its result is that of the operation. -/
theorem sendsOnce_connected (hcurrent : (w.manager x.manager).current = some h) (st : Statement)
    (f : Table → α) :
    x.SendsOnce w (.ok st) (f <$> (x.runOnce w st).1, (x.runOnce w st).2) := by
  obtain ⟨hresult, hasked⟩ := runOnce_spec hcurrent st
  rw [hresult]
  refine ⟨fun e he => ?_, fun st' _ hnone => ?_, fun st' g hst hg => ?_, ?_, hasked.quiet⟩
  · cases he
  · rw [hcurrent] at hnone
    cases hnone
  · obtain rfl := Except.ok.inj hst
    obtain rfl := Option.some.inj (hcurrent.symm.trans hg)
    refine ⟨hasked, fun e hfail => ?_, fun hgood => ?_⟩
    · rw [hfail, shape_fail]
      rfl
    · obtain ⟨t, ht⟩ := shape_good st.kind hgood
      rw [ht]
      exact ⟨f t, rfl⟩
  · exact ⟨[sentOn st h], Nat.le_refl 1, hasked.sent⟩

/-- A statement that is sent once, with whatever is made of its result. -/
theorem sendsOnce_runOnce (w : World n) (st : Statement) (f : Table → α) :
    x.SendsOnce w (.ok st) (f <$> (x.runOnce w st).1, (x.runOnce w st).2) := by
  cases hcurrent : (w.manager x.manager).current with
  | none =>
    rw [runOnce_of_none hcurrent]
    exact x.sendsOnce_unconnected hcurrent st
  | some h => exact x.sendsOnce_connected hcurrent st f

/-- **A change of the schema is sent at most once**, and so is asking for the applied versions,
whatever the managers remember and the server answers. -/
theorem schema_sendsOnce (w : World n) :
    (∀ c : SchemaChange, x.SendsOnce w c.statement (x.change w c) ∧
      ∀ e, c.statement = .error e ↔ c.Rejects e) ∧
      x.SendsOnce w (.ok Ddl.appliedVersions) (x.appliedVersions w) := by
  refine ⟨fun c => ⟨?_, fun e => SchemaChange.statement_eq_error_iff⟩, ?_⟩
  · rw [change]
    cases c.statement with
    | error e => exact x.sendsOnce_rejected w e
    | ok st => exact x.sendsOnce_runOnce w st fun _ => ()
  · exact x.sendsOnce_runOnce w Ddl.appliedVersions versionsOf

/-- A world in which the next statement loses its session. -/
def failing : World 1 :=
  (World.fresh [⟨.fail (.transientBackend (some 2006) "gone away"), []⟩]).after
    [.connect World.solo World.someConfig]

/-- A table is dropped on a session that is lost: the statement is not sent again, and the handle
stays the current one. -/
theorem schema_sendsOnce_failing :
    let after := Executor.change ⟨World.solo, false⟩ failing (.dropTable "posts")
    after.1 = .error (.transientBackend (some 2006) "gone away") ∧
      after.2.server.sent = [⟨1, .execute, "DROP TABLE posts"⟩] ∧
      (after.2.manager World.solo).current = some ⟨1, 1⟩ := by
  intro after
  obtain ⟨hchange, -⟩ := schema_sendsOnce ⟨World.solo, false⟩ failing
  obtain ⟨hasked, hfailed, -⟩ := (hchange (.dropTable "posts")).1.asked _ ⟨1, 1⟩ rfl rfl
  have halike := hasked.quiet fun r hr => by
    rw [← Option.some.inj hr]
  refine ⟨hfailed _ rfl, hasked.sent, ?_⟩
  rw [halike.manager]
  rfl

end Executor

end SqlBridge
