import SqlBridge.Proofs.Session.Leak

/-!
# The log of queries

An executor that logs queries notes the text of a user's statement when an attempt at it has
succeeded, and a statement has two attempts at most, of which the second is made only when the first
has failed. So what a call adds to the log of queries is told by its result alone, whatever other
tasks do meanwhile (`Command.logs_run`), and what a script adds to it by the results of its calls
(`Command.queryLog_script`).
-/

namespace SqlBridge

variable {n : Nat}

/-! ## Entries of the log -/

/-- The text of a statement that was noted as finished. -/
def LogEvent.finished? : LogEvent → Option String
  | finished sql => some sql
  | _ => none

/-- The statements that were noted as finished, in order. -/
def queryLog (log : List LogEvent) : List String := log.filterMap LogEvent.finished?

namespace World

variable {w w' w'' : World n}

/-- Nothing was taken from the log from one world to the other, and these are the statements that
were noted as finished. -/
def Logs (w : World n) (queries : List String) (w' : World n) : Prop :=
  ∃ events, w'.log = w.log ++ events ∧ queryLog events = queries

namespace Logs

/-- A step that leaves the log alone adds no statement to it. -/
theorem of_log_eq (h : w'.log = w.log) : w.Logs [] w' := ⟨[], by simp [h], rfl⟩

/-- Where nothing happens nothing is added. -/
theorem refl (w : World n) : w.Logs [] w := of_log_eq rfl

/-- What two steps add stands in their order. -/
theorem trans {first second : List String} (hfirst : w.Logs first w')
    (hsecond : w'.Logs second w'') : w.Logs (first ++ second) w'' := by
  obtain ⟨events, hlog, rfl⟩ := hfirst
  obtain ⟨events', hlog', rfl⟩ := hsecond
  exact ⟨events ++ events', by rw [hlog', hlog, List.append_assoc],
    List.filterMap_append⟩

/-- A step that adds nothing does not change what was added before it. -/
theorem quiet {queries : List String} (h : w.Logs queries w') (hrest : w'.Logs [] w'') :
    w.Logs queries w'' := by
  simpa using h.trans hrest

/-- A note adds its statement when it is about one that finished, and nothing otherwise. -/
theorem note (w : World n) (e : LogEvent) : w.Logs e.finished?.toList (w.note e) :=
  ⟨[e], rfl, by cases h : e.finished? <;> simp [queryLog, h]⟩

/-- What was added can be seen. -/
theorem queryLog_drop {queries : List String} (h : w.Logs queries w') :
    queryLog (w'.log.drop w.log.length) = queries := by
  obtain ⟨events, hlog, rfl⟩ := h
  rw [hlog, List.drop_left]

/-- The statements of the log are those from before and the added ones behind them. -/
theorem queryLog_eq {queries : List String} (h : w.Logs queries w') :
    queryLog w'.log = queryLog w.log ++ queries := by
  obtain ⟨events, hlog, rfl⟩ := h
  rw [hlog, queryLog, List.filterMap_append]
  rfl

end Logs

/-! ## Operations of managers -/

/-- To open a session notes nothing, whether or not it can be opened. -/
theorem log_openHandle (w : World n) (m : Fin n) (config : ConnectionConfig) :
    (w.openHandle m config).2.log = w.log := by
  rw [openHandle]
  split <;> rfl

/-- Nothing is noted about sessions that are closed one by one. -/
theorem log_closeEach (w : World n) (l : List Handle) : (w.closeEach l).log = w.log := by
  obtain ⟨closed, heq, -⟩ := w.closeEach_eq l
  rw [heq]

/-- A connection is noted, but no statement. -/
theorem logs_connect (w : World n) (m : Fin n) (config : ConnectionConfig) :
    w.Logs [] (w.connect m config).2 := by
  have hopen := Logs.of_log_eq (w.log_openHandle m config)
  rw [connect]
  split
  · exact .refl w
  · generalize w.openHandle m config = opened at hopen
    obtain ⟨r, w'⟩ := opened
    cases r with
    | error e => exact hopen
    | ok h => exact hopen.trans (.note w' (.connected Server.driverName config.url h.id))

/-- A connection that takes the place of a lost one is noted, but no statement. -/
theorem logs_reconnect (w : World n) (m : Fin n) (lost : Handle) :
    w.Logs [] (w.reconnect m lost).2 := by
  have hreopen : w.Logs [] (w.reopen m lost).2 := by
    rw [reopen]
    split
    · exact .refl w
    · next config hconfig =>
      exact (Logs.note w (.reconnecting Server.driverName lost.id)).trans
        (.of_log_eq (log_openHandle _ m config))
  rw [reconnect]
  generalize w.reopen m lost = reopened at hreopen
  obtain ⟨r, w'⟩ := reopened
  cases r with
  | error e => exact hreopen
  | ok h => exact hreopen

/-- A handle is retired without a note. -/
theorem log_retire (w : World n) (m : Fin n) (h : Handle) : (w.retire m h).2.log = w.log :=
  log_closeEach (w.update m fun k => k.unqueue h) [h]

/-- A sweep notes nothing. -/
theorem log_closeStale (w : World n) (m : Fin n) (held : List Handle) :
    (w.closeStale m held).2.log = w.log := by
  rw [closeStale, log_closeEach]
  rfl

/-- A handle is given up without a note. -/
theorem log_disconnect (w : World n) (m : Fin n) (h : Handle) :
    (w.disconnect m h).2.log = w.log := by
  rw [disconnect]
  split
  · exact log_closeEach (w.update m fun k => k.release h) [h]
  · rfl

/-- All handles are given up without a note. -/
theorem log_disconnectAll (w : World n) (m : Fin n) : (w.disconnectAll m).2.log = w.log := by
  rw [disconnectAll_eq, log_closeEach]
  rfl

/-- What other tasks do while a statement waits is not about statements. -/
theorem logs_interruptions (w : World n) (l : List (Interruption n)) :
    w.Logs [] (l.foldl interrupt w) := by
  induction l generalizing w with
  | nil => exact .refl w
  | cons i l ih =>
    have hstep : w.Logs [] (w.interrupt i) := by
      cases i with
      | connect m config => exact w.logs_connect m config
      | disconnectAll m => exact .of_log_eq (w.log_disconnectAll m)
      | refuse e => exact .refl w
    exact hstep.trans (ih _)

/-- While a statement is sent and answered, none is noted as finished. -/
theorem logs_send (w : World n) (session : SessionId) (verb : Verb) (sql : String) :
    w.Logs [] (w.send session verb sql).2 :=
  logs_interruptions _ _

/-- To keep a handle under a name, or to let it go, notes nothing. -/
theorem logs_giveOut (keepAs : Option String) (r : Except Error Handle × World n) :
    r.2.Logs [] (giveOut keepAs r).2 := by
  obtain ⟨_ | h, w⟩ := r
  · exact .refl w
  · cases keepAs with
    | none => exact .refl w
    | some name => exact .of_log_eq rfl

end World

/-! ## Statements -/

namespace Executor

open World (Logs)

/-- What a statement that ended so adds to the log of queries. -/
def entries (x : Executor n) (st : Statement) (internal : Bool) : Except Error Table → List String
  | .ok _ => if x.logQueries && !internal then [st.sql] else []
  | .error _ => []

/-- An attempt notes the user's statement when it has succeeded. -/
theorem logs_attempt (x : Executor n) (w : World n) (h : Handle) (st : Statement)
    (internal : Bool) :
    w.Logs (x.entries st internal (x.attempt w h st internal).1)
      (x.attempt w h st internal).2 := by
  have hsend := w.logs_send h.session st.kind.verb st.sql
  rw [attempt]
  generalize w.send h.session st.kind.verb st.sql = sent at hsend
  obtain ⟨answer, w'⟩ := sent
  simp only
  cases st.kind.shape answer with
  | error e => exact hsend
  | ok t =>
    simp only [entries]
    split
    · exact hsend.trans (.note w' (.finished st.sql))
    · exact hsend

/-- The clearing up behind a second attempt notes nothing. -/
theorem logs_settle (x : Executor n) (w : World n) (lost fresh : Handle) :
    w.Logs [] (x.settle w lost fresh) := by
  refine .of_log_eq ?_
  rw [settle, World.log_closeStale, World.log_retire]

/-- **A retry adds the statement's entry if the second attempt succeeds**, and nothing otherwise. -/
theorem logs_retry (x : Executor n) (w : World n) (h : Handle) (st : Statement) (internal : Bool) :
    w.Logs (x.entries st internal (plainResult (x.retry w h st internal).1))
      (x.retry w h st internal).2 := by
  have hreconnect := w.logs_reconnect x.manager h
  rw [retry]
  generalize w.reconnect x.manager h = second at hreconnect
  obtain ⟨r, w₂⟩ := second
  cases r with
  | error e => exact hreconnect.trans (.note w₂ (.reconnectFailed e))
  | ok fresh =>
    have hsecond := hreconnect.trans (x.logs_attempt w₂ fresh st internal)
    simp only
    generalize x.attempt w₂ fresh st internal = third at hsecond
    obtain ⟨r, w₃⟩ := third
    cases r with
    | ok t => exact hsecond.quiet (x.logs_settle w₃ h fresh)
    | error e => exact hsecond.trans (.note w₃ (.retryFailed e st.sql))

/-- A statement adds its text once if it succeeds, at once or at the second attempt, and never
otherwise. -/
theorem logs_runWithRetry (x : Executor n) (w : World n) (h : Handle) (st : Statement)
    (internal : Bool) :
    w.Logs (x.entries st internal (plainResult (x.runWithRetry w h st internal).1))
      (x.runWithRetry w h st internal).2 := by
  have hfirst := x.logs_attempt w h st internal
  rw [runWithRetry]
  generalize x.attempt w h st internal = first at hfirst
  obtain ⟨r, w₁⟩ := first
  cases r with
  | ok t => exact hfirst
  | error e =>
    simp only
    split
    · -- the failed attempt has added nothing, so that the retry's entry is the only one
      have hlost := hfirst.trans (.note w₁ (.lostConnection e st.sql))
      exact hlost.trans (x.logs_retry _ h st internal)
    · exact hfirst.trans (.note w₁ (.queryFailed e st.sql))

/-- A statement on the current connection adds its text once if it succeeds; without a connection it
has no result and no entry. -/
theorem logs_runWithOutcome (x : Executor n) (w : World n) (st : Statement) (internal : Bool) :
    w.Logs (x.entries st internal (plainResult (x.runWithOutcome w st internal).1))
      (x.runWithOutcome w st internal).2 := by
  rw [runWithOutcome]
  cases w.active x.manager with
  | error e => exact .refl w
  | ok h => exact x.logs_runWithRetry w h st internal

/-- The statement succeeded at the first attempt or at the second. -/
def Succeeded (r : Except Error (RetryOutcome Table)) : Prop :=
  ∃ t, r = .ok (.success t) ∨ r = .ok (.retriedSuccess t)

/-- A statement has succeeded on the current connection exactly if there is one and it succeeded on
that handle. -/
theorem succeeded_runWithOutcome_iff {x : Executor n} {st : Statement} {internal : Bool} :
    Succeeded (x.runWithOutcome w st internal).1 ↔ ∃ h ∈ (w.manager x.manager).current,
      Succeeded (x.runWithRetry w h st internal).1 := by
  rw [runWithOutcome, World.active]
  cases (w.manager x.manager).current <;> simp [Succeeded]

/-- An internal statement that is sent only once is never logged. -/
theorem logs_runOnce (x : Executor n) (w : World n) (st : Statement) :
    w.Logs [] (x.runOnce w st).2 := by
  rw [runOnce]
  cases w.active x.manager with
  | error e => exact .refl w
  | ok h =>
    have hattempt := x.logs_attempt w h st true
    simp only
    generalize x.attempt w h st true = attempted at hattempt
    obtain ⟨r, w'⟩ := attempted
    cases r with
    | ok t => simpa [entries] using hattempt
    | error e => exact hattempt.trans (.note w' (.internalFailed e st.sql))

/-- Changes of the schema are internal, so none of them is logged. -/
theorem logs_change (x : Executor n) (w : World n) (c : SchemaChange) :
    w.Logs [] (x.change w c).2 := by
  rw [change]
  cases c.statement with
  | error e => exact .refl w
  | ok st => exact x.logs_runOnce w st

end Executor

/-! ## Calls -/

/-- The statement of a call, unless it is an internal one. -/
def Action.userStatement? : Action n → Option Statement
  | .run st internal | .runOn _ st internal | .runWithOutcome st internal =>
    if internal then none else some st
  | _ => none

/-- A statement has given a table. -/
def CommandResult.isSuccess : CommandResult → Bool
  | .table _ => true
  | .outcome o => o.isSuccess
  | _ => false

namespace Command

open World (Logs)

variable {c : Command n} {w : World n} {logQueries : Bool} {st : Statement} {internal : Bool}

/-- The text of the user's statement in a call that has succeeded. -/
def finished? (c : Command n) (r : CommandResult) : Option String :=
  if r.isSuccess then c.action.userStatement?.map Statement.sql else none

/-- What a call with this result adds to the log of queries. -/
def entries (logQueries : Bool) (c : Command n) (r : CommandResult) : List String :=
  if logQueries then (c.finished? r).toList else []

/-- A call without a statement of the user adds nothing, whatever its result. -/
theorem entries_of_userStatement?_eq_none (h : c.action.userStatement? = none) (r : CommandResult) :
    c.entries logQueries r = [] := by
  simp [entries, finished?, h]

/-- Of a call that gives a table, the entry is that of its statement with this result. -/
theorem entries_table (haction : c.action.userStatement? = if internal then none else some st)
    (r : Except Error Table) : c.entries logQueries (.ofExcept .table r) =
      Executor.entries ⟨c.manager, logQueries⟩ st internal r := by
  cases r <;> cases internal <;>
    simp [entries, finished?, haction, CommandResult.ofExcept, CommandResult.isSuccess,
      Executor.entries]

/-- Of a call that gives an outcome, the entry is that of its statement with the outcome as a plain
result. -/
theorem entries_outcome (haction : c.action.userStatement? = if internal then none else some st)
    (r : Except Error (RetryOutcome Table)) : c.entries logQueries (.ofExcept .outcome r) =
      Executor.entries ⟨c.manager, logQueries⟩ st internal (Executor.plainResult r) := by
  rw [← entries_table haction]
  obtain _ | _ | _ | _ := r <;> rfl

/-- A name that is not known leaves the log alone; otherwise the call adds what it adds on the
handle. -/
theorem logs_withHandle {name : String} {f : Handle → CommandResult × World n}
    (hf : ∀ h, w.Logs (c.entries logQueries (f h).1) (f h).2) :
    w.Logs (c.entries logQueries (w.withHandle name f).1) (w.withHandle name f).2 := by
  rw [World.withHandle]
  cases w.handle? name with
  | none => simpa [entries, finished?, CommandResult.isSuccess] using Logs.refl w
  | some h => exact hf h

/-- **A call adds to the log of queries what its result tells**: the text of its statement if it is
one of the user and has given a table, and nothing otherwise. -/
theorem logs_run (logQueries : Bool) (c : Command n) (w : World n) :
    w.Logs (c.entries logQueries (c.run logQueries w).1) (c.run logQueries w).2 := by
  obtain ⟨m, action⟩ := c
  -- whatever is not a statement of the user leaves the log of queries alone
  have hquiet : ∀ {action : Action n} {r : CommandResult × World n},
      action.userStatement? = none → w.Logs [] r.2 →
      w.Logs (entries logQueries ⟨m, action⟩ r.1) r.2 := fun haction hr => by
    rwa [entries_of_userStatement?_eq_none haction]
  cases action with
  | connect config keepAs =>
    exact hquiet rfl ((w.logs_connect m config).quiet (World.logs_giveOut keepAs _))
  | active keepAs => exact hquiet rfl (World.logs_giveOut keepAs (w.active m, w))
  | reconnect name keepAs =>
    exact logs_withHandle fun h =>
      hquiet rfl ((w.logs_reconnect m h).quiet (World.logs_giveOut keepAs _))
  | disconnect name =>
    exact logs_withHandle fun h => hquiet rfl (.of_log_eq (w.log_disconnect m h))
  | retire name => exact logs_withHandle fun h => hquiet rfl (.of_log_eq (w.log_retire m h))
  | disconnectAll => exact hquiet rfl (.of_log_eq (w.log_disconnectAll m))
  | forget name => exact logs_withHandle fun h => hquiet rfl (.of_log_eq rfl)
  | closeStale => exact hquiet rfl (.of_log_eq (w.log_closeStale m []))
  | compare name other =>
    exact logs_withHandle fun h => logs_withHandle fun other => hquiet rfl (.refl w)
  | describe => exact hquiet rfl (.refl w)
  | push replies => exact hquiet rfl (.of_log_eq rfl)
  | refuse e => exact hquiet rfl (.of_log_eq rfl)
  | failClose e => exact hquiet rfl (.of_log_eq rfl)
  | run st internal =>
    have hrun := Executor.logs_runWithOutcome ⟨m, logQueries⟩ w st internal
    rwa [← entries_table (c := ⟨m, .run st internal⟩) rfl] at hrun
  | runOn name st internal =>
    refine logs_withHandle fun h => ?_
    have hrun := Executor.logs_runWithRetry ⟨m, logQueries⟩ w h st internal
    rwa [← entries_table (c := ⟨m, .runOn name st internal⟩) rfl] at hrun
  | runOnce st => exact hquiet rfl (Executor.logs_runOnce ⟨m, logQueries⟩ w st)
  | runWithOutcome st internal =>
    have hrun := Executor.logs_runWithOutcome ⟨m, logQueries⟩ w st internal
    rwa [← entries_outcome (c := ⟨m, .runWithOutcome st internal⟩) rfl] at hrun
  | change change => exact hquiet rfl (Executor.logs_change ⟨m, logQueries⟩ w change)
  | appliedVersions =>
    exact hquiet rfl (Executor.logs_runOnce ⟨m, logQueries⟩ w Ddl.appliedVersions)

/-- The handle on which a statement is run. -/
def handle? (c : Command n) (w : World n) : Option Handle :=
  match c.action with
  | .run .. | .runWithOutcome .. => (w.manager c.manager).current
  | .runOn name .. => w.handle? name
  | _ => none

/-- The result that tells the outcome is a success exactly if an attempt has succeeded. -/
theorem isSuccess_outcome_iff {r : Except Error (RetryOutcome Table)} :
    (CommandResult.ofExcept .outcome r).isSuccess = true ↔ Executor.Succeeded r := by
  obtain _ | _ | _ | _ := r <;>
    simp [CommandResult.ofExcept, CommandResult.isSuccess, RetryOutcome.isSuccess,
      Executor.Succeeded]

/-- The result that tells the table is a success exactly if an attempt has succeeded. -/
theorem isSuccess_table_iff {r : Except Error (RetryOutcome Table)} :
    (CommandResult.ofExcept .table (Executor.plainResult r)).isSuccess = true ↔
      Executor.Succeeded r := by
  rw [← isSuccess_outcome_iff]
  obtain _ | _ | _ | _ := r <;> rfl

/-- The result of a call for a statement of the user tells whether one of the attempts at it
succeeded. -/
theorem isSuccess_run_iff (hst : c.action.userStatement? = some st) :
    (c.run logQueries w).1.isSuccess = true ↔ ∃ h ∈ c.handle? w,
      Executor.Succeeded (Executor.runWithRetry ⟨c.manager, logQueries⟩ w h st false).1 := by
  have huser : ∀ {internal : Bool} {st' : Statement},
      (if internal then none else some st') = some st → internal = false ∧ st' = st := fun h => by
    split at h <;> simp_all
  obtain ⟨m, action⟩ := c
  cases action with
  | run st' internal =>
    obtain ⟨rfl, rfl⟩ := huser hst
    exact isSuccess_table_iff.trans Executor.succeeded_runWithOutcome_iff
  | runWithOutcome st' internal =>
    obtain ⟨rfl, rfl⟩ := huser hst
    exact isSuccess_outcome_iff.trans Executor.succeeded_runWithOutcome_iff
  | runOn name st' internal =>
    obtain ⟨rfl, rfl⟩ := huser hst
    simp only [run, World.withHandle, handle?]
    cases w.handle? name with
    | none => simp [CommandResult.isSuccess]
    | some h =>
      refine Iff.trans (isSuccess_table_iff (r := (Executor.runWithRetry _ w h st' false).1)) ?_
      simp
  | _ => cases hst

/-! ## Scripts -/

/-- A script adds the entries of its calls, one call after the other. -/
theorem logs_runAll (logQueries : Bool) (cs : List (Command n)) (w : World n) :
    w.Logs ((cs.zip (Entry.ofScript logQueries w cs)).flatMap fun p =>
      p.1.entries logQueries p.2.result) (runAll logQueries cs w) := by
  induction cs generalizing w with
  | nil => exact .refl w
  | cons c cs ih => exact (c.logs_run logQueries w).trans (ih _)

/-- The part of the log that belongs to a call holds the entries of that call. -/
theorem forall₂_queryLog (logQueries : Bool) (cs : List (Command n)) (w : World n) :
    List.Forall₂ (fun c e => queryLog e.log = c.entries logQueries e.result) cs
      (Entry.ofScript logQueries w cs) := by
  induction cs generalizing w with
  | nil => exact .nil
  | cons c cs ih => exact .cons (c.logs_run logQueries w).queryLog_drop (ih _)

/-- **The log of queries is told by the results of the calls.** A call for a statement of the user
has a table for its result if one of the two attempts at the statement succeeded. With logging on,
such a call notes the text of its statement, once, and no other call notes one; the log of a whole
script has these texts in the order of the calls. With logging off nothing is noted. -/
theorem queryLog_script (logQueries : Bool) (w : World n) (cs : List (Command n)) :
    (∀ (c : Command n) (w : World n) (st : Statement), c.action.userStatement? = some st →
      ((c.run logQueries w).1.isSuccess = true ↔ ∃ h ∈ c.handle? w,
        Executor.Succeeded (Executor.runWithRetry ⟨c.manager, logQueries⟩ w h st false).1)) ∧
    List.Forall₂ (fun c e => queryLog e.log =
      if logQueries then (c.finished? e.result).toList else []) cs
      (Entry.ofScript logQueries w cs) ∧
    queryLog (runAll logQueries cs w).log = queryLog w.log ++
      if logQueries then (cs.zip (Entry.ofScript logQueries w cs)).filterMap fun p =>
        p.1.finished? p.2.result
      else [] := by
  refine ⟨fun _ _ _ => isSuccess_run_iff, forall₂_queryLog logQueries cs w, ?_⟩
  rw [(logs_runAll logQueries cs w).queryLog_eq]
  cases logQueries <;> simp [entries, List.filterMap_eq_flatMap_toList]

/-- An update that the server answers at the second attempt stands between an internal statement and
a change of the schema; the deletion fails. -/
def mixed : List (Command 1) :=
  [⟨World.solo, .connect World.someConfig none⟩,
    ⟨World.solo, .run ⟨.select, "SELECT 1"⟩ true⟩,
    ⟨World.solo, .run ⟨.update, "UPDATE t SET a = 1"⟩ false⟩,
    ⟨World.solo, .change (.dropTable "u")⟩,
    ⟨World.solo, .runWithOutcome ⟨.delete, "DELETE FROM t"⟩ false⟩]

/-- A server for these calls. -/
def answering : World 1 :=
  World.fresh [⟨.rows ⟨[], []⟩, []⟩, ⟨.fail (.transientBackend (some 2006) "gone away"), []⟩,
    ⟨.done ⟨.ofNat 3, none⟩, []⟩, ⟨.done ⟨.ofNat 0, none⟩, []⟩,
    ⟨.fail (.backend (some 1142) "DELETE command denied"), []⟩]

/-- The update is logged once although its first attempt was lost, and nothing is logged when
logging is off. -/
theorem queryLog_script_mixed :
    Executor.Succeeded (Executor.runWithRetry ⟨World.solo, true⟩
      (runAll true (mixed.take 2) answering) ⟨1, 1⟩ ⟨.update, "UPDATE t SET a = 1"⟩ false).1 ∧
    queryLog (runAll true mixed answering).log = ["UPDATE t SET a = 1"] ∧
    queryLog (runAll false mixed answering).log = [] := by
  obtain ⟨hsuccess, -, hlogged⟩ := queryLog_script true answering mixed
  obtain ⟨-, -, hquiet⟩ := queryLog_script false answering mixed
  obtain ⟨h, hcurrent, hupdated⟩ :=
    (hsuccess ⟨World.solo, .run ⟨.update, "UPDATE t SET a = 1"⟩ false⟩
      (runAll true (mixed.take 2) answering) _ rfl).1 rfl
  obtain rfl : (⟨1, 1⟩ : Handle) = h := Option.some.inj hcurrent
  exact ⟨hupdated, hlogged.trans rfl, hquiet.trans rfl⟩

end Command

end SqlBridge
