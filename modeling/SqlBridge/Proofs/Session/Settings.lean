import SqlBridge.Proofs.Session.Retry

/-!
# With which settings sessions are asked for

A manager remembers the settings of the last connection that it opened (`World.lastConnection`), in
whatever order connections are opened, refused, lost, given up and closed, by whichever task
(`World.Remembers`). So it asks for sessions only with settings that are valid, reconnects with
those of the last connection, and knows whether there ever was one (`World.settings_remembered`).

`World.lastConnection` is read off the operations and their results alone.
-/

namespace SqlBridge.World

variable {n : Nat} {w w' : World n} {m : Fin n} {last : Fin n → Option ConnectionConfig}

/-! ## The last connection -/

/-- The settings of the connection that an operation opens for a manager, if it opens one. -/
def connection? (w : World n) (m : Fin n) : Operation n → Option ConnectionConfig
  | .connect k config => if k = m ∧ (w.connect k config).1.isOk then some config else none
  | _ => none

/-- The settings of the last connection that a manager opens in a course of operations; `last` are
those of the one before it. -/
def lastConnection (w : World n) (m : Fin n) (last : Option ConnectionConfig) :
    List (Operation n) → Option ConnectionConfig
  | [] => last
  | o :: ops => (o.run w).lastConnection m ((w.connection? m o).or last) ops

/-! ## What a manager remembers -/

/-- The settings that managers remember are those of their last connections, and sessions were asked
for with valid settings. -/
structure Remembers (w : World n) (last : Fin n → Option ConnectionConfig) : Prop where
  requests : ∀ config ∈ w.server.requests, config.validate = .ok ()
  valid : ∀ m, ∀ config ∈ last m, config.validate = .ok ()
  config : ∀ m, (w.manager m).config = last m
  opened : ∀ m, (w.manager m).opened = (last m).isSome
  current : ∀ m h, (w.manager m).current = some h → (last m).isSome
  issued : ∀ m, (w.manager m).issued = [] ↔ last m = none

/-- Nobody has connected to a server that is not used yet. -/
theorem remembers_fresh (replies : List (Reply n)) :
    (World.fresh replies).Remembers fun _ => none := by
  refine ⟨?_, ?_, ?_, ?_, ?_, ?_⟩
  · simp [World.fresh, Server.fresh]
  all_goals simp [Manager.fresh]

/-- No session was asked for, and managers have at most let go of handles. -/
structure Forgets (w w' : World n) : Prop where
  requests : w'.server.requests = w.server.requests
  managers : ∀ m, (w.manager m).LetsGo (w'.manager m)

/-- A step that leaves the managers alone and asks for no session forgets nothing but handles. -/
theorem Forgets.of_managers (hmanagers : w'.managers = w.managers)
    (hrequests : w'.server.requests = w.server.requests) : w.Forgets w' := by
  refine ⟨hrequests, fun m => ?_⟩
  rw [World.manager, World.manager, hmanagers]
  exact .refl _

/-- To let handles go asks for no session. -/
theorem LetsGo.forgets {k : Manager} {l : List Handle} (hl : w.LetsGo m k l w') : w.Forgets w' :=
  ⟨hl.requests, hl.manager⟩

/-- What is remembered survives the loss of handles. -/
theorem Remembers.forgets (hw : w.Remembers last) (hf : w.Forgets w') : w'.Remembers last where
  requests := hf.requests ▸ hw.requests
  valid := hw.valid
  config m := (hf.managers m).config.trans (hw.config m)
  opened m := (hf.managers m).opened.trans (hw.opened m)
  current m h hh := hw.current m h ((hf.managers m).current h hh)
  issued m := by
    rw [(hf.managers m).issued]
    exact hw.issued m

/-! ## Operations -/

/-- To open a session asks for it with the given settings, whether or not it is refused. -/
theorem requests_openHandle (w : World n) (m : Fin n) (config : ConnectionConfig) :
    (w.openHandle m config).2.server.requests = w.server.requests ++ [config] := by
  rw [openHandle, Server.openSession]
  cases w.server.refusal <;> rfl

/-- A connection with valid settings asks for a session with them. -/
theorem requests_connect {config : ConnectionConfig} (hvalid : config.validate = .ok ()) :
    (w.connect m config).2.server.requests = w.server.requests ++ [config] := by
  rw [← w.requests_openHandle m, connect, hvalid]
  rcases w.openHandle m config with ⟨_ | h, w'⟩ <;> rfl

/-- A reconnection asks for a session with the settings that are remembered. -/
theorem requests_reconnect (lost : Handle) {config : ConnectionConfig}
    (hconfig : (w.manager m).config = some config) :
    (w.reconnect m lost).2.server.requests = w.server.requests ++ [config] := by
  have hopen := requests_openHandle (w.note (.reconnecting Server.driverName lost.id)) m config
  rw [reconnect, reopen, hconfig]
  simp only
  generalize (w.note (.reconnecting Server.driverName lost.id)).openHandle m config = r at hopen
  obtain ⟨_ | h, w'⟩ := r <;> exact hopen

/-- Without remembered settings a reconnection fails and asks for nothing. -/
theorem reconnect_of_none (lost : Handle) (hconfig : (w.manager m).config = none) :
    w.reconnect m lost = (.error (.notConnected .neverConnected), w) := by
  rw [reconnect, reopen, hconfig]

/-- A manager that has opened nothing has nothing to give up. -/
theorem disconnect_of_not_opened (h : Handle) (hopened : (w.manager m).opened = false) :
    w.disconnect m h = (.error (.notConnected .neverOpened), w) := by
  rw [disconnect, hopened]
  rfl

/-- Managers are as they were, and a session was asked for with valid settings. -/
theorem Remembers.refused (hw : w.Remembers last) (ha : w.Alike w') {config : ConnectionConfig}
    (hvalid : config.validate = .ok ())
    (hrequests : w'.server.requests = w.server.requests ++ [config]) : w'.Remembers last := by
  refine ⟨fun c hc => ?_, hw.valid, ?_, ?_, ?_, ?_⟩
  · rw [hrequests] at hc
    rcases List.mem_append.1 hc with hc | hc
    · exact hw.requests c hc
    · rw [List.mem_singleton.1 hc]
      exact hvalid
  · simpa only [ha.manager] using hw.config
  · simpa only [ha.manager] using hw.opened
  · simpa only [ha.manager] using hw.current
  · simpa only [ha.manager] using hw.issued

/-- A session was opened with valid settings, and its manager remembers them. -/
theorem Remembers.admits (hw : w.Remembers last) {k : Manager} (ha : w.Admits m k w')
    {config : ConnectionConfig} (hvalid : config.validate = .ok ())
    (hrequests : w'.server.requests = w.server.requests ++ [config])
    (hconfig : k.config = some config) (hopened : k.opened = true) (hissued : k.issued ≠ []) :
    w'.Remembers fun j => if j = m then some config else last j := by
  refine ⟨fun c hc => ?_, fun j c hc => ?_, fun j => ?_, fun j => ?_, fun j h hh => ?_, fun j => ?_⟩
  · rw [hrequests] at hc
    rcases List.mem_append.1 hc with hc | hc
    · exact hw.requests c hc
    · rw [List.mem_singleton.1 hc]
      exact hvalid
  all_goals by_cases hj : j = m
  · simp only [hj, if_true, Option.mem_def, Option.some.injEq] at hc
    exact hc ▸ hvalid
  · simp only [hj, if_false] at hc
    exact hw.valid j c hc
  · subst hj
    simp [ha.self, hconfig]
  · simp [ha.others j hj, hj, hw.config]
  · subst hj
    simp [ha.self, hopened]
  · simp [ha.others j hj, hj, hw.opened]
  · simp [hj]
  · rw [ha.others j hj] at hh
    simpa [hj] using hw.current j h hh
  · subst hj
    simp [ha.self, hissued]
  · simp [ha.others j hj, hj, hw.issued]

/-- A connection that is opened is remembered as the last one; one that is refused is not. -/
theorem Remembers.connect (hw : w.Remembers last) (k : Fin n) (config : ConnectionConfig) :
    (w.connect k config).2.Remembers fun m =>
      (w.connection? m (.connect k config)).or (last m) := by
  cases hvalid : config.validate with
  | error e =>
    have hconnect : w.connect k config = (.error e, w) := by
      rw [World.connect, hvalid]
    simpa [connection?, hconnect, Except.isOk, Except.toBool] using hw
  | ok u =>
    have hrequests := requests_connect (w := w) (m := k) hvalid
    rcases w.connect_cases k config with ⟨⟨e, hresult⟩, halike⟩ | ⟨hresult, hadmits⟩
    · have hnone (m : Fin n) : w.connection? m (.connect k config) = none := by
        simp [connection?, hresult, Except.isOk, Except.toBool]
      simpa [hnone] using hw.refused halike hvalid hrequests
    · have hsome (m : Fin n) : (w.connection? m (.connect k config)).or (last m) =
          if m = k then some config else last m := by
        by_cases hm : m = k
        · simp [connection?, hresult, hm, Except.isOk, Except.toBool]
        · simp [connection?, hm, Ne.symm hm]
      simp only [hsome]
      refine hw.admits hadmits hvalid hrequests ?_ ?_ ?_
      · rw [Manager.install_eq]
      · rw [Manager.install_eq]
      · simp

/-- A reconnection remembers the same settings as before. -/
theorem Remembers.reconnect (hw : w.Remembers last) (k : Fin n) (lost : Handle) :
    (w.reconnect k lost).2.Remembers last := by
  cases hconfig : (w.manager k).config with
  | none =>
    rw [reconnect_of_none lost hconfig]
    exact hw
  | some config =>
    have hlast : last k = some config := (hw.config k).symm.trans hconfig
    have hvalid := hw.valid k config hlast
    have hrequests := requests_reconnect lost hconfig
    rcases w.reconnect_cases k lost with ⟨-, halike⟩ | ⟨-, hadmits⟩
    · exact hw.refused halike hvalid hrequests
    · have hsame : last = fun m => if m = k then some config else last m := by
        funext m
        by_cases hm : m = k
        · simp [hm, hlast]
        · simp [hm]
      rw [hsame]
      refine hw.admits hadmits hvalid hrequests ?_ ?_ ?_
      · simpa [Manager.issue] using hconfig
      · simp [Manager.issue, hw.opened, hlast]
      · simp [Manager.issue]

/-- An operation is a connection or a reconnection, or it asks for no session and leaves the
settings alone. -/
theorem run_cases (w : World n) (o : Operation n) :
    (∃ m config, o = .connect m config) ∨ (∃ m lost, o = .reconnect m lost) ∨
      (∀ m, w.connection? m o = none) ∧ w.Forgets (o.run w) := by
  cases o with
  | connect m config => exact .inl ⟨m, config, rfl⟩
  | reconnect m lost => exact .inr (.inl ⟨m, lost, rfl⟩)
  | disconnect m h =>
    refine .inr (.inr ⟨fun _ => rfl, ?_⟩)
    rcases w.disconnect_cases m h with hsame | hl
    · exact .of_managers (congrArg World.managers hsame) (by rw [Operation.run, hsame])
    · exact hl.forgets
  | retire m h => exact .inr (.inr ⟨fun _ => rfl, (w.letsGo_retire m h).forgets⟩)
  | disconnectAll m => exact .inr (.inr ⟨fun _ => rfl, (w.letsGo_disconnectAll m).forgets⟩)
  | closeStale m held => exact .inr (.inr ⟨fun _ => rfl, (w.letsGo_closeStale m held).forgets⟩)
  | keep m name =>
    refine .inr (.inr ⟨fun _ => rfl, ?_⟩)
    rw [Operation.run]
    cases (w.manager m).current <;> exact .of_managers rfl rfl
  | receive statement =>
    refine .inr (.inr ⟨fun _ => rfl, .of_managers rfl ?_⟩)
    rw [Operation.run, Server.receive]
    cases w.server.replies <;> rfl
  | forget | note | push | refuse | failClose =>
    exact .inr (.inr ⟨fun _ => rfl, .of_managers rfl rfl⟩)

/-- **What managers remember after an operation.** -/
theorem Remembers.run (hw : w.Remembers last) (o : Operation n) :
    (o.run w).Remembers fun m => (w.connection? m o).or (last m) := by
  rcases w.run_cases o with ⟨k, config, rfl⟩ | ⟨k, lost, rfl⟩ | ⟨hnone, hforgets⟩
  · exact hw.connect k config
  · exact hw.reconnect k lost
  · simpa only [hnone, Option.none_or] using hw.forgets hforgets

/-- **Managers remember the settings of their last connections**, whatever else is done. -/
theorem Remembers.after (hw : w.Remembers last) (ops : List (Operation n)) :
    (w.after ops).Remembers fun m => w.lastConnection m (last m) ops := by
  induction ops generalizing w last with
  | nil => exact hw
  | cons o ops ih => exact ih (hw.run o)

/-! ## Statements that lose their session -/

/-- An operation asks for one session or for none. -/
theorem requests_run (w : World n) (o : Operation n) :
    (∃ config, (o.run w).server.requests = w.server.requests ++ [config]) ∨
      (o.run w).server.requests = w.server.requests := by
  rcases w.run_cases o with ⟨k, config, rfl⟩ | ⟨k, lost, rfl⟩ | ⟨-, hforgets⟩
  · cases hvalid : config.validate with
    | error e => exact .inr (by rw [Operation.run, World.connect, hvalid])
    | ok u => exact .inl ⟨config, requests_connect hvalid⟩
  · cases hconfig : (w.manager k).config with
    | none => exact .inr (by rw [Operation.run, reconnect_of_none lost hconfig])
    | some config => exact .inl ⟨config, requests_reconnect lost hconfig⟩
  · exact .inr hforgets.requests

/-- Sessions that were asked for stay on record. -/
theorem requests_grow (w : World n) (o : Operation n) :
    w.server.requests <+: (o.run w).server.requests := by
  rcases w.requests_run o with ⟨config, heq⟩ | heq
  · exact ⟨[config], heq.symm⟩
  · exact ⟨[], (List.append_nil _).trans heq.symm⟩

/-- The requests for sessions only grow while operations are done that need no handle. -/
theorem Drifts.requests (hd : w.Drifts w') : w.server.requests <+: w'.server.requests :=
  hd.lift (R := fun w w' => w.server.requests <+: w'.server.requests)
    (fun _ => List.prefix_refl _) List.IsPrefix.trans fun w o _ => w.requests_grow o

/-- An executor whose statement has lost its session asks for another one with the settings that are
remembered then. -/
theorem requests_retry (x : Executor n) (h : Handle) (st : Statement) (internal : Bool)
    {config : ConnectionConfig} (hconfig : (w.manager x.manager).config = some config) :
    w.server.requests ++ [config] <+: (x.retry w h st internal).2.server.requests := by
  have hrequests := requests_reconnect h hconfig
  rw [Executor.retry, ← hrequests]
  generalize w.reconnect x.manager h = second
  obtain ⟨r, w₂⟩ := second
  cases r with
  | error e => exact (w₂.drifts_note _).requests
  | ok fresh =>
    have hsecond := (x.drifts_attempt w₂ fresh st internal).requests
    simp only
    generalize x.attempt w₂ fresh st internal = third at hsecond
    obtain ⟨r, w₃⟩ := third
    cases r with
    | error e => exact hsecond.trans (w₃.drifts_note _).requests
    | ok t =>
      refine hsecond.trans ((requests_grow w₃ (.retire x.manager h)).trans ?_)
      exact requests_grow _ (.closeStale x.manager [h, fresh])

/-- Without remembered settings there is no second attempt. -/
theorem retry_of_none (x : Executor n) (h : Handle) (st : Statement) (internal : Bool)
    (hconfig : (w.manager x.manager).config = none) :
    (x.retry w h st internal).1 = .ok (.exhausted (.notConnected .neverConnected)) ∧
      (x.retry w h st internal).2.server.requests = w.server.requests := by
  rw [Executor.retry, reconnect_of_none h hconfig]
  exact ⟨rfl, rfl⟩

/-! ## What the settings are used for -/

/-- A manager uses the settings of its last connection. -/
structure UsesLast (w : World n) (m : Fin n) (last : Option ConnectionConfig) : Prop where
  /-- Sessions were asked for with valid settings only. -/
  valid : ∀ config ∈ w.server.requests, config.validate = .ok ()
  /-- A reconnection asks for a session with the settings of the last connection. -/
  reconnects : ∀ config, last = some config → ∀ lost,
    (w.reconnect m lost).2.server.requests = w.server.requests ++ [config]
  /-- When there was none it fails and asks for nothing. -/
  neverConnected : last = none → ∀ lost,
    w.reconnect m lost = (.error (.notConnected .neverConnected), w)
  /-- A disconnection does not fail when there was a connection and sessions can be closed. -/
  disconnects : last.isSome → w.server.closeFailure = none → ∀ h, (w.disconnect m h).1 = .ok ()
  /-- When there was none it fails. -/
  neverOpened : last = none → ∀ h,
    w.disconnect m h = (.error (.notConnected .neverOpened), w)
  /-- There is a current handle only if there was a connection. -/
  current : ∀ h, (w.manager m).current = some h → last.isSome

/-- A manager that remembers its last connection uses the settings of it. -/
theorem Remembers.usesLast (hw : w.Remembers last) (m : Fin n) : w.UsesLast m (last m) where
  valid := hw.requests
  reconnects config hlast lost := requests_reconnect lost ((hw.config m).trans hlast)
  neverConnected hlast lost := reconnect_of_none lost ((hw.config m).trans hlast)
  disconnects hlast hcloses h := by
    rw [disconnect, if_pos ((hw.opened m).trans hlast)]
    show (w.server.close h.session).1 = .ok ()
    rw [Server.close, hcloses]
  neverOpened hlast h := disconnect_of_not_opened h (by rw [hw.opened, hlast]; rfl)
  current := hw.current m

/-- **Every session is asked for with valid settings, a reconnection uses those of the last
connection, and a manager knows whether there was one**, after any operations in any order. Commands
are such operations; and so is what is done until a statement has lost its session, when the
executor asks for another one with the settings of the last connection by then. -/
theorem settings_remembered (replies : List (Reply n)) (m : Fin n) :
    let start := World.fresh replies
    let last := start.lastConnection m none
    (∀ logQueries cs, ∃ ops, start.after ops = Command.runAll logQueries cs start) ∧
      (∀ ops, (start.after ops).UsesLast m (last ops)) ∧
      ∀ ops logQueries h st internal e w₁,
        let x : Executor n := ⟨m, logQueries⟩
        let after := x.runWithRetry (start.after ops) h st internal
        x.attempt (start.after ops) h st internal = (.error e, w₁) → e.isTransient = true →
          (∃ more, start.after (ops ++ more) = w₁) ∧
          ∀ before, start.after before = w₁ →
            (∀ config, last before = some config →
              w₁.server.requests ++ [config] <+: after.2.server.requests) ∧
            (last before = none →
              after.1 = .ok (.exhausted (.notConnected .neverConnected)) ∧
                after.2.server.requests = w₁.server.requests) := by
  intro start last
  have hremembers (ops : List (Operation n)) := (remembers_fresh replies).after ops
  refine ⟨fun logQueries cs => Command.exists_operations_runAll logQueries cs start,
    fun ops => (hremembers ops).usesLast m, ?_⟩
  intro ops logQueries h st internal e w₁ x after hfirst he
  refine ⟨?_, fun before hbefore => ?_⟩
  · obtain ⟨more, -, hmore⟩ := x.drifts_attempt (start.after ops) h st internal
    rw [hfirst] at hmore
    exact ⟨more, (start.after_append ops more).trans hmore⟩
  · have hafter := Executor.runWithRetry_of_attempt_error (congrArg Prod.fst hfirst) he
    have hconfig := (hremembers before).config m
    rw [hfirst] at hafter
    rw [hbefore] at hconfig
    have hlost := w₁.server_note (.lostConnection e st.sql)
    rw [← hlost, show after = _ from hafter]
    exact ⟨fun config hlast => requests_retry x h st internal (hconfig.trans hlast),
      fun hlast => retry_of_none x h st internal (hconfig.trans hlast)⟩

/-- The settings of another database. -/
def otherConfig : ConnectionConfig := .ofNames "localhost" "app" "archive"

/-- A statement loses its session while another task connects to another database. -/
def interruptedLoss : World 1 := World.fresh
  [⟨.fail (.transientBackend (some 2006) "gone away"), [.connect solo otherConfig]⟩]

/-- A connection is opened, another one is refused for its settings, and the first is given up. -/
def givenUp : List (Operation 1) :=
  [.connect solo someConfig, .connect solo (.ofNames "localhost" "" "shop"),
    .disconnect solo ⟨1, 1⟩]

/-- The first settings are used again after a refused connection; a retry uses the later ones that
another task has connected with meanwhile. -/
theorem settings_remembered_interrupted :
    ((interruptedLoss.after givenUp).reconnect solo ⟨1, 1⟩).2.server.requests =
        [someConfig] ++ [someConfig] ∧
      [someConfig, otherConfig] ++ [otherConfig] <+:
        (Executor.runWithRetry ⟨solo, false⟩ (interruptedLoss.after givenUp) ⟨1, 1⟩
          ⟨.select, "SELECT 1"⟩ false).2.server.requests := by
  let before := givenUp ++ [.receive ⟨1, .query, "SELECT 1"⟩, .connect solo otherConfig]
  obtain ⟨-, huses, hretry⟩ := settings_remembered interruptedLoss.server.replies solo
  have hlast : interruptedLoss.lastConnection solo none givenUp = some someConfig := rfl
  have hlast' : interruptedLoss.lastConnection solo none before = some otherConfig := rfl
  have hasked : (interruptedLoss.after givenUp).server.requests = [someConfig] := rfl
  have hasked' : (interruptedLoss.after before).server.requests = [someConfig, otherConfig] := rfl
  have hfirst : Executor.attempt ⟨solo, false⟩ (interruptedLoss.after givenUp) ⟨1, 1⟩
      ⟨.select, "SELECT 1"⟩ false =
        (.error (.transientBackend (some 2006) "gone away"), interruptedLoss.after before) := rfl
  have hreconnects := (huses givenUp).reconnects someConfig hlast ⟨1, 1⟩
  obtain ⟨-, hretries⟩ := hretry givenUp false ⟨1, 1⟩ ⟨.select, "SELECT 1"⟩ false _ _ hfirst rfl
  rw [← hasked, ← hasked']
  exact ⟨hreconnects, (hretries before rfl).1 otherConfig hlast'⟩

end SqlBridge.World
