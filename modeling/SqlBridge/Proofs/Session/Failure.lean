import SqlBridge.Proofs.Session.Settings

/-!
# What failures leave behind

A failure leaves managers, handles and sessions as they are (`World.FailsClean`), unless a session
was opened before it. For what is called on a manager that is `World.Alike`. A statement that fails
was sent, and while it waits for its answer other tasks act; there it is `World.OnlyAsked`, which
says that nothing else was done.

Of the worlds that operations reach, only one thing has to be known: a manager that has given no
handle out has not opened anything (`World.Remembers`).
-/

namespace SqlBridge

variable {n : Nat}

namespace World

variable {w w' w'' : World n} {m : Fin n} {s : Sent}

/-- A statement was sent, and nothing else was done but by other tasks until its answer arrived. -/
structure OnlyAsked (w : World n) (s : Sent) (w' : World n) : Prop where
  sent : w'.server.sent = w.server.sent ++ [s]
  arrival : (w.send s.session s.verb s.sql).2.Alike w'
  /-- When they did nothing then, everything is as it was. -/
  quiet : (∀ r ∈ w.server.replies[0]?, r.meanwhile = []) → w.Alike w'

/-- What was asked and then changed nothing more was only asked. -/
theorem OnlyAsked.trans_alike (ho : w.OnlyAsked s w') (ha : w'.Alike w'')
    (hsent : w''.server.sent = w'.server.sent) : w.OnlyAsked s w'' where
  sent := hsent.trans ho.sent
  arrival := ho.arrival.trans ha
  quiet hquiet := (ho.quiet hquiet).trans ha

/-- Whether and why a reconnection fails depends on the settings that are remembered and on the
server alone. -/
theorem reconnect_error_iff {lost : Handle} {e : Error} :
    (w.reconnect m lost).1 = .error e ↔
      (w.manager m).config = none ∧ e = .notConnected .neverConnected ∨
        (w.manager m).config.isSome ∧ w.server.refusal = some e := by
  refine ⟨fun herror => ?_, fun hfail => (reconnect_error lost hfail).1⟩
  cases hconfig : (w.manager m).config with
  | none =>
    rw [reconnect_of_none lost hconfig] at herror
    exact .inl ⟨rfl, (Except.error.inj herror).symm⟩
  | some config =>
    have hsome : (w.manager m).config.isSome := by simp [hconfig]
    cases hrefusal : w.server.refusal with
    | none =>
      rw [(reconnect_ok lost hsome hrefusal).1] at herror
      cases herror
    | some e' =>
      rw [(reconnect_error lost (.inr ⟨hsome, hrefusal⟩)).1] at herror
      exact .inr ⟨rfl, congrArg some (Except.error.inj herror)⟩

end World

/-! ## Statements -/

namespace Executor

variable {w w' : World n} {x : Executor n} {h : Handle} {st : Statement} {s : Sent}

/-- Nothing happens in an attempt but that its statement is sent. -/
theorem Attempted.onlyAsked (ha : Attempted w s w') : w.OnlyAsked s w' :=
  ⟨ha.sent, ha.arrival, ha.alike⟩

/-- The session was lost, and there is no other one when the answer arrives. -/
theorem runWithRetry_of_reconnect_error {e e' : Error} (hfirst : w.server.answer 0 = .fail e)
    (he : e.isRetryable = true)
    (hagain : ((w.send h.session st.kind.verb st.sql).2.reconnect x.manager h).1 = .error e')
    (internal : Bool) :
    (x.runWithRetry w h st internal).1 = .ok (.exhausted e') ∧
      w.OnlyAsked (sentOn st h) (x.runWithRetry w h st internal).2 := by
  obtain ⟨hattempted, hafter⟩ := runWithRetry_eq_retry (x := x) (h := h) hfirst he st internal
  generalize (x.attempt w h st internal).2.note (.lostConnection e st.sql) = lost
    at hattempted hafter
  have hsame : (lost.reconnect x.manager h).1 = .error e' := by
    rw [World.reconnect_error_iff] at hagain ⊢
    rw [hattempted.arrival.manager, hattempted.refusal]
    exact hagain
  obtain ⟨hresult, halike, hsent⟩ := retry_of_reconnect_error hsame st internal
  rw [← hafter] at hresult halike hsent
  exact ⟨hresult, hattempted.onlyAsked.trans_alike halike hsent⟩

/-- Without a current handle nothing is sent. -/
theorem runWithOutcome_of_none (hcurrent : (w.manager x.manager).current = none) (st : Statement)
    (internal : Bool) :
    x.runWithOutcome w st internal = (.error (.notConnected .noneActive), w) := by
  rw [runWithOutcome, World.active, hcurrent]

/-- A statement that is sent once is not sent without a current handle. -/
theorem runOnce_of_none (hcurrent : (w.manager x.manager).current = none) (st : Statement) :
    x.runOnce w st = (.error (.notConnected .noneActive), w) := by
  rw [runOnce, World.active, hcurrent]

/-- A statement that is sent once goes to the current session, and its result is the shape of the
answer, whichever that is. -/
theorem runOnce_spec (hcurrent : (w.manager x.manager).current = some h) (st : Statement) :
    (x.runOnce w st).1 = st.kind.shape (w.server.answer 0) ∧
      w.OnlyAsked (sentOn st h) (x.runOnce w st).2 := by
  obtain ⟨hresult, hattempted⟩ := x.attempt_spec w h st true
  rw [runOnce, World.active, hcurrent]
  simp only
  generalize x.attempt w h st true = attempted at hresult hattempted
  obtain ⟨r, w₁⟩ := attempted
  simp only at hresult
  rw [← hresult]
  cases r with
  | ok t => exact ⟨rfl, hattempted.onlyAsked⟩
  | error e => exact ⟨rfl, (hattempted.note _).onlyAsked⟩

end Executor

/-! ## Failures -/

namespace World

open Executor (sentOn)

/-- The failures of a manager, and of statements over it, that leave everything as it is. -/
structure FailsClean (w : World n) (m : Fin n) : Prop where
  /-- A connection is asked for with settings that are not valid. -/
  invalid : ∀ config e, config.validate = .error e → w.connect m config = (.error e, w)
  /-- It is refused. -/
  refused : ∀ config e, config.validate = .ok () → w.server.refusal = some e →
    (w.connect m config).1 = .error e ∧ w.Alike (w.connect m config).2
  /-- A session is to be opened again when no settings are remembered. -/
  unremembered : (w.manager m).config = none → ∀ lost,
    w.reconnect m lost = (.error (.notConnected .neverConnected), w)
  /-- It is refused. -/
  unreopened : ∀ lost e, (w.manager m).config.isSome → w.server.refusal = some e →
    (w.reconnect m lost).1 = .error e ∧ w.Alike (w.reconnect m lost).2
  /-- A handle is given up when none was given out. -/
  unopened : (w.manager m).issued = [] → ∀ h,
    w.disconnect m h = (.error (.notConnected .neverOpened), w)
  /-- There is no current handle to return or to send a statement on. -/
  inactive : (w.manager m).current = none → ∀ logQueries,
    (∀ keepAs, Command.run logQueries ⟨m, .active keepAs⟩ w =
      (.error (.notConnected .noneActive), w)) ∧
    ∀ st internal, Executor.runWithOutcome ⟨m, logQueries⟩ w st internal =
      (.error (.notConnected .noneActive), w)
  /-- A statement fails for another reason than a lost session. -/
  failed : ∀ logQueries h st internal e, w.server.answer 0 = .fail e → e.isTransient = false →
    let after := Executor.runWithRetry ⟨m, logQueries⟩ w h st internal
    after.1 = .error e ∧ w.OnlyAsked (sentOn st h) after.2
  /-- A statement loses its session, and by then no other one can be opened. -/
  unretried : ∀ logQueries h st internal e e', w.server.answer 0 = .fail e →
    e.isTransient = true →
    ((w.send h.session st.kind.verb st.sql).2.reconnect m h).1 = .error e' →
    let after := Executor.runWithRetry ⟨m, logQueries⟩ w h st internal
    after.1 = .ok (.exhausted e') ∧ w.OnlyAsked (sentOn st h) after.2
  /-- A statement that is sent only once fails, whatever the reason. -/
  once : ∀ logQueries st e,
    let after := Executor.runOnce ⟨m, logQueries⟩ w st
    after.1 = .error e →
      (w.manager m).current = none ∧ e = .notConnected .noneActive ∧ after.2 = w ∨
        ∃ h, (w.manager m).current = some h ∧ w.server.answer 0 = .fail e ∧
          w.OnlyAsked (sentOn st h) after.2

variable {w : World n} {m : Fin n}

/-- A statement that is sent only once fails because there is no current handle, or because the
answer is an error. -/
theorem onlyAsked_of_runOnce_error {x : Executor n} {st : Statement} {e : Error}
    (herror : (x.runOnce w st).1 = .error e) :
    (w.manager x.manager).current = none ∧ e = .notConnected .noneActive ∧
        (x.runOnce w st).2 = w ∨
      ∃ h, (w.manager x.manager).current = some h ∧ w.server.answer 0 = .fail e ∧
        w.OnlyAsked (sentOn st h) (x.runOnce w st).2 := by
  cases hcurrent : (w.manager x.manager).current with
  | none =>
    rw [Executor.runOnce_of_none hcurrent] at herror ⊢
    exact .inl ⟨rfl, (Except.error.inj herror).symm, rfl⟩
  | some h =>
    obtain ⟨hresult, hasked⟩ := Executor.runOnce_spec hcurrent st
    refine .inr ⟨h, rfl, ?_, hasked⟩
    rw [herror] at hresult
    by_cases hgood : ∀ e, w.server.answer 0 ≠ .fail e
    · obtain ⟨t, ht⟩ := Executor.shape_good st.kind hgood
      rw [ht] at hresult
      cases hresult
    · obtain ⟨e', he'⟩ := Classical.not_forall_not.1 hgood
      rw [he', Executor.shape_fail] at hresult
      rw [he', Except.error.inj hresult]

/-- All these failures leave everything as it is, if a manager that gave out no handle has opened
none. -/
theorem failsClean_of_unopened
    (hopened : (w.manager m).issued = [] → (w.manager m).opened = false) :
    w.FailsClean m where
  invalid config e hinvalid := by rw [connect, hinvalid]
  refused config e hvalid hrefusal := connect_error (.inr ⟨⟨(), hvalid⟩, hrefusal⟩)
  unremembered hconfig lost := reconnect_of_none lost hconfig
  unreopened lost e hconfig hrefusal := reconnect_error lost (.inr ⟨hconfig, hrefusal⟩)
  unopened hissued h := disconnect_of_not_opened h (hopened hissued)
  inactive hcurrent logQueries := by
    refine ⟨fun keepAs => ?_, fun st internal => ?_⟩
    · simp only [Command.run, active, hcurrent, giveOut]
    · exact Executor.runWithOutcome_of_none hcurrent st internal
  failed logQueries h st internal e hfirst he := by
    intro after
    obtain ⟨hresult, hattempted⟩ :=
      Executor.runWithRetry_error (x := ⟨m, logQueries⟩) (h := h) hfirst he st internal
    exact ⟨hresult, hattempted.onlyAsked⟩
  unretried logQueries h st internal e e' hfirst he hagain :=
    Executor.runWithRetry_of_reconnect_error (x := ⟨m, logQueries⟩) hfirst he hagain internal
  once logQueries st e := onlyAsked_of_runOnce_error (x := ⟨m, logQueries⟩)

/-- **Failures leave everything as it is**, in every world that operations reach in any order, and
so in every world that commands reach. -/
theorem failures_clean (replies : List (Reply n)) :
    (∀ logQueries cs, ∃ ops,
      (World.fresh replies).after ops = Command.runAll logQueries cs (World.fresh replies)) ∧
      ∀ ops m, ((World.fresh replies).after ops).FailsClean m := by
  refine ⟨fun logQueries cs => Command.exists_operations_runAll logQueries cs _, fun ops m => ?_⟩
  have hremembers := (remembers_fresh replies).after ops
  refine failsClean_of_unopened fun hissued => ?_
  rw [hremembers.opened, (hremembers.issued m).1 hissued]
  rfl

/-- Why a server with too many sessions refuses another one. -/
def tooMany : Error := .transientBackend (some 1040) "too many connections"

/-- The session is lost with which a connection was opened, and no other one can be. -/
def cutOff : World 1 :=
  (World.fresh [⟨.fail (.transientBackend (some 2006) "gone away"), []⟩]).after
    [.connect solo someConfig, .refuse (some tooMany)]

/-- A connection is refused, and then a statement is lost for which no other session can be opened:
the settings and the current handle are the old ones. -/
theorem failures_clean_cutOff :
    let connected := cutOff.connect solo otherConfig
    let queried := Executor.runWithRetry ⟨solo, false⟩ cutOff ⟨1, 1⟩ ⟨.select, "SELECT 1"⟩ false
    connected.1 = .error tooMany ∧ (connected.2.manager solo).config = some someConfig ∧
      queried.1 = .ok (.exhausted tooMany) ∧
      (queried.2.manager solo).current = some ⟨1, 1⟩ ∧ (queried.2.manager solo).stale = [] := by
  intro connected queried
  have hclean : cutOff.FailsClean solo := (failures_clean _).2 _ solo
  obtain ⟨hrefused, hconnected⟩ := hclean.refused otherConfig tooMany rfl rfl
  obtain ⟨hexhausted, hasked⟩ :=
    hclean.unretried false ⟨1, 1⟩ ⟨.select, "SELECT 1"⟩ false _ tooMany rfl rfl rfl
  have hqueried := hasked.quiet fun r hr => by
    rw [← Option.some.inj hr]
  refine ⟨hrefused, ?_, hexhausted, ?_, ?_⟩
  · rw [hconnected.manager]
    rfl
  · rw [hqueried.manager]
    rfl
  · rw [hqueried.manager]
    rfl

end World

end SqlBridge
