import SqlBridge.Proofs.Session.Leak

/-!
# Statements that are sent twice

What `Executor.runWithRetry` returns, sends and leaves behind, for every handle that the manager
gave out (`runWithRetry_spec`). Which of five ways a statement goes is decided by the first answer,
by whether the server lets a session be opened, and by the second answer; there is one lemma for
each way.

What is returned and sent does not depend on what other tasks do while the statement waits for an
answer (`Attempted`). What is left behind is told for the case that they do nothing then.
-/

namespace SqlBridge

variable {n : Nat}

/-- The answer to the next statement, or to one further on. -/
def Server.answer (s : Server n) (i : Nat) : Answer :=
  ((s.replies[i]?).map Reply.answer).getD (.rows ⟨[], []⟩)

namespace Executor

variable {w w' : World n} {x : Executor n} {h : Handle} {st : Statement} {internal : Bool}

/-! ## One attempt -/

/-- A close sends no statement. -/
theorem received_closeEach (w : World n) (l : List Handle) :
    (w.closeEach l).server.sent = w.server.sent ∧
      (w.closeEach l).server.replies = w.server.replies := by
  obtain ⟨closed, heq, -⟩ := w.closeEach_eq l
  rw [heq]
  exact ⟨rfl, rfl⟩

/-- What other tasks do in the meantime sends no statement. -/
theorem received_interrupt (w : World n) (i : Interruption n) :
    (w.interrupt i).server.sent = w.server.sent ∧
      (w.interrupt i).server.replies = w.server.replies := by
  cases i with
  | connect m config =>
    rw [World.interrupt, World.connect, World.openHandle, Server.openSession]
    cases config.validate with
    | error e => exact ⟨rfl, rfl⟩
    | ok u => cases w.server.refusal <;> exact ⟨rfl, rfl⟩
  | disconnectAll m =>
    obtain ⟨hsent, hreplies⟩ := received_closeEach (w.update m Manager.releaseAll)
      ((w.manager m).stale ++ (w.manager m).current.toList)
    rw [World.interrupt, World.disconnectAll_eq]
    exact ⟨hsent, hreplies⟩
  | refuse e => exact ⟨rfl, rfl⟩

/-- Nothing that other tasks do while an answer is awaited sends a statement. -/
theorem received_interruptions (w : World n) (l : List (Interruption n)) :
    (l.foldl World.interrupt w).server.sent = w.server.sent ∧
      (l.foldl World.interrupt w).server.replies = w.server.replies := by
  induction l generalizing w with
  | nil => exact ⟨rfl, rfl⟩
  | cons i l ih =>
    obtain ⟨hsent, hreplies⟩ := ih (w.interrupt i)
    have hfirst := received_interrupt w i
    exact ⟨hsent.trans hfirst.1, hreplies.trans hfirst.2⟩

/-- A statement is received, and its answer is the next one of the server, whatever others do until
it arrives. -/
theorem send_spec (w : World n) (s : Sent) :
    (w.send s.session s.verb s.sql).1 = w.server.answer 0 ∧
      (w.send s.session s.verb s.sql).2.server.sent = w.server.sent ++ [s] ∧
      (w.send s.session s.verb s.sql).2.server.replies = w.server.replies.tail := by
  rw [World.send, Server.receive, Server.answer]
  cases hreplies : w.server.replies with
  | nil => exact ⟨rfl, rfl, rfl⟩
  | cons r rest =>
    let received := { w.server with sent := w.server.sent ++ [s], replies := rest }
    obtain ⟨hsent, hrest⟩ := received_interruptions { w with server := received } r.meanwhile
    exact ⟨rfl, hsent, hrest⟩

/-- When no other task acts until the answer arrives, nothing else happens. -/
theorem alike_send (s : Sent) (hquiet : ∀ r ∈ w.server.replies[0]?, r.meanwhile = []) :
    w.Alike (w.send s.session s.verb s.sql).2 := by
  rw [World.send, Server.receive]
  cases hreplies : w.server.replies with
  | nil => exact ⟨rfl, rfl, rfl, rfl, rfl⟩
  | cons r rest =>
    have hnothing : r.meanwhile = [] := hquiet r (by simp [hreplies])
    simp only [hnothing]
    exact ⟨rfl, rfl, rfl, rfl, rfl⟩

/-- A statement was sent once, and nothing else happened since its answer arrived. -/
structure Attempted (w : World n) (s : Sent) (w' : World n) : Prop where
  arrival : (w.send s.session s.verb s.sql).2.Alike w'
  sent : w'.server.sent = w.server.sent ++ [s]
  replies : w'.server.replies = w.server.replies.tail
  refusal : w'.server.refusal = (w.send s.session s.verb s.sql).2.server.refusal

/-- To log an event is not to send a statement. -/
theorem Attempted.note {s : Sent} (ha : Attempted w s w') (e : LogEvent) :
    Attempted w s (w'.note e) :=
  ⟨ha.arrival.trans (w'.alike_note e), ha.sent, ha.replies, ha.refusal⟩

/-- A world with one more statement sent is like the one before, when no other task acts until the
answer arrives. -/
theorem Attempted.alike {s : Sent} (ha : Attempted w s w')
    (hquiet : ∀ r ∈ w.server.replies[0]?, r.meanwhile = []) : w.Alike w' :=
  (alike_send s hquiet).trans ha.arrival

/-- The statement as it is sent on a handle. -/
def sentOn (st : Statement) (h : Handle) : Sent := ⟨h.session, st.kind.verb, st.sql⟩

/-- The result of an attempt is the shape of the next answer. -/
theorem attempt_spec (x : Executor n) (w : World n) (h : Handle) (st : Statement)
    (internal : Bool) :
    (x.attempt w h st internal).1 = st.kind.shape (w.server.answer 0) ∧
      Attempted w (sentOn st h) (x.attempt w h st internal).2 := by
  obtain ⟨hanswer, hsent, hreplies⟩ := send_spec w (sentOn st h)
  have harrival : Attempted w (sentOn st h) (w.send h.session st.kind.verb st.sql).2 :=
    ⟨⟨rfl, rfl, rfl, rfl, rfl⟩, hsent, hreplies, rfl⟩
  rw [attempt]
  generalize hw : w.send h.session st.kind.verb st.sql = arrived at harrival
  have hanswer : arrived.1 = w.server.answer 0 := hw ▸ hanswer
  obtain ⟨answer, w₁⟩ := arrived
  simp only at hanswer
  subst hanswer
  simp only
  cases st.kind.shape (w.server.answer 0) with
  | error e => exact ⟨rfl, harrival⟩
  | ok t =>
    simp only
    split
    · exact ⟨trivial, harrival.note _⟩
    · exact ⟨trivial, harrival⟩

/-- Reconnecting sends no statement. -/
theorem received_reconnect (w : World n) (m : Fin n) (lost : Handle) :
    (w.reconnect m lost).2.server.sent = w.server.sent ∧
      (w.reconnect m lost).2.server.replies = w.server.replies := by
  rw [World.reconnect, World.reopen]
  cases (w.manager m).config with
  | none => exact ⟨rfl, rfl⟩
  | some config =>
    simp only [World.openHandle, Server.openSession]
    have hrefusal : (w.note (.reconnecting Server.driverName lost.id)).server.refusal =
        w.server.refusal := rfl
    rw [hrefusal]
    cases w.server.refusal <;> exact ⟨rfl, rfl⟩

/-! ## Clearing up -/

/-- After a second attempt that succeeded the lost session is closed and its handle does not
wait. -/
theorem settle_lost (hw : w.Sound) {lost : Handle} (hlost : lost ∈ (w.manager x.manager).issued)
    (fresh : Handle) :
    (x.settle w lost fresh).isClosed lost = true ∧
      lost ∉ ((x.settle w lost fresh).manager x.manager).stale ∧
      (x.settle w lost fresh).server.sent = w.server.sent := by
  have hretire := w.letsGo_retire x.manager lost
  have hretired : (w.retire x.manager lost).2.Sound := (World.keeps_retire hlost hw).1
  have hsweep := (w.retire x.manager lost).2.letsGo_closeStale x.manager [lost, fresh]
  rw [settle]
  refine ⟨?_, fun hmem => ?_, hsweep.sent.trans hretire.sent⟩
  · have hclosed := (hretire.closed hw.closes lost.session).2 (.inr ⟨lost, by simp, rfl⟩)
    exact World.isClosed_iff.2 ((hsweep.closed hretired.closes _).2 (.inl hclosed))
  · rw [hsweep.self] at hmem
    have hstale := (List.mem_filter.1 hmem).1
    rw [hretire.self] at hstale
    exact (((hw.managers x.manager).mem_unqueue hlost).1 hstale).2 rfl

/-- The fresh session is still the current one, and open. -/
theorem settle_fresh (hw : w.Sound) {lost fresh : Handle}
    (hlost : lost ∈ (w.manager x.manager).issued)
    (hcurrent : (w.manager x.manager).current = some fresh) (hne : fresh ≠ lost)
    (hopen : w.isClosed fresh = false) :
    ((x.settle w lost fresh).manager x.manager).current = some fresh ∧
      (x.settle w lost fresh).isClosed fresh = false := by
  have hretire := w.letsGo_retire x.manager lost
  have hretired : (w.retire x.manager lost).2.Sound := (World.keeps_retire hlost hw).1
  have hsweep := (w.retire x.manager lost).2.letsGo_closeStale x.manager [lost, fresh]
  have hcurrent' : ((w.retire x.manager lost).2.manager x.manager).current = some fresh := by
    rw [hretire.self]
    exact hcurrent
  have hmanager := hretired.managers x.manager
  rw [settle]
  refine ⟨?_, ?_⟩
  · rw [hsweep.self]
    exact hcurrent'
  · rw [← Bool.not_eq_true, World.isClosed_iff]
    intro hclosed
    rcases (hsweep.closed hretired.closes _).1 hclosed with hclosed | ⟨g, hg, heq⟩
    · rcases (hretire.closed hw.closes _).1 hclosed with hclosed | ⟨g, hg, heq⟩
      · exact absurd (World.isClosed_iff.2 hclosed) (by simp [hopen])
      · rw [List.mem_singleton.1 hg] at heq
        have hfresh := (hw.managers x.manager).current fresh hcurrent
        exact hne (hw.apart _ _ lost hlost fresh hfresh heq).2.symm
    · have hstale := (List.mem_filter.1 hg).1
      have hsame := (hretired.apart _ _ g (hmanager.stale g hstale) fresh
        (hmanager.current fresh hcurrent') heq).2
      exact hmanager.apart fresh hcurrent' (hsame ▸ hstale)

/-! ## The five ways -/

/-- An error has no shape, and any other answer has one. -/
theorem shape_fail (kind : StatementKind) (e : Error) : kind.shape (.fail e) = .error e := by
  cases kind <;> rfl

/-- Every answer that is not an error has a table. -/
theorem shape_good (kind : StatementKind) {a : Answer} (ha : ∀ e, a ≠ .fail e) :
    ∃ t, kind.shape a = .ok t := by
  cases a with
  | fail e => exact absurd rfl (ha e)
  | rows r => cases kind <;> exact ⟨_, rfl⟩
  | done e => cases kind <;> exact ⟨_, rfl⟩

/-- Nothing was lost: the result is the shape of the answer. -/
theorem runWithRetry_success {t : Table} (hfirst : st.kind.shape (w.server.answer 0) = .ok t)
    (internal : Bool) :
    (x.runWithRetry w h st internal).1 = .ok (.success t) ∧
      Attempted w (sentOn st h) (x.runWithRetry w h st internal).2 := by
  obtain ⟨hresult, hattempted⟩ := x.attempt_spec w h st internal
  rw [runWithRetry]
  generalize x.attempt w h st internal = first at hresult hattempted
  obtain ⟨r, w₁⟩ := first
  rw [hfirst] at hresult
  simp only at hresult
  subst hresult
  exact ⟨rfl, hattempted⟩

/-- The first attempt failed for another reason than a lost session: its error is the result. -/
theorem runWithRetry_error {e : Error} (hfirst : w.server.answer 0 = .fail e)
    (he : e.isRetryable = false) (st : Statement) (internal : Bool) :
    (x.runWithRetry w h st internal).1 = .error e ∧
      Attempted w (sentOn st h) (x.runWithRetry w h st internal).2 := by
  obtain ⟨hresult, hattempted⟩ := x.attempt_spec w h st internal
  rw [runWithRetry]
  generalize x.attempt w h st internal = first at hresult hattempted
  obtain ⟨r, w₁⟩ := first
  rw [hfirst, shape_fail] at hresult
  simp only at hresult
  subst hresult
  simp only [he, Bool.false_eq_true, if_false]
  exact ⟨trivial, hattempted.note _⟩

/-- A lost session makes the executor go on in the world that the first attempt left. -/
theorem runWithRetry_of_attempt_error {e : Error}
    (hfirst : (x.attempt w h st internal).1 = .error e) (he : e.isRetryable = true) :
    x.runWithRetry w h st internal =
      x.retry ((x.attempt w h st internal).2.note (.lostConnection e st.sql)) h st internal := by
  rw [runWithRetry]
  generalize x.attempt w h st internal = first at hfirst
  obtain ⟨r, w₁⟩ := first
  simp only at hfirst
  subst hfirst
  simp only [he, if_true]

/-- A table that a retry returns was the answer to the second attempt, and all that was left to do
is to clear up. -/
theorem retry_table {t : Table} (ht : plainResult (x.retry w h st internal).1 = .ok t) :
    ∃ fresh w₂ w₃, w.reconnect x.manager h = (.ok fresh, w₂) ∧
      x.attempt w₂ fresh st internal = (.ok t, w₃) ∧
      x.retry w h st internal = (.ok (.retriedSuccess t), x.settle w₃ h fresh) := by
  rw [retry] at ht ⊢
  cases hsecond : w.reconnect x.manager h with
  | mk r w₂ =>
    rw [hsecond] at ht
    cases r with
    | error e => cases ht
    | ok fresh =>
      cases hthird : x.attempt w₂ fresh st internal with
      | mk r w₃ =>
        simp only [hthird] at ht
        cases r with
        | error e => cases ht
        | ok t' =>
          cases ht
          exact ⟨fresh, w₂, w₃, rfl, hthird, by simp only [hthird]⟩

/-- A table that a statement returns was the answer to its first attempt, or a retry returns it. -/
theorem runWithRetry_table {t : Table}
    (ht : plainResult (x.runWithRetry w h st internal).1 = .ok t) :
    (x.attempt w h st internal).1 = .ok t ∧
        (x.runWithRetry w h st internal).1 = .ok (.success t) ∨
      ∃ e, x.runWithRetry w h st internal =
        x.retry ((x.attempt w h st internal).2.note (.lostConnection e st.sql)) h st internal := by
  cases hfirst : (x.attempt w h st internal).1 with
  | ok t' =>
    have hresult : (x.runWithRetry w h st internal).1 = .ok (.success t') := by
      rw [runWithRetry, ← Prod.eta (x.attempt w h st internal), hfirst]
    rw [hresult] at ht
    cases ht
    exact .inl ⟨rfl, hresult⟩
  | error e =>
    by_cases he : e.isRetryable = true
    · exact .inr ⟨e, runWithRetry_of_attempt_error hfirst he⟩
    · rw [runWithRetry, ← Prod.eta (x.attempt w h st internal), hfirst] at ht
      simp only [he, Bool.false_eq_true, if_false] at ht
      cases ht

/-- A first attempt that loses its session is logged, and then retried. -/
theorem runWithRetry_eq_retry {e : Error} (hfirst : w.server.answer 0 = .fail e)
    (he : e.isRetryable = true) (st : Statement) (internal : Bool) :
    let lost := (x.attempt w h st internal).2.note (.lostConnection e st.sql)
    Attempted w (sentOn st h) lost ∧
      x.runWithRetry w h st internal = x.retry lost h st internal := by
  obtain ⟨hresult, hattempted⟩ := x.attempt_spec w h st internal
  rw [hfirst, shape_fail] at hresult
  exact ⟨hattempted.note _, runWithRetry_of_attempt_error hresult he⟩

/-- The world that is retried in is sound, and its managers have every handle that they gave out
before. -/
theorem runWithRetry_lost {e : Error} (hfirst : w.server.answer 0 = .fail e)
    (he : e.isRetryable = true) (hw : w.Sound) (st : Statement) (internal : Bool) :
    ∃ w₁, Attempted w (sentOn st h) w₁ ∧ w₁.Sound ∧
      (∀ m, ∀ g ∈ (w.manager m).issued, g ∈ (w₁.manager m).issued) ∧
      x.runWithRetry w h st internal = x.retry w₁ h st internal := by
  obtain ⟨hattempted, hafter⟩ := runWithRetry_eq_retry (x := x) (h := h) hfirst he st internal
  have hkeeps := (x.keeps_attempt w h st internal).trans
    (World.alike_note _ (.lostConnection e st.sql)).keeps
  obtain ⟨hsound, hissued⟩ := hkeeps hw
  exact ⟨_, hattempted, hsound, hissued, hafter⟩

/-- There is no session for a second attempt: the reason is the result. -/
theorem retry_of_reconnect_error {e : Error} (herror : (w.reconnect x.manager h).1 = .error e)
    (st : Statement) (internal : Bool) :
    (x.retry w h st internal).1 = .ok (.exhausted e) ∧
      w.Alike (x.retry w h st internal).2 ∧
      (x.retry w h st internal).2.server.sent = w.server.sent := by
  obtain ⟨hsent, -⟩ := received_reconnect w x.manager h
  rcases w.reconnect_cases x.manager h with ⟨-, halike⟩ | ⟨hresult, -⟩
  · rw [retry]
    generalize w.reconnect x.manager h = second at herror halike hsent
    obtain ⟨r, w₂⟩ := second
    simp only at herror
    subst herror
    exact ⟨rfl, halike.trans (w₂.alike_note _), hsent⟩
  · rw [hresult] at herror
    cases herror

/-- A retry for which no new session can be opened ends exhausted, and sends nothing. -/
theorem retry_refused (hconfig : (w.manager x.manager).config.isSome) {e : Error}
    (hrefusal : w.server.refusal = some e) (st : Statement) (internal : Bool) :
    (x.retry w h st internal).1 = .ok (.exhausted e) ∧
      w.Alike (x.retry w h st internal).2 ∧
      (x.retry w h st internal).2.server.sent = w.server.sent :=
  retry_of_reconnect_error (World.reconnect_error h (.inr ⟨hconfig, hrefusal⟩)).1 st internal

/-- The second attempt is made on the fresh session. When no other task acts until its answer
arrives, that session is the current one, and the lost handle waits. -/
theorem second_attempt (hw : w.Sound) (hh : h ∈ (w.manager x.manager).issued)
    (hrefusal : w.server.refusal = none) (st : Statement) (internal : Bool) :
    let fresh := w.nextHandle x.manager
    ∃ w₂ w₃, w.reconnect x.manager h = (.ok fresh, w₂) ∧
      x.attempt w₂ fresh st internal = (st.kind.shape (w.server.answer 0), w₃) ∧ w₃.Sound ∧
      h ∈ (w₃.manager x.manager).issued ∧
      w₃.server.sent = w.server.sent ++ [sentOn st fresh] ∧
      ((∀ r ∈ w.server.replies[0]?, r.meanwhile = []) →
        (w₃.manager x.manager).current = some fresh ∧ h ∈ (w₃.manager x.manager).stale ∧
          w₃.server.closed = w.server.closed) := by
  intro fresh
  have hmanager := hw.managers x.manager
  have hconfig := hmanager.config (List.ne_nil_of_mem hh)
  obtain ⟨hresult, hadmits⟩ := World.reconnect_ok h hconfig hrefusal
  obtain ⟨hsent, hreplies⟩ := received_reconnect w x.manager h
  obtain ⟨hsound, hissued⟩ := (World.keeps_reconnect hh).1 hw
  generalize hsecond : w.reconnect x.manager h = second at *
  obtain ⟨r, w₂⟩ := second
  simp only at hresult hadmits hsent hreplies hsound hissued
  obtain ⟨hanswer, hattempted⟩ := x.attempt_spec w₂ fresh st internal
  obtain ⟨hsound', hissued'⟩ := x.keeps_attempt w₂ fresh st internal hsound
  have hsame : w₂.server.answer 0 = w.server.answer 0 := by
    rw [Server.answer, Server.answer, hreplies]
  refine ⟨w₂, (x.attempt w₂ fresh st internal).2, by rw [hresult], ?_, hsound', ?_, ?_,
    fun hquiet => ?_⟩
  · rw [← hsame, ← hanswer]
  · exact hissued' _ h (hissued _ h hh)
  · rw [hattempted.sent, hsent]
  · have halike := hattempted.alike (hreplies.symm ▸ hquiet)
    rw [halike.manager, hadmits.self, Manager.current_adopt]
    refine ⟨rfl, ?_, halike.closed.trans hadmits.closed⟩
    exact (Manager.mem_stale_adopt (hmanager.issue rfl hconfig) (List.mem_append_left _ hh)).2
      (.inr (.inl rfl))

/-- The second attempt succeeded: the lost session is closed and no longer waits. -/
theorem retry_success (hw : w.Sound) (hh : h ∈ (w.manager x.manager).issued)
    (hrefusal : w.server.refusal = none) {t : Table}
    (hsecond : st.kind.shape (w.server.answer 0) = .ok t) (internal : Bool) :
    let fresh := w.nextHandle x.manager
    let after := x.retry w h st internal
    after.1 = .ok (.retriedSuccess t) ∧
      after.2.server.sent = w.server.sent ++ [sentOn st fresh] ∧
      after.2.isClosed h = true ∧ h ∉ (after.2.manager x.manager).stale ∧
      ((∀ r ∈ w.server.replies[0]?, r.meanwhile = []) →
        (after.2.manager x.manager).current = some fresh ∧ after.2.isClosed fresh = false) := by
  intro fresh after
  obtain ⟨w₂, w₃, hreconnect, hattempt, hsound, hissued, hsent, hstate⟩ :=
    second_attempt (x := x) hw hh hrefusal st internal
  obtain ⟨hlost, hgone, hsent'⟩ := settle_lost hsound hissued fresh
  have hafter : after = (.ok (.retriedSuccess t), x.settle w₃ h fresh) := by
    rw [hsecond] at hattempt
    simp only [after, retry, hreconnect]
    rw [hattempt]
  rw [hafter]
  refine ⟨rfl, hsent'.trans hsent, hlost, hgone, fun hquiet => ?_⟩
  obtain ⟨hcurrent, -, hclosed⟩ := hstate hquiet
  have hopen : w₃.isClosed fresh = false := by
    rw [← Bool.not_eq_true, World.isClosed_iff, hclosed]
    exact fun hmem => Nat.not_succ_le_self _ (hw.closed _ hmem)
  have hne : fresh ≠ h := fun heq => hw.session_ne_nextHandle hh (congrArg Handle.session heq).symm
  exact settle_fresh hsound hissued hcurrent hne hopen

/-- The second attempt failed: its error is the result, and the lost handle waits. -/
theorem retry_error (hw : w.Sound) (hh : h ∈ (w.manager x.manager).issued)
    (hrefusal : w.server.refusal = none) {e : Error} (hsecond : w.server.answer 0 = .fail e)
    (st : Statement) (internal : Bool) :
    let fresh := w.nextHandle x.manager
    let after := x.retry w h st internal
    after.1 = .ok (.exhausted e) ∧
      after.2.server.sent = w.server.sent ++ [sentOn st fresh] ∧
      ((∀ r ∈ w.server.replies[0]?, r.meanwhile = []) →
        (after.2.manager x.manager).current = some fresh ∧
          h ∈ (after.2.manager x.manager).stale ∧ after.2.server.closed = w.server.closed) := by
  intro fresh after
  obtain ⟨w₂, w₃, hreconnect, hattempt, -, -, hsent, hstate⟩ :=
    second_attempt (x := x) hw hh hrefusal st internal
  have hafter : after = (.ok (.exhausted e), w₃.note (.retryFailed e st.sql)) := by
    rw [hsecond, shape_fail] at hattempt
    simp only [after, retry, hreconnect]
    rw [hattempt]
  rw [hafter]
  exact ⟨rfl, hsent, hstate⟩

/-- What becomes of the second attempt, by its answer. -/
theorem retry_spec (hw : w.Sound) (hh : h ∈ (w.manager x.manager).issued)
    (hrefusal : w.server.refusal = none) (st : Statement) (internal : Bool) :
    let fresh := w.nextHandle x.manager
    let after := x.retry w h st internal
    after.2.server.sent = w.server.sent ++ [sentOn st fresh] ∧
      ((∀ e, w.server.answer 0 ≠ .fail e) →
        ∃ t, st.kind.shape (w.server.answer 0) = .ok t ∧ after.1 = .ok (.retriedSuccess t) ∧
          after.2.isClosed h = true ∧ h ∉ (after.2.manager x.manager).stale ∧
          ((∀ r ∈ w.server.replies[0]?, r.meanwhile = []) →
            (after.2.manager x.manager).current = some fresh ∧ after.2.isClosed fresh = false)) ∧
      ∀ e, w.server.answer 0 = .fail e →
        after.1 = .ok (.exhausted e) ∧
          ((∀ r ∈ w.server.replies[0]?, r.meanwhile = []) →
            (after.2.manager x.manager).current = some fresh ∧
              h ∈ (after.2.manager x.manager).stale ∧ after.2.server.closed = w.server.closed) := by
  intro fresh after
  by_cases hgood : ∀ e, w.server.answer 0 ≠ .fail e
  · obtain ⟨t, ht⟩ := shape_good st.kind hgood
    obtain ⟨hresult, hsent, hlost, hgone, hstate⟩ :=
      retry_success (x := x) hw hh hrefusal ht internal
    exact ⟨hsent, fun _ => ⟨t, ht, hresult, hlost, hgone, hstate⟩,
      fun e he => absurd he (hgood e)⟩
  · obtain ⟨e, hsecond⟩ := Classical.not_forall_not.1 hgood
    obtain ⟨hresult, hsent, hstate⟩ := retry_error (x := x) hw hh hrefusal hsecond st internal
    refine ⟨hsent, fun hgood' => absurd hgood' hgood, fun e' he' => ?_⟩
    have heq : e' = e := Answer.fail.inj (he'.symm.trans hsecond)
    rw [heq]
    exact ⟨hresult, hstate⟩

/-- **A statement is sent once on the given handle, and once more exactly if its session was lost
and the server lets another one be opened**, on that session. The result is the shape of the last
answer, or the error that ended it. If no session was opened nothing else changes; otherwise the
new session is the current one, and the lost one is closed when the second attempt succeeds, and
waits when it fails. Other tasks may act until an answer arrives; only what is said of the managers'
state is said for the case that they do not. -/
theorem runWithRetry_spec (hw : w.Reachable) (hh : h ∈ (w.manager x.manager).issued)
    (st : Statement) (internal : Bool) :
    let arrival := (w.send h.session st.kind.verb st.sql).2
    let fresh := arrival.nextHandle x.manager
    let after := x.runWithRetry w h st internal
    let once := after.2.server.sent = w.server.sent ++ [sentOn st h]
    let twice := after.2.server.sent = w.server.sent ++ [sentOn st h, sentOn st fresh]
    let quiet (i : Nat) := ∀ r ∈ w.server.replies[i]?, r.meanwhile = []
    ((∀ e, w.server.answer 0 ≠ .fail e) →
        ∃ t, st.kind.shape (w.server.answer 0) = .ok t ∧ after.1 = .ok (.success t) ∧ once ∧
          (quiet 0 → w.Alike after.2)) ∧
      ∀ e, w.server.answer 0 = .fail e →
        (e.isTransient = false → after.1 = .error e ∧ once ∧ (quiet 0 → w.Alike after.2)) ∧
        (e.isTransient = true →
          (∀ e', arrival.server.refusal = some e' →
            after.1 = .ok (.exhausted e') ∧ once ∧ (quiet 0 → w.Alike after.2)) ∧
          (arrival.server.refusal = none →
            twice ∧
            ((∀ e', w.server.answer 1 ≠ .fail e') →
              ∃ t, st.kind.shape (w.server.answer 1) = .ok t ∧
                after.1 = .ok (.retriedSuccess t) ∧ after.2.isClosed h = true ∧
                h ∉ (after.2.manager x.manager).stale ∧
                (quiet 1 → (after.2.manager x.manager).current = some fresh ∧
                  after.2.isClosed fresh = false)) ∧
            ∀ e', w.server.answer 1 = .fail e' →
              after.1 = .ok (.exhausted e') ∧
                (quiet 1 → (after.2.manager x.manager).current = some fresh ∧
                  h ∈ (after.2.manager x.manager).stale ∧
                  after.2.server.closed = arrival.server.closed))) := by
  intro arrival fresh after once twice quiet
  refine ⟨fun hgood => ?_, fun e hfirst => ⟨fun he => ?_, fun he => ?_⟩⟩
  · obtain ⟨t, ht⟩ := shape_good st.kind hgood
    obtain ⟨hresult, hattempted⟩ := runWithRetry_success (x := x) (h := h) ht internal
    exact ⟨t, ht, hresult, hattempted.sent, hattempted.alike⟩
  · obtain ⟨hresult, hattempted⟩ := runWithRetry_error (x := x) (h := h) hfirst he st internal
    exact ⟨hresult, hattempted.sent, hattempted.alike⟩
  · -- the second attempt starts in the world that the first one left
    obtain ⟨w₁, hattempted, hsound, hissued, hafter⟩ :=
      runWithRetry_lost (x := x) (h := h) hfirst he hw.sound st internal
    have hh₁ := hissued x.manager h hh
    have hanswer : w₁.server.answer 0 = w.server.answer 1 := by
      rw [Server.answer, Server.answer, hattempted.replies, List.getElem?_tail]
    have hquiet : quiet 1 → ∀ r ∈ w₁.server.replies[0]?, r.meanwhile = [] := by
      rw [hattempted.replies, List.getElem?_tail]
      exact id
    have hfresh : w₁.nextHandle x.manager = fresh := by
      rw [World.nextHandle, hattempted.arrival.manager, hattempted.arrival.opened]
      rfl
    refine ⟨fun e' hrefusal => ?_, fun hrefusal => ?_⟩
    · have hconfig := (hsound.managers x.manager).config (List.ne_nil_of_mem hh₁)
      obtain ⟨hresult, halike, hsent⟩ := retry_refused (x := x) (h := h) hconfig
        (hattempted.refusal.trans hrefusal) st internal
      rw [← hafter] at hresult halike hsent
      exact ⟨hresult, hsent.trans hattempted.sent,
        fun hquiet => (hattempted.alike hquiet).trans halike⟩
    · obtain ⟨hsent, hgood, hfail⟩ := retry_spec (x := x) hsound hh₁
        (hattempted.refusal.trans hrefusal) st internal
      rw [← hafter, hfresh, hattempted.sent, List.append_assoc] at hsent
      rw [← hafter, hfresh, hanswer] at hgood hfail
      refine ⟨hsent, fun hgood' => ?_, fun e' he' => ?_⟩
      · obtain ⟨t, ht, hresult, hlost, hgone, hstate⟩ := hgood hgood'
        exact ⟨t, ht, hresult, hlost, hgone, fun h => hstate (hquiet h)⟩
      · obtain ⟨hresult, hstate⟩ := hfail e' he'
        refine ⟨hresult, fun h => ?_⟩
        obtain ⟨hcurrent, hstale, hclosed⟩ := hstate (hquiet h)
        exact ⟨hcurrent, hstale, hclosed.trans hattempted.arrival.closed⟩

/-- A world in which the next statement loses its session and the one after it is answered. -/
def losing : World 1 :=
  Command.runAll false
    [⟨World.solo, .connect World.someConfig none⟩,
      ⟨World.solo, .push [⟨.fail (.transientBackend (some 2006) "gone away"), []⟩,
        ⟨.done ⟨.ofNat 3, none⟩, []⟩]⟩]
    (World.fresh [])

/-- The first attempt loses its session and the second one is answered: the lost session is closed
and the new one is current. -/
theorem runWithRetry_losing :
    let x : Executor 1 := ⟨World.solo, false⟩
    let after := x.runWithRetry losing ⟨1, 1⟩ ⟨.update, "UPDATE t"⟩ false
    after.1 = .ok (.retriedSuccess (Table.status (.ofNat 3))) ∧
      after.2.server.sent = [⟨1, .execute, "UPDATE t"⟩, ⟨2, .execute, "UPDATE t"⟩] ∧
      (after.2.manager World.solo).current = some ⟨2, 2⟩ ∧ after.2.isClosed ⟨1, 1⟩ = true := by
  intro x after
  have hreachable : losing.Reachable := by
    refine .step false (.step false (.fresh []) ?_) ?_
    all_goals decide +kernel
  have hissued : (⟨1, 1⟩ : Handle) ∈ (losing.manager World.solo).issued := by decide +kernel
  obtain ⟨-, hfail⟩ := runWithRetry_spec (x := x) hreachable hissued ⟨.update, "UPDATE t"⟩ false
  obtain ⟨-, hlost⟩ := hfail (.transientBackend (some 2006) "gone away") rfl
  obtain ⟨-, hopened⟩ := hlost rfl
  obtain ⟨htwice, hgood, -⟩ := hopened (by decide +kernel)
  obtain ⟨t, ht, hresult, hclosed, -, hstate⟩ := hgood fun e he => by cases he
  obtain ⟨hcurrent, -⟩ := hstate fun r hr => by
    rw [← Option.some.inj hr]
  have hshape : t = Table.status (.ofNat 3) := (Except.ok.inj ht).symm
  rw [hshape] at hresult
  exact ⟨hresult, htwice, hcurrent, hclosed⟩

end Executor

end SqlBridge
