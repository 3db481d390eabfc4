import SqlBridge.Proofs.Session.Retry
import SqlBridge.Proofs.Session.Identity

/-!
# What a sweep closes

A sweep takes a handle out of the queue when there is no reference to its session but the one in the
queue. In an orderly world this is to say that nobody holds a handle of the session
(`World.Orderly.isIdle_eq`), since the queue holds each session once and never the current one.
Every world that is reached is orderly, also when sessions cannot be closed
(`World.Reached.orderly`).

So a sweep gives up exactly what nobody holds (`World.Orderly.sweeps`), and a statement that was
answered at its second attempt closes the session that was lost and otherwise none that anybody
holds (`World.Orderly.closed_settled`). Whether the sessions that are given up are closed is up to
the server: the sweep counts them and forgets them either way (`World.sweep_stuck`).
-/

namespace SqlBridge

namespace World

variable {n : Nat} {w w' : World n} {m : Fin n} {h g : Handle} {held : List Handle}

/-! ## Orderly worlds -/

/-- A fresh world is orderly. -/
theorem orderly_fresh (replies : List (Reply n)) : (World.fresh replies).Orderly :=
  (sound_fresh replies).orderly

/-- Being orderly as a property that managers keep when they are called with their own handles. -/
def orderliness : Invariant n where
  holds := Orderly
  usable w m h := h ∈ (w.manager m).issued
  mayFailClosing := True

/-- Nothing that was given out changes when managers and sessions stay as they are. -/
theorem orderliness_of_same (hmanagers : w'.managers = w.managers)
    (hopened : w'.server.opened = w.server.opened) : orderliness.Keeps w w' := by
  have hmanager (m : Fin n) : w'.manager m = w.manager m := by
    rw [World.manager, World.manager, hmanagers]
  refine fun hw => ⟨⟨?_, ?_, ?_⟩, fun m h hh => ?_⟩
  · simpa only [hmanager] using hw.managers
  · simpa only [hmanager, hopened] using hw.opened
  · simpa only [hmanager] using hw.apart
  · have hstays : h ∈ (w.manager m).issued := hh
    rwa [← hmanager] at hstays

/-- A manager that lets handles go stays sound. -/
theorem LetsGo.orderliness {k : Manager} {l : List Handle} (hl : w.LetsGo m k l w') :
    orderliness.Keeps w w' := by
  have hissued (j : Fin n) : (w'.manager j).issued = (w.manager j).issued := (hl.manager j).issued
  refine fun hw => ⟨⟨fun j => (hw.managers j).letsGo (hl.manager j), ?_, ?_⟩, fun j h hh => ?_⟩
  · simpa only [hissued, hl.opened] using hw.opened
  · simpa only [hissued] using hw.apart
  · have hstays : h ∈ (w.manager j).issued := hh
    rwa [← hissued] at hstays

/-- A manager that takes the next handle in brings a new session. -/
theorem Admits.orderliness {k : Manager} (ha : w.Admits m k w')
    (hk : (w.manager m).Sound → k.Sound)
    (hissued : k.issued = (w.manager m).issued ++ [w.nextHandle m]) :
    orderliness.Keeps w w' := by
  have hmem (j : Fin n) (h : Handle) := ha.mem_issued hissued (j := j) (h := h)
  refine fun hw => ⟨⟨fun j => ?_, fun j h hh => ?_, ha.apart hissued hw.opened hw.apart⟩,
    fun j h hh => (hmem j h).2 (.inl hh)⟩
  · by_cases hj : j = m
    · subst hj
      rw [ha.self]
      exact hk (hw.managers j)
    · rw [ha.others j hj]
      exact hw.managers j
  · rw [ha.opened]
    rcases (hmem j h).1 hh with hh | ⟨-, rfl⟩
    · exact Nat.le_succ_of_le (hw.opened j h hh)
    · exact Nat.le_refl _

/-- **Every operation keeps a world orderly**, whether or not sessions can be closed. -/
theorem respected_orderliness : (orderliness : Invariant n).Respected where
  alike h := orderliness_of_same h.managers h.opened
  current hw := (hw.managers _).current _
  connect w m config := by
    have hkept (h : Handle) := (keeps_connect w m config).2 h
    refine ⟨?_, hkept⟩
    rcases w.connect_cases m config with ⟨-, halike⟩ | ⟨-, hadmits⟩
    · exact orderliness_of_same halike.managers halike.opened
    · exact hadmits.orderliness (fun hk => hk.install rfl config) (Manager.issued_install _ _ _)
  reconnect := fun {w m lost} hlost => by
    have hkept (h : Handle) := (keeps_reconnect hlost).2 h
    refine ⟨?_, hkept⟩
    rcases w.reconnect_cases m lost with ⟨-, halike⟩ | ⟨-, hadmits⟩
    · exact orderliness_of_same halike.managers halike.opened
    · exact hadmits.orderliness (fun hk => hk.adopt rfl hlost) (Manager.issued_adopt _ _ _)
  disconnect := fun {w m h} _ => by
    rcases w.disconnect_cases m h with hsame | hl
    · rw [hsame]
      exact .refl w
    · exact hl.orderliness
  retire _ := (letsGo_retire _ _ _).orderliness
  disconnectAll w m := (w.letsGo_disconnectAll m).orderliness
  closeStale w m held := (w.letsGo_closeStale m held).orderliness
  names _ := orderliness_of_same rfl rfl
  failClose _ _ _ := orderliness_of_same rfl rfl

/-- **Every world that is reached with the managers' own handles is orderly.** -/
theorem Reached.orderly (hw : w.Reached Command.UsesOwn) : w.Orderly :=
  respected_orderliness.reached orderly_fresh
    (fun _ _ huses => ⟨huses, fun _ => trivial⟩) hw

/-! ## Sweeps -/

/-- Somebody has a handle of the session: a caller by name, or a call that is in progress. -/
def isHeld (w : World n) (held : List Handle) (h : Handle) : Bool :=
  (held ++ w.names.values).any fun g => g.session == h.session

/-- A session is held through a handle of the same session, in progress or by name. -/
theorem isHeld_iff :
    w.isHeld held h ↔ ∃ g, (g ∈ held ∨ g ∈ w.names.values) ∧ g.session = h.session := by
  simp [isHeld, or_and_right, exists_or]

/-- **A handle that waits is idle when nobody holds its session.** -/
theorem Orderly.isIdle_eq (hw : w.Orderly) (hh : h ∈ (w.manager m).stale) :
    w.isIdle held h = !w.isHeld held h := by
  have hnobody : ((held ++ w.names.values).filter fun g => g.session == h.session).length = 0 ↔
      w.isHeld held h = false := by
    rw [List.length_eq_zero_iff, List.filter_eq_nil_iff, isHeld, List.any_eq_false]
  rw [isIdle, hw.references_stale hh, Bool.eq_iff_iff, beq_iff_eq, Bool.not_eq_true', ← hnobody]
  omega

/-- What a sweep does, with the number that it returns. -/
structure Sweeps (w : World n) (m : Fin n) (held : List Handle) (swept : Nat × World n) :
    Prop where
  /-- It counts the handles that wait and are held by nobody. -/
  count : swept.1 = ((w.manager m).stale.filter fun h => !w.isHeld held h).length
  /-- The others wait on in their order; the current handle stays, and all else. -/
  manager : swept.2.manager m =
    { w.manager m with stale := (w.manager m).stale.filter (w.isHeld held) }
  others : ∀ k, k ≠ m → swept.2.manager k = w.manager k
  names : swept.2.names = w.names
  /-- The sessions of those that it counts are closed, and no others, if sessions can be closed at
  all. -/
  closed : ∀ s, s ∈ swept.2.server.closed ↔ s ∈ w.server.closed ∨
    w.server.closeFailure = none ∧
      ∃ h ∈ (w.manager m).stale, w.isHeld held h = false ∧ h.session = s
  /-- No session is closed of which anybody holds a handle, or a manager keeps one. -/
  spares : ∀ g, (g ∈ held ∨ g ∈ w.names.values ∨ ∃ k, g ∈ (swept.2.manager k).handles) →
    swept.2.isClosed g = w.isClosed g

/-- A sweep gives up the waiting handles that nobody holds. -/
theorem Orderly.filter_isIdle (hw : w.Orderly) :
    (w.manager m).stale.filter (w.isIdle held) =
      (w.manager m).stale.filter fun h => !w.isHeld held h :=
  List.filter_congr fun _ hh => hw.isIdle_eq hh

/-- A sweep leaves those in the queue that somebody holds. -/
theorem Orderly.filter_not_isIdle (hw : w.Orderly) :
    ((w.manager m).stale.filter fun h => !w.isIdle held h) =
      (w.manager m).stale.filter (w.isHeld held) :=
  List.filter_congr fun h hh => by rw [hw.isIdle_eq hh, Bool.not_not]

/-- No manager keeps a handle of a session that a sweep gives up. -/
theorem Orderly.session_ne_of_kept (hw : w.Orderly) (hh : h ∈ (w.manager m).stale)
    (hidle : w.isHeld held h = false) {k : Fin n}
    (hg : g ∈ ((w.closeStale m held).2.manager k).handles) : g.session ≠ h.session := by
  have hl := w.letsGo_closeStale m held
  intro heq
  obtain ⟨rfl, rfl⟩ := hw.apart k m g
    ((hw.managers k).issued_of_mem_handles ((hl.manager k).mem_handles hg)) h
    ((hw.managers m).stale h hh) heq
  rw [hl.self, hw.filter_not_isIdle] at hg
  rcases Manager.mem_handles.1 hg with hcurrent | hstale
  · exact (hw.managers k).apart g hcurrent hh
  · rw [(List.mem_filter.1 hstale).2] at hidle
    cases hidle

/-- **A sweep gives up what nobody holds**, and nothing else. -/
theorem Orderly.sweeps (hw : w.Orderly) (m : Fin n) (held : List Handle) :
    w.Sweeps m held (w.closeStale m held) := by
  have hl := w.letsGo_closeStale m held
  rw [hw.filter_not_isIdle, hw.filter_isIdle] at hl
  obtain ⟨closed, hserver, hclosed⟩ := hl.server
  have hmem (s : SessionId) : s ∈ (w.closeStale m held).2.server.closed ↔ s ∈ w.server.closed ∨
      w.server.closeFailure = none ∧
        ∃ h ∈ (w.manager m).stale, w.isHeld held h = false ∧ h.session = s := by
    rw [hserver, hclosed]
    simp only [List.mem_filter, Bool.not_eq_true', and_assoc]
  refine ⟨?_, hl.self, hl.others, hl.names, hmem, fun g hg => ?_⟩
  · rw [closeStale, List.partition_eq_filter_filter]
    exact congrArg List.length hw.filter_isIdle
  · rw [Bool.eq_iff_iff, isClosed_iff, isClosed_iff, hmem]
    refine or_iff_left ?_
    rintro ⟨-, h, hh, hidle, heq⟩
    rcases hg with hg | hg | ⟨k, hg⟩
    · rw [isHeld_iff.2 ⟨g, .inl hg, heq.symm⟩] at hidle
      cases hidle
    · rw [isHeld_iff.2 ⟨g, .inr hg, heq.symm⟩] at hidle
      cases hidle
    · exact hw.session_ne_of_kept hh hidle hg heq.symm

/-! ## Statements that are retried -/

/-- Retiring a lost handle and sweeping behind it closes the session that was lost, and otherwise
none that anybody holds. -/
theorem Orderly.closed_settled (hw : w.Orderly) (m : Fin n) (lost : Handle) (held : List Handle)
    {s : SessionId} (hs : s ∈ ((w.retire m lost).2.closeStale m held).2.server.closed) :
    s ∈ w.server.closed ∨ s = lost.session ∨
      ∀ g, (g ∈ held ∨ g ∈ w.names.values) → g.session ≠ s := by
  have hretire := w.letsGo_retire m lost
  have hretired : (w.retire m lost).2.Orderly := (hretire.orderliness hw).1
  rcases ((hretired.sweeps m held).closed s).1 hs with hs | ⟨-, h, -, hfree, rfl⟩
  · rcases hretire.closed_or hs with hs | ⟨h, hh, rfl⟩
    · exact .inl hs
    · exact .inr (.inl (congrArg Handle.session (List.mem_singleton.1 hh)))
  · refine .inr (.inr fun g hg heq => ?_)
    rw [← hretire.names] at hg
    rw [isHeld_iff.2 ⟨g, hg, heq⟩] at hfree
    cases hfree

/-- Other tasks leave the handles that callers keep as they are. -/
theorem names_interruptions (w : World n) (l : List (Interruption n)) :
    (l.foldl interrupt w).names = w.names := by
  induction l generalizing w with
  | nil => rfl
  | cons i l ih =>
    refine (ih _).trans ?_
    cases i with
    | connect m config =>
      rcases w.connect_cases m config with ⟨-, halike⟩ | ⟨-, hadmits⟩
      · exact halike.names
      · exact hadmits.names
    | disconnectAll m => exact (w.letsGo_disconnectAll m).names
    | refuse e => rfl

/-- A statement leaves the handles that callers have by name as they are. -/
theorem names_send (w : World n) (session : SessionId) (verb : Verb) (sql : String) :
    (w.send session verb sql).2.names = w.names :=
  names_interruptions _ _

/-- A session that is opened again leaves the handles that callers have by name as they are. -/
theorem names_reconnect (w : World n) (m : Fin n) (lost : Handle) :
    (w.reconnect m lost).2.names = w.names := by
  rcases w.reconnect_cases m lost with ⟨-, halike⟩ | ⟨-, hadmits⟩
  · exact halike.names
  · exact hadmits.names

end World

namespace Executor

variable {n : Nat} {x : Executor n} {w arrival : World n} {h fresh : Handle} {st : Statement}
  {internal : Bool}

/-- A statement got its answer at a second attempt, on a fresh handle, in the given world, and
nothing was left to do but to clear up. -/
structure Retried (x : Executor n) (w : World n) (h : Handle) (st : Statement) (internal : Bool)
    (fresh : Handle) (arrival : World n) : Prop where
  arrives : ∃ e,
    let lost := (x.attempt w h st internal).2.note (.lostConnection e st.sql)
    (lost.reconnect x.manager h).1 = .ok fresh ∧
      arrival = (x.attempt (lost.reconnect x.manager h).2 fresh st internal).2
  settles : (x.runWithRetry w h st internal).2 = x.settle arrival h fresh

/-- A statement with the result of a retry got its answer at a second attempt. -/
theorem exists_retried {t : Table}
    (hresult : (x.runWithRetry w h st internal).1 = .ok (.retriedSuccess t)) :
    ∃ fresh arrival, x.Retried w h st internal fresh arrival := by
  have ht : plainResult (x.runWithRetry w h st internal).1 = .ok t := by
    rw [hresult]
    rfl
  rcases runWithRetry_table ht with ⟨-, hsuccess⟩ | ⟨e, hretry⟩
  · rw [hsuccess] at hresult
    cases hresult
  · rw [hretry] at ht
    obtain ⟨fresh, w₂, arrival, hreconnect, hsecond, hsettled⟩ := retry_table ht
    refine ⟨fresh, arrival, ⟨e, ?_⟩, ?_⟩
    · simp only [hreconnect, hsecond, and_self]
    · rw [hretry, hsettled]

namespace Retried

/-- When the second answer arrives, callers have the handles by name that they had. -/
theorem names (hr : x.Retried w h st internal fresh arrival) : arrival.names = w.names := by
  obtain ⟨e, -, rfl⟩ := hr.arrives
  have hfirst := (x.attempt_spec w h st internal).2.arrival.names
  refine ((x.attempt_spec _ fresh st internal).2.arrival.names).trans ?_
  exact (World.names_send _ _ _ _).trans ((World.names_reconnect _ _ _).trans
    (hfirst.trans (World.names_send _ _ _ _)))

/-- The world in which the second answer arrives is orderly, if the one in which the statement was
run is. -/
theorem orderly (hr : x.Retried w h st internal fresh arrival) (hw : w.Orderly)
    (hh : h ∈ (w.manager x.manager).issued) : arrival.Orderly := by
  obtain ⟨e, -, rfl⟩ := hr.arrives
  have hI : (World.orderliness : World.Invariant n).Respected := World.respected_orderliness
  have hlost := (hI.drifts (x.drifts_attempt w h st internal)).trans
    (hI.drifts (World.drifts_note _ (.lostConnection e st.sql)))
  have hreconnect := (hI.reconnect ((hlost hw).2 _ h hh)).1
  exact ((hlost.trans hreconnect).trans (hI.drifts (x.drifts_attempt _ fresh st internal)) hw).1

/-- When no other task acts until the answers arrive, no session is closed before. -/
theorem closed (hr : x.Retried w h st internal fresh arrival)
    (hquiet : ∀ r ∈ w.server.replies.take 2, r.meanwhile = []) :
    arrival.server.closed = w.server.closed := by
  obtain ⟨e, -, rfl⟩ := hr.arrives
  have hquietly (i : Nat) (hi : i < 2) : ∀ r ∈ w.server.replies[i]?, r.meanwhile = [] := by
    refine fun r hr => hquiet r (List.mem_of_getElem? (i := i) ?_)
    rwa [List.getElem?_take_of_lt hi]
  obtain ⟨-, hfirst⟩ := x.attempt_spec w h st internal
  have halike := (hfirst.alike (hquietly 0 (by decide))).trans
    ((x.attempt w h st internal).2.alike_note (.lostConnection e st.sql))
  obtain ⟨-, hsecond⟩ := x.attempt_spec
    (((x.attempt w h st internal).2.note (.lostConnection e st.sql)).reconnect x.manager h).2
    fresh st internal
  refine (hsecond.alike ?_).closed.trans (.trans ?_ halike.closed)
  · rw [(received_reconnect _ _ _).2, World.server_note, hfirst.replies, List.getElem?_tail]
    exact hquietly 1 (by decide)
  · rcases World.reconnect_cases
      ((x.attempt w h st internal).2.note (.lostConnection e st.sql)) x.manager h with
      ⟨-, halike⟩ | ⟨-, hadmits⟩
    · exact halike.closed
    · exact hadmits.closed

end Retried

end Executor

namespace World

variable {n : Nat} {w : World n}

/-- **What a sweep closes, and what a retried statement does.** In every world that is reached,
whatever handles calls in progress hold besides those that callers keep, a sweep takes exactly the
handles whose sessions nobody holds out of the queue. It returns their number, and it closes their
sessions, unless the server fails to. The others wait on in their order, the current handle stays,
and no session that anybody holds is closed.

So it is with a lost handle that is retired before the sweep: at most its session is closed though
somebody holds it. That is what a statement does whose second attempt is answered, once the answer
has arrived, and before that it closes nothing. -/
theorem sweep_spares_held (hw : w.Reached Command.UsesOwn) :
    (∀ m held, w.Sweeps m held (w.closeStale m held)) ∧
    (∀ m lost held, ∀ s ∈ ((w.retire m lost).2.closeStale m held).2.server.closed,
      s ∈ w.server.closed ∨ s = lost.session ∨
        ∀ g, (g ∈ held ∨ g ∈ w.names.values) → g.session ≠ s) ∧
    ∀ (x : Executor n) (h : Handle) (st : Statement) (internal : Bool) (t : Table),
      h ∈ (w.manager x.manager).issued →
      (x.runWithRetry w h st internal).1 = .ok (.retriedSuccess t) →
      ∃ fresh arrival, x.Retried w h st internal fresh arrival ∧
        ((∀ r ∈ w.server.replies.take 2, r.meanwhile = []) →
          arrival.server.closed = w.server.closed) ∧
        ∀ s ∈ (x.runWithRetry w h st internal).2.server.closed,
          s ∈ arrival.server.closed ∨ s = h.session ∨ ∀ g ∈ w.names.values, g.session ≠ s := by
  refine ⟨fun m held => hw.orderly.sweeps m held,
    fun m lost held s => hw.orderly.closed_settled m lost held,
    fun x h st internal t hh hresult => ?_⟩
  obtain ⟨fresh, arrival, hr⟩ := Executor.exists_retried hresult
  refine ⟨fresh, arrival, hr, hr.closed, fun s hs => ?_⟩
  rw [hr.settles] at hs
  refine ((hr.orderly hw.orderly hh).closed_settled x.manager h [h, fresh] hs).imp_right ?_
  refine Or.imp_right fun hfree g hg => hfree g (.inr ?_)
  rwa [hr.names]

/-- A world with three sessions that wait, of which callers hold the first, and whose current one is
lost at the next statement. -/
def waiting : World 1 :=
  Command.runAll false
    [⟨solo, .connect someConfig (some "a")⟩, ⟨solo, .connect someConfig none⟩,
      ⟨solo, .connect someConfig none⟩, ⟨solo, .connect someConfig none⟩,
      ⟨solo, .push [⟨.fail (.transientBackend (some 2006) "gone away"), []⟩,
        ⟨.done ⟨.ofNat 3, none⟩, []⟩]⟩]
    (World.fresh [])

/-- A sweep closes the third session alone: the first one is held by name, and the second one by a
call. The sweep behind a retry leaves the first one open as well. -/
theorem sweep_spares_held_waiting :
    (waiting.closeStale solo [⟨2, 2⟩]).1 = 1 ∧
      ((waiting.closeStale solo [⟨2, 2⟩]).2.manager solo).stale = [⟨1, 1⟩, ⟨2, 2⟩] ∧
      3 ∈ (waiting.closeStale solo [⟨2, 2⟩]).2.server.closed ∧
      1 ∉ (Executor.runWithRetry ⟨solo, false⟩ waiting ⟨4, 4⟩ ⟨.update, "UPDATE t"⟩
        false).2.server.closed := by
  have hreached : waiting.Reached Command.UsesOwn := by
    refine .step false (.step false (.step false (.step false (.step false
      (.fresh []) ?_) ?_) ?_) ?_) ?_
    all_goals decide +kernel
  obtain ⟨hsweeps, -, hretried⟩ := sweep_spares_held hreached
  have hsweep := hsweeps solo [⟨2, 2⟩]
  refine ⟨?_, ?_, ?_, fun hclosed => ?_⟩
  · rw [hsweep.count]
    decide +kernel
  · rw [hsweep.manager]
    decide +kernel
  · refine (hsweep.closed 3).2 (.inr ⟨?_, ⟨3, 3⟩, ?_, ?_, rfl⟩)
    all_goals decide +kernel
  · have hissued : (⟨4, 4⟩ : Handle) ∈ (waiting.manager solo).issued := by decide +kernel
    obtain ⟨fresh, arrival, -, hbefore, hafter⟩ := hretried ⟨solo, false⟩ ⟨4, 4⟩
      ⟨.update, "UPDATE t"⟩ false (Table.status (.ofNat 3)) hissued rfl
    have hquiet : arrival.server.closed = waiting.server.closed := by
      refine hbefore fun r hr => ?_
      have hreplies : waiting.server.replies.take 2 =
          [⟨.fail (.transientBackend (some 2006) "gone away"), []⟩,
            ⟨.done ⟨.ofNat 3, none⟩, []⟩] := rfl
      rw [hreplies] at hr
      simp only [List.mem_cons, List.not_mem_nil, or_false] at hr
      rcases hr with rfl | rfl <;> rfl
    rcases hafter 1 hclosed with hclosed | hlost | hfree
    · rw [hquiet] at hclosed
      exact absurd hclosed (by decide +kernel)
    · exact absurd hlost (by decide)
    · exact hfree ⟨1, 1⟩ (by decide +kernel) rfl

/-- A world with a session that waits and that nobody holds, while sessions cannot be closed. -/
def stuck : World 1 :=
  Command.runAll false
    [⟨solo, .connect someConfig none⟩, ⟨solo, .connect someConfig none⟩,
      ⟨solo, .failClose (some (.connection "busy"))⟩]
    (World.fresh [])

/-- A sweep counts and forgets a session that the server fails to close. -/
theorem sweep_stuck :
    ¬∀ w : World 1, w.Reached Command.UsesOwn → ∀ held, ∀ h ∈ (w.manager solo).stale,
      w.isHeld held h = false → (w.closeStale solo held).2.isClosed h = true := by
  intro hall
  have hreached : stuck.Reached Command.UsesOwn := by
    refine .step false (.step false (.step false (.fresh []) ?_) ?_) ?_
    all_goals decide +kernel
  have hclosed := hall stuck hreached [] ⟨1, 1⟩ (by decide +kernel) (by decide +kernel)
  revert hclosed
  decide +kernel

end World

end SqlBridge
