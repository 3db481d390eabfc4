import SqlBridge.Proofs.Session.Identity

/-!
# The active connection is open

A manager that is called with its own handles hands out an open session as its active connection,
unless it was told to retire the handle that is the current one (`World.active_isOpen`). Whatever
else closes a session lets go of the current handle first, or closes only what waits, and a handle
that an executor retires was replaced before: a handle that is not the current one does not become
it (`World.activity`). Retiring takes a handle out of the queue alone, so the current handle stays
the current one when its session is closed (`World.active_of_retired`).
-/

namespace SqlBridge

variable {n : Nat}

/-- The kept handle that an action retires. -/
def Action.retired? : Action n → Option String
  | .retire name => some name
  | _ => none

/-- The command retires the current handle of its manager. -/
def Command.RetiresCurrent (w : World n) (c : Command n) : Prop :=
  ∃ h ∈ c.action.retired?.bind w.handle?, (w.manager c.manager).current = some h

instance (w : World n) (c : Command n) : Decidable (c.RetiresCurrent w) :=
  inferInstanceAs (Decidable (∃ _, _))

namespace World

variable {w w' : World n} {m : Fin n} {h g : Handle} {l : List Handle}

/-! ## The invariant -/

/-- The current handle of a manager does not wait, and its session is open. -/
structure CurrentOpen (w : World n) : Prop where
  closed : ∀ s ∈ w.server.closed, s ≤ w.server.opened
  apart : ∀ m h, (w.manager m).current = some h → h ∉ (w.manager m).stale
  isOpen : ∀ m h, (w.manager m).current = some h → w.isClosed h = false

/-- That current handles are open, as a property that managers keep when they retire only handles
that they gave out and that are not the current ones. -/
def activity : Invariant n where
  holds w := (w.Distinct ∧ w.Owned) ∧ w.CurrentOpen
  usable w m h := h ∈ (w.manager m).issued ∧ (w.manager m).current ≠ some h
  mayFailClosing := True

/-- In a fresh world no handle is current, and so each current handle is open. -/
theorem activity_fresh (replies : List (Reply n)) : activity.holds (World.fresh replies) := by
  refine ⟨⟨distinct_fresh replies, owned_fresh replies⟩, ?_, ?_, ?_⟩
  · simp [World.fresh, Server.fresh]
  all_goals simp [Manager.fresh]

/-- A step that keeps numbers and sessions apart keeps the property when it leaves current handles
open and makes no other handle a current one that was given out before. -/
theorem keeps_activity (hidentity : (identity True).Keeps w w')
    (hstep : activity.holds w → w'.CurrentOpen ∧
      ∀ m, ∀ h ∈ (w.manager m).issued, (w'.manager m).current = some h →
        (w.manager m).current = some h) : activity.Keeps w w' := by
  intro hw
  obtain ⟨⟨hdistinct, howned⟩, hissued⟩ := hidentity ⟨hw.1.1, fun _ => hw.1.2⟩
  obtain ⟨hopen, hcurrent⟩ := hstep hw
  refine ⟨⟨⟨hdistinct, howned trivial⟩, hopen⟩, fun m h ⟨hh, hne⟩ => ?_⟩
  exact ⟨hissued m h (fun _ => hh) trivial, fun heq => hne (hcurrent m h hh heq)⟩

/-! ## Steps -/

/-- Nothing happened to sessions and to what managers remember. -/
theorem activity_of_same (hmanagers : w'.managers = w.managers)
    (hopened : w'.server.opened = w.server.opened) (hclosed : w'.server.closed = w.server.closed) :
    activity.Keeps w w' := by
  have hmanager (m : Fin n) : w'.manager m = w.manager m := by
    rw [World.manager, World.manager, hmanagers]
  refine keeps_activity (Stays.of_managers hmanagers hopened).keeps fun hw => ⟨⟨?_, ?_, ?_⟩, ?_⟩
  · simpa only [hclosed, hopened] using hw.2.closed
  · simpa only [hmanager] using hw.2.apart
  · simpa only [hmanager, isClosed, Server.isClosed, hclosed] using hw.2.isOpen
  · simp only [hmanager, imp_self, implies_true]

/-- A manager takes a new handle in and makes it the current one. -/
theorem Admits.keeps_activity {k : Manager} (ha : w.Admits m k w')
    (hidentity : (identity True).Keeps w w') (hcurrent : k.current = some (w.nextHandle m))
    (hstale : ∀ h ∈ k.stale, h ∈ (w.manager m).issued) : activity.Keeps w w' := by
  refine World.keeps_activity hidentity fun hw => ?_
  have hnew : w.nextHandle m ∉ (w.manager m).issued := fun hmem =>
    Nat.lt_irrefl _ (hw.1.1.bound m _ hmem)
  refine ⟨⟨fun s hs => ?_, fun j h hh => ?_, fun j h hh => ?_⟩, fun j h hissued hh => ?_⟩
  · rw [ha.closed] at hs
    rw [ha.opened]
    exact Nat.le_succ_of_le (hw.2.closed s hs)
  · by_cases hj : j = m
    · subst hj
      rw [ha.self, hcurrent, Option.some.injEq] at hh
      rw [ha.self, ← hh]
      exact fun hmem => hnew (hstale _ hmem)
    · rw [ha.others j hj] at hh ⊢
      exact hw.2.apart j h hh
  · rw [isClosed, Server.isClosed, ha.closed, ← Server.isClosed, ← isClosed]
    by_cases hj : j = m
    · subst hj
      rw [ha.self, hcurrent, Option.some.injEq] at hh
      rw [← Bool.not_eq_true, isClosed_iff, ← hh]
      exact fun hmem => Nat.not_succ_le_self _ (hw.2.closed _ hmem)
    · rw [ha.others j hj] at hh
      exact hw.2.isOpen j h hh
  · by_cases hj : j = m
    · subst hj
      rw [ha.self, hcurrent, Option.some.injEq] at hh
      exact absurd (hh ▸ hissued) hnew
    · rw [ha.others j hj] at hh
      exact hh

/-- A manager lets handles go, none of the sessions to close being that of its current one. -/
theorem LetsGo.keeps_activity {k : Manager} (hl : w.LetsGo m k l w')
    (hclosing : activity.holds w → ∀ h ∈ l, h ∈ (w.manager m).issued ∧ k.current ≠ some h) :
    activity.Keeps w w' := by
  refine World.keeps_activity hl.stays.keeps fun hw => ⟨⟨fun s hs => ?_, fun j h hh hmem => ?_,
    fun j h hh => ?_⟩, fun j h _ => (hl.manager j).current h⟩
  · rw [hl.opened]
    rcases hl.closed_or hs with hs | ⟨h, hh, rfl⟩
    · exact hw.2.closed s hs
    · exact hw.1.1.opened m h (hclosing hw h hh).1
  · have hkept := hl.manager j
    exact hw.2.apart j h (hkept.current h hh) (hkept.stale.subset hmem)
  · have hcurrent := (hl.manager j).current h hh
    rw [← Bool.not_eq_true, isClosed_iff]
    intro hmem
    rcases hl.closed_or hmem with hmem | ⟨g, hg, hsession⟩
    · have hopen := hw.2.isOpen j h hcurrent
      exact absurd (isClosed_iff.2 hmem) (by simp [hopen])
    · -- a session that is closed belongs to the manager, which has no such current handle
      obtain ⟨hissued, hnot⟩ := hclosing hw g hg
      have hown := hw.1.2 j h (Manager.mem_handles.2 (.inl hcurrent))
      obtain ⟨rfl, rfl⟩ := hw.1.1.apart m j g hissued h hown hsession
      exact hnot (hl.self ▸ hh)

/-! ## Operations -/

/-- Retiring a handle that is not the current one closes no current session. -/
theorem activity_retire (hh : activity.usable w m h) : activity.Keeps w (w.retire m h).2 := by
  refine (w.letsGo_retire m h).keeps_activity fun _ g hg => ?_
  rw [List.mem_singleton.1 hg]
  exact hh

/-- Disconnecting lets go of the current handle if its session is the one to close. -/
theorem activity_disconnect (hh : h ∈ (w.manager m).issued) :
    activity.Keeps w (w.disconnect m h).2 := by
  rcases w.disconnect_cases m h with hsame | hl
  · rw [hsame]
    exact .refl w
  · refine hl.keeps_activity fun _ g hg => ?_
    rw [List.mem_singleton.1 hg, Manager.release_eq]
    refine ⟨hh, fun hc => ?_⟩
    simpa [Handle.same] using (Option.filter_eq_some_iff.1 hc).2

/-- Disconnecting everything leaves no current handle. -/
theorem activity_disconnectAll (w : World n) (m : Fin n) :
    activity.Keeps w (w.disconnectAll m).2 := by
  refine (w.letsGo_disconnectAll m).keeps_activity fun hw g hg =>
    ⟨hw.1.2 m g (Manager.mem_handles.2 ?_), fun hc => nomatch hc⟩
  exact (List.mem_append.1 hg).symm.imp_left Option.mem_toList.1

/-- A sweep closes only what waits. -/
theorem activity_closeStale (w : World n) (m : Fin n) (held : List Handle) :
    activity.Keeps w (w.closeStale m held).2 := by
  refine (w.letsGo_closeStale m held).keeps_activity fun hw g hg => ?_
  have hstale := (List.mem_filter.1 hg).1
  exact ⟨hw.1.2 m g (Manager.mem_handles.2 (.inr hstale)), fun hc => hw.2.apart m g hc hstale⟩

/-- A connection keeps current handles open, since its session is a new one. -/
theorem activity_connect (w : World n) (m : Fin n) (config : ConnectionConfig) :
    activity.Keeps w (w.connect m config).2 := by
  intro hw
  rcases w.connect_cases m config with ⟨-, ha⟩ | ⟨-, hadmits⟩
  · exact activity_of_same ha.managers ha.opened ha.closed hw
  · refine hadmits.keeps_activity (identity_connect w m config).1 ?_ (fun g hg => ?_) hw
    · rw [Manager.install_eq]
    · rw [Manager.install_eq] at hg
      refine hw.1.2 m g (Manager.mem_handles.2 ?_)
      exact (List.mem_append.1 hg).symm.imp_left Option.mem_toList.1

/-- A handle that was lost can be retired once another one has taken its place. -/
theorem activity_reconnect (hh : h ∈ (w.manager m).issued) :
    activity.Keeps w (w.reconnect m h).2 ∧ ∀ fresh, (w.reconnect m h).1 = .ok fresh →
      activity.holds w → activity.usable (w.reconnect m h).2 m h := by
  have hidentity : (identity True).Keeps w (w.reconnect m h).2 :=
    (identity_reconnect fun _ => hh).1
  rcases w.reconnect_cases m h with ⟨⟨e, hresult⟩, ha⟩ | ⟨hresult, hadmits⟩
  · exact ⟨activity_of_same ha.managers ha.opened ha.closed, by simp [hresult]⟩
  · refine ⟨fun hw =>
        hadmits.keeps_activity hidentity (Manager.current_adopt ..) (fun g hg => ?_) hw,
      fun _ _ hw => ⟨?_, fun hc => ?_⟩⟩
    · exact (Manager.mem_stale_of_adopt hg).elim (hw.1.2 m g) fun heq => heq ▸ hh
    · rw [hadmits.self, Manager.issued_adopt]
      exact List.mem_append_left _ hh
    · rw [hadmits.self, Manager.current_adopt, Option.some.injEq] at hc
      exact Nat.lt_irrefl _ (hw.1.1.bound m _ (hc ▸ hh))

/-- An operation that needs no handle leaves current handles open. -/
theorem activity_free (w : World n) (o : Operation n) (ho : o.isFree) :
    activity.Keeps w (o.run w) := by
  cases o with
  | connect m config => exact activity_connect w m config
  | disconnectAll m => exact activity_disconnectAll w m
  | closeStale m held => exact activity_closeStale w m held
  | keep m name =>
    rw [Operation.run]
    cases (w.manager m).current <;> exact activity_of_same rfl rfl rfl
  | receive statement =>
    have ha := w.alike_receive statement
    exact activity_of_same ha.managers ha.opened ha.closed
  | forget | note | push | refuse => exact activity_of_same rfl rfl rfl
  | reconnect | disconnect | retire | failClose => cases ho

/-- Whatever other tasks do in the meantime, current handles stay open. -/
theorem Drifts.keeps_activity (hd : w.Drifts w') : activity.Keeps w w' :=
  hd.lift Invariant.Keeps.refl Invariant.Keeps.trans activity_free

/-- A handle that was given out stays so, whatever other tasks do in the meantime. -/
theorem Drifts.issued (hd : w.Drifts w') (hw : activity.holds w)
    (hh : h ∈ (w.manager m).issued) : h ∈ (w'.manager m).issued :=
  ((respected_identity True).drifts hd ⟨hw.1.1, fun _ => hw.1.2⟩).2 m h (fun _ => hh) trivial

/-- A statement on a handle of the manager leaves current handles open: a session that the executor
retires was replaced before. -/
theorem activity_runWithRetry {x : Executor n} (hh : h ∈ (w.manager x.manager).issued)
    (st : Statement) (internal : Bool) :
    activity.Keeps w (x.runWithRetry w h st internal).2 := by
  intro hw
  rcases x.runWithRetry_course w h st internal with hdrift | ⟨w₁, hfirst, hrest⟩
  · exact hdrift.keeps_activity hw
  obtain ⟨hreconnect, hreplaced⟩ := activity_reconnect (hfirst.issued hw hh)
  have hreconnected := hfirst.keeps_activity.trans hreconnect
  rcases hrest with hsecond | ⟨fresh, w₂, hfresh, hsecond, hsettled⟩
  · exact (hreconnected.trans hsecond.keeps_activity) hw
  · have hlost := hreplaced fresh hfresh (hfirst.keeps_activity hw).1
    have hanswered := hsecond.keeps_activity (hreconnected hw).1
    have hretired := activity_retire (hanswered.2 _ _ hlost)
    rw [hsettled]
    exact ((hreconnected.trans hsecond.keeps_activity).trans
      (hretired.trans (activity_closeStale _ _ _))) hw

/-- A command leaves current handles open, unless it retires one. -/
theorem activity_run {c : Command n} (hown : c.UsesOwn w) (hretires : ¬c.RetiresCurrent w)
    (logQueries : Bool) : activity.Keeps w (c.run logQueries w).2 := by
  intro hw
  have hused {name : String} {h : Handle} (hname : name ∈ c.action.names)
      (hh : w.handle? name = some h) : h ∈ (w.manager c.manager).issued := hown name hname h hh
  generalize hcourse : (c.run logQueries w).2 = after
  cases hcourse ▸ c.course logQueries w with
  | drift hdrift => exact hdrift.keeps_activity hw
  | failClose haction => exact activity_of_same rfl rfl rfl hw
  | reconnect haction hname hrest =>
    have hlost := hused (by simp [haction, Action.names]) hname
    exact ((activity_reconnect hlost).1.trans hrest.keeps_activity) hw
  | disconnect haction hname =>
    exact activity_disconnect (hused (by simp [haction, Action.names]) hname) hw
  | @retire name h haction hname =>
    have hissued := hused (by simp [haction, Action.names]) hname
    refine activity_retire ⟨hissued, fun hcurrent => hretires ⟨h, ?_, hcurrent⟩⟩ hw
    simpa [haction, Action.retired?] using hname
  | run st internal hcurrent =>
    exact activity_runWithRetry (hw.1.2 _ _ (Manager.mem_handles.2 (.inl hcurrent))) st internal hw
  | runOn haction hname =>
    exact activity_runWithRetry (hused (by simp [haction, Action.names]) hname) _ _ hw

/-! ## The active connection -/

/-- The current handle is returned, and no other. -/
theorem active_eq_ok : w.active m = .ok h ↔ (w.manager m).current = some h := by
  rw [active]
  cases (w.manager m).current <;> simp

/-- **The active connection is open** as long as managers are called with their own handles and no
current handle is retired, whatever else is done and whether or not sessions can be closed. A
current handle that is retired stays the active one, and its session is closed. -/
theorem active_isOpen (w : World n) (m : Fin n) (h : Handle) (hactive : w.active m = .ok h) :
    ((w.Reached fun w c => c.UsesOwn w ∧ ¬c.RetiresCurrent w) → w.isClosed h = false) ∧
      (w.server.closeFailure = none →
        (w.retire m h).2.active m = .ok h ∧ (w.retire m h).2.isClosed h = true) := by
  rw [active_eq_ok] at hactive
  refine ⟨fun hw => ?_, fun hcloses => ⟨?_, ?_⟩⟩
  · have hholds : activity.holds w := by
      clear hactive
      induction hw with
      | fresh replies => exact activity_fresh replies
      | step logQueries _ hc ih => exact (activity_run hc.1 hc.2 logQueries ih).1
    exact hholds.2.isOpen m h hactive
  · rw [active_eq_ok, manager_retire]
    exact hactive
  · obtain ⟨closed, heq, hclosed⟩ := (w.update m fun k => k.unqueue h).close_eq h
    rw [isClosed_iff, retire, heq]
    exact (hclosed _).2 (.inr ⟨hcloses, rfl⟩)

/-- A world whose manager has replaced a lost session by a second attempt, and another one by a new
connection. -/
def replaced : World 1 :=
  Command.runAll false
    [⟨solo, .connect someConfig (some "x")⟩,
      ⟨solo, .push [⟨.fail (.transientBackend (some 2006) "gone away"), []⟩]⟩,
      ⟨solo, .run ⟨.select, "SELECT 1"⟩ false⟩, ⟨solo, .active (some "y")⟩,
      ⟨solo, .connect someConfig none⟩, ⟨solo, .retire "y"⟩]
    (World.fresh [])

/-- The current handle is open behind both; once it is retired it is returned no less, and
closed. -/
theorem active_isOpen_replaced :
    replaced.server.closed = [1, 2] ∧ replaced.active solo = .ok ⟨3, 3⟩ ∧
      replaced.isClosed ⟨3, 3⟩ = false ∧
        (replaced.retire solo ⟨3, 3⟩).2.isClosed ⟨3, 3⟩ = true := by
  have hactive : replaced.active solo = .ok ⟨3, 3⟩ := active_eq_ok.2 (by decide +kernel)
  have hreached : replaced.Reached fun w c => c.UsesOwn w ∧ ¬c.RetiresCurrent w := by
    refine .step false (.step false (.step false (.step false (.step false (.step false
      (.fresh []) ?_) ?_) ?_) ?_) ?_) ?_
    all_goals decide +kernel
  obtain ⟨hopen, hretired⟩ := active_isOpen replaced solo ⟨3, 3⟩ hactive
  exact ⟨by decide +kernel, hactive, hopen hreached, (hretired (by decide +kernel)).2⟩

/-- A world whose manager has retired its current handle. -/
def retired : World 1 :=
  Command.runAll false [⟨solo, .connect someConfig (some "x")⟩, ⟨solo, .retire "x"⟩]
    (World.fresh [])

/-- A manager that was called with its own handles hands out a closed session as the active one. -/
theorem active_of_retired :
    retired.Reached Command.UsesOwn ∧ retired.active solo = .ok ⟨1, 1⟩ ∧
      retired.isClosed ⟨1, 1⟩ = true := by
  refine ⟨.step false (.step false (.fresh []) ?_) ?_, active_eq_ok.2 ?_, ?_⟩
  all_goals decide +kernel

end World

end SqlBridge
