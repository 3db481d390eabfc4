import SqlBridge.Proofs.Session.Retry
import SqlBridge.Proofs.Session.Turn

/-!
# Recoveries of calls side by side

A call that has lost its session closes it once its second attempt has succeeded, and sweeps the
queue. Another call that runs at the same time may have taken the lost handle before, and still send
its first attempt on it. This is the only way in which a first attempt comes to a session that a
recovery has closed (`Traffic.holding_closed`): a sweep closes no session that a call will send on,
and a handle is not given out any more once another session was installed in its place.

The proof rests on two facts about every schedule. Sessions that only one call knows, a new one
before it is installed and those that it sweeps, are apart from all others (`Traffic.Apart`). And a
session that is not the current one, was opened and waits nowhere to be installed is gone: no call
comes by it any more (`Traffic.Gone`).
-/

namespace SqlBridge

variable {n k : Nat}

/-! ## Sessions that are apart, and sessions that are gone -/

namespace Traffic

variable {x : Executor n} {calls : Fin k → Statement × Bool} {t : Traffic n k} {i j : Fin k}

/-- The sessions of the manager and of the calls have been opened, and those that only one call
knows are apart from all others. -/
structure Apart (x : Executor n) (t : Traffic n k) : Prop where
  kept : ∀ h ∈ (t.world.manager x.manager).handles, h.session ≤ t.world.server.opened
  held : ∀ i, ∀ h ∈ (t.phase i).held, h.session ≤ t.world.server.opened
  current : ∀ i, ∀ f ∈ (t.phase i).own, ∀ c, (t.world.manager x.manager).current = some c →
    c.session ≠ f.session
  own : ∀ i j, j ≠ i → ∀ f ∈ (t.phase i).own, ∀ h ∈ (t.phase j).held, h.session ≠ f.session
  fresh : ∀ i h f, t.phase i = .opened h f → h.session ≠ f.session

/-- No call comes by the session any more: it is not the current one, it was opened, and nobody is
about to install it. -/
structure Gone (x : Executor n) (t : Traffic n k) (s : SessionId) : Prop where
  opened : s ≤ t.world.server.opened
  current : ∀ c, (t.world.manager x.manager).current = some c → c.session ≠ s
  fresh : ∀ i h f, t.phase i = .opened h f → f.session ≠ s

/-- What only one call knows, that call holds. -/
theorem own_held {p : Phase} {f : Handle} (hf : f ∈ p.own) : f ∈ p.held := by
  cases p <;> simp_all [Phase.own, Phase.held]

/-- In the beginning no call holds a handle, so that only the sessions of the manager have to have
been opened. -/
theorem apart_start {w : World n}
    (hkept : ∀ h ∈ (w.manager x.manager).handles, h.session ≤ w.server.opened) :
    Apart x (start w : Traffic n k) :=
  ⟨hkept, nofun, nofun, nofun, nofun⟩

namespace Apart

/-- What is to be shown when one call goes on to another place and the world with it. -/
theorem put {w : World n} {p : Phase} (ha : Apart x t)
    (hopened : t.world.server.opened ≤ w.server.opened)
    (hkept : ∀ h ∈ (w.manager x.manager).handles, h.session ≤ w.server.opened)
    (hheld : ∀ h ∈ p.held, h.session ≤ w.server.opened)
    (hfresh : ∀ h f, p = .opened h f → h.session ≠ f.session)
    (hcurrent : ∀ c, (w.manager x.manager).current = some c →
      (∀ f ∈ p.own, c.session ≠ f.session) ∧
        ∀ j, j ≠ i → ∀ f ∈ (t.phase j).own, c.session ≠ f.session)
    (hothers : ∀ j, j ≠ i → (∀ h ∈ p.held, ∀ f ∈ (t.phase j).own, h.session ≠ f.session) ∧
      ∀ f ∈ p.own, ∀ h ∈ (t.phase j).held, h.session ≠ f.session) :
    Apart x (t.put i w p) := by
  have hself : (t.put i w p).phase i = p := phase_put_self w p
  have hother : ∀ j, j ≠ i → (t.put i w p).phase j = t.phase j :=
    fun j hj => phase_put_of_ne w p hj
  refine ⟨hkept, fun j h hh => ?_, fun j f hf c hc => ?_, fun j l hjl f hf h hh => ?_,
    fun j h f hj => ?_⟩
  · by_cases hj : j = i
    · subst hj
      rw [hself] at hh
      exact hheld h hh
    · rw [hother j hj] at hh
      exact Nat.le_trans (ha.held j h hh) hopened
  · by_cases hj : j = i
    · subst hj
      rw [hself] at hf
      exact (hcurrent c hc).1 f hf
    · rw [hother j hj] at hf
      exact (hcurrent c hc).2 j hj f hf
  · by_cases hj : j = i
    · subst hj
      rw [hself] at hf
      rw [hother l hjl] at hh
      exact (hothers l hjl).2 f hf h hh
    · rw [hother j hj] at hf
      by_cases hl : l = i
      · subst hl
        rw [hself] at hh
        exact (hothers j hj).1 h hh f hf
      · rw [hother l hl] at hh
        exact ha.own j l hjl f hf h hh
  · by_cases hi : j = i
    · subst hi
      exact hfresh h f (hself.symm.trans hj)
    · exact ha.fresh j h f ((hother j hi).symm.trans hj)

/-- A session that only one call knows was opened. -/
theorem own_le (ha : Apart x t) {j : Fin k} {f : Handle} (hf : f ∈ (t.phase j).own) :
    f.session ≤ t.world.server.opened := ha.held j f (own_held hf)

/-- The current handle is known to its manager. -/
theorem take (ha : Apart x t) {h : Handle}
    (hcurrent : (t.world.manager x.manager).current = some h) :
    Apart x (t.put i t.world (.holding h)) := by
  have hkept := ha.kept h (Manager.mem_handles.2 (.inl hcurrent))
  refine ha.put (Nat.le_refl _) ha.kept (by simpa [Phase.held] using hkept) nofun
    (fun c hc => ⟨nofun, fun j _ f hf => ha.current j f hf c hc⟩) fun j hj => ⟨?_, nofun⟩
  intro g hg f hf
  rw [List.mem_singleton.1 hg]
  exact ha.current j f hf h hcurrent

/-- A session that is opened is a new one. -/
theorem opens (ha : Apart x t) {h fresh : Handle} {config : ConnectionConfig} {w : World n}
    (hphase : t.phase i = .opening h config)
    (hfresh : fresh.session = t.world.server.opened + 1)
    (hopened : w.server.opened = t.world.server.opened + 1)
    (hcurrent : (w.manager x.manager).current = (t.world.manager x.manager).current)
    (hhandles : (w.manager x.manager).handles = (t.world.manager x.manager).handles) :
    Apart x (t.put i w (.opened h fresh)) := by
  have hlost : h ∈ (t.phase i).held := by simp [hphase, Phase.held]
  have hnew : ∀ s, s ≤ t.world.server.opened → s ≠ fresh.session := fun s hs => by
    rw [hfresh]
    exact Nat.ne_of_lt (Nat.lt_succ_of_le hs)
  have hle : t.world.server.opened ≤ w.server.opened := hopened ▸ Nat.le_succ _
  have hheld : ∀ g ∈ (Phase.opened h fresh).held, g = h ∨ g = fresh := by simp [Phase.held]
  refine ha.put hle ?_ ?_ ?_ ?_ fun j hj => ⟨?_, ?_⟩
  · intro g hg
    rw [hhandles] at hg
    exact Nat.le_trans (ha.kept g hg) hle
  · intro g hg
    rcases hheld g hg with rfl | rfl
    · exact Nat.le_trans (ha.held i g hlost) hle
    · exact Nat.le_of_eq (hfresh.trans hopened.symm)
  · rintro _ _ ⟨⟩
    exact hnew _ (ha.held i h hlost)
  · intro c hc
    rw [hcurrent] at hc
    refine ⟨fun f hf => ?_, fun j _ f hf => ha.current j f hf c hc⟩
    rw [List.mem_singleton.1 hf]
    exact hnew _ (ha.kept c (Manager.mem_handles.2 (.inl hc)))
  · intro g hg f hf
    rcases hheld g hg with rfl | rfl
    · exact ha.own j i hj.symm f hf g hlost
    · exact (hnew _ (ha.own_le hf)).symm
  · intro f hf g hg
    rw [List.mem_singleton.1 hf]
    exact hnew _ (ha.held j g hg)

/-- A session that is installed was known to no other call. -/
theorem installs (ha : Apart x t) {h fresh : Handle} (hphase : t.phase i = .opened h fresh) :
    Apart x (t.put i (t.world.update x.manager fun m => m.adopt h fresh) (.installed h fresh)) := by
  have hheld : ∀ g ∈ (Phase.installed h fresh).held, g ∈ (t.phase i).held := by
    rw [hphase]
    exact fun _ hg => hg
  refine ha.put (Nat.le_refl _) ?_ (fun g hg => ha.held i g (hheld g hg)) nofun ?_
    fun j hj => ⟨fun g hg f hf => ha.own j i hj.symm f hf g (hheld g hg), nofun⟩
  · intro g hg
    rw [World.manager_update_self] at hg
    rcases Manager.mem_handles_of_adopt hg with hg | rfl | rfl
    · exact ha.kept g hg
    · exact ha.held i g (hheld g (by simp [Phase.held]))
    · exact ha.held i g (hheld g (by simp [Phase.held]))
  · intro c hc
    rw [World.manager_update_self, Manager.current_adopt, Option.some.injEq] at hc
    subst hc
    exact ⟨fun f hf => absurd hf List.not_mem_nil,
      fun j hj f hf => ha.own j i hj.symm f hf _ (hheld _ (by simp [Phase.held]))⟩

/-- What is idle is known to nobody but the queue. -/
theorem sweeps (ha : Apart x t) {h fresh : Handle} {table : Table}
    (hphase : t.phase i = .retired h fresh table) :
    Apart x (t.put i
      (t.world.update x.manager fun m =>
        { m with stale := m.stale.filter fun g => !t.world.isIdle (t.others i ++ [h, fresh]) g })
      (.sweeping h fresh
        ((t.world.manager x.manager).stale.filter (t.world.isIdle (t.others i ++ [h, fresh])))
        table)) := by
  generalize hidle : (t.world.manager x.manager).stale.filter
    (t.world.isIdle (t.others i ++ [h, fresh])) = idle
  have hqueued : ∀ g ∈ idle, g ∈ (t.world.manager x.manager).stale := by
    rw [← hidle]
    exact fun g hg => (List.mem_filter.1 hg).1
  have hidle : ∀ g ∈ idle, (∀ c, (t.world.manager x.manager).current = some c →
      c.session ≠ g.session) ∧ ∀ f ∈ t.others i, f.session ≠ g.session := by
    intro g hg
    rw [← hidle] at hg
    obtain ⟨hstale, hg⟩ := List.mem_filter.1 hg
    obtain ⟨hcurrent, hheld⟩ := World.apart_of_isIdle hstale hg
    exact ⟨hcurrent, fun f hf => hheld f (List.mem_append_left _ hf)⟩
  have hheld : ∀ g ∈ (Phase.sweeping h fresh idle table).held,
      g ∈ (t.phase i).held ∨ g ∈ idle := by
    simp only [hphase, Phase.held, List.mem_cons, List.not_mem_nil, or_false]
    exact fun g hg => or_assoc.2 hg
  refine ha.put (Nat.le_refl _) ?_ ?_ (by simp) ?_ fun j hj => ⟨?_, ?_⟩
  · intro g hg
    rw [World.manager_update_self, Manager.mem_handles] at hg
    exact ha.kept g (Manager.mem_handles.2 (hg.imp_right fun hg => (List.mem_filter.1 hg).1))
  · intro g hg
    rcases hheld g hg with hg | hg
    · exact ha.held i g hg
    · exact ha.kept g (Manager.mem_handles.2 (.inr (hqueued g hg)))
  · intro c hc
    rw [World.manager_update_self] at hc
    exact ⟨fun f hf => (hidle f hf).1 c hc, fun j _ f hf => ha.current j f hf c hc⟩
  · intro g hg f hf
    rcases hheld g hg with hg | hg
    · exact ha.own j i hj.symm f hf g hg
    · exact ((hidle g hg).2 f (mem_others.2 ⟨j, hj, own_held hf⟩)).symm
  · intro f hf g hg
    exact (hidle f hf).2 g (mem_others.2 ⟨j, hj, hg⟩)

/-- What a call lets go and what others open in the meantime is no matter. -/
theorem goes (ha : Apart x t) {st : Statement} {w : World n} {p : Phase}
    (hgoes : (t.phase i).GoesOn st p) (hbrings : t.world.Brings x.manager w) :
    Apart x (t.put i w p) := by
  have hnew : ∀ c s, s ≤ t.world.server.opened → t.world.server.opened < c → c ≠ s :=
    fun c s hs hc => (Nat.ne_of_lt (Nat.lt_of_le_of_lt hs hc)).symm
  refine ha.put hbrings.opened ?_ ?_ (fun h f hp => absurd hp (hgoes.opened h f)) ?_
    fun j hj => ⟨?_, ?_⟩
  · intro g hg
    rcases hbrings.handles g hg with hg | hg
    · exact Nat.le_trans (ha.kept g hg) hbrings.opened
    · exact hg.2
  · exact fun g hg => Nat.le_trans (ha.held i g (hgoes.held g hg)) hbrings.opened
  · intro c hc
    rcases hbrings.current c hc with hc | hc
    · exact ⟨fun f hf => ha.current i f (hgoes.own f hf) c hc,
        fun j _ f hf => ha.current j f hf c hc⟩
    · exact ⟨fun f hf => hnew _ _ (ha.own_le (hgoes.own f hf)) hc.1,
        fun j _ f hf => hnew _ _ (ha.own_le hf) hc.1⟩
  · exact fun g hg f hf => ha.own j i hj.symm f hf g (hgoes.held g hg)
  · exact fun f hf g hg => ha.own i j hj f (hgoes.own f hf) g hg

/-- **A turn keeps sessions apart.** -/
theorem turn (ha : Apart x t) {st : Statement} {w : World n} {p : Phase}
    (hturn : Turn x st (t.others i) t.world (t.phase i) w p) : Apart x (t.put i w p) := by
  generalize hphase : t.phase i = before at hturn
  cases hturn with
  | take hcurrent => exact ha.take hcurrent
  | opens hfresh hopened hcurrent hhandles =>
    exact ha.opens hphase hfresh hopened hcurrent hhandles
  | installs => exact ha.installs hphase
  | sweeps => exact ha.sweeps hphase
  | goes hgoes hbrings => exact ha.goes (hphase ▸ hgoes) hbrings

/-- **A turn keeps sessions apart.** A new session has a number that nobody holds, and a call passes
on no handle but by way of the manager. -/
theorem step (ha : Apart x t) (i : Fin k) : Apart x (t.step x calls i) :=
  ha.turn (x.turn_advance ..)

/-- **Sessions are apart whatever the schedule.** -/
theorem run (ha : Apart x t) (schedule : List (Fin k)) : Apart x (t.run x calls schedule) := by
  induction schedule generalizing t with
  | nil => exact ha
  | cons i schedule ih => exact ih (ha.step i)

end Apart

namespace Gone

variable {s : SessionId}

/-- What is to be shown when one call goes on and the world with it. -/
theorem put {w : World n} {p : Phase} (hg : Gone x t s)
    (hopened : t.world.server.opened ≤ w.server.opened)
    (hcurrent : ∀ c, (w.manager x.manager).current = some c → c.session ≠ s)
    (hfresh : ∀ h f, p = .opened h f → f.session ≠ s) : Gone x (t.put i w p) s := by
  refine ⟨Nat.le_trans hg.opened hopened, hcurrent, fun j h f hp => ?_⟩
  by_cases hj : j = i
  · subst hj
    exact hfresh h f ((phase_put_self w p).symm.trans hp)
  · exact hg.fresh j h f ((phase_put_of_ne w p hj).symm.trans hp)

/-- **What is gone stays gone**, and no call takes it. -/
theorem turn (hg : Gone x t s) {st : Statement} {w : World n} {p : Phase}
    (hturn : Turn x st (t.others i) t.world (t.phase i) w p) :
    Gone x (t.put i w p) s ∧ ∀ h, p = .holding h → h.session ≠ s := by
  generalize hphase : t.phase i = before at hturn
  cases hturn with
  | @take h hcurrent =>
    refine ⟨hg.put (Nat.le_refl _) hg.current nofun, ?_⟩
    rintro _ ⟨⟩
    exact hg.current h hcurrent
  | @opens h fresh config w hfresh hopened hcurrent hhandles =>
    refine ⟨hg.put (hopened ▸ Nat.le_succ _) (hcurrent ▸ hg.current) ?_, nofun⟩
    rintro _ _ ⟨⟩
    rw [hfresh]
    exact (Nat.ne_of_lt (Nat.lt_succ_of_le hg.opened)).symm
  | installs h fresh =>
    refine ⟨hg.put (Nat.le_refl _) ?_ nofun, nofun⟩
    intro c hc
    rw [World.manager_update_self, Manager.current_adopt, Option.some.injEq] at hc
    rw [← hc]
    exact hg.fresh i h fresh hphase
  | sweeps h fresh table =>
    refine ⟨hg.put (Nat.le_refl _) ?_ nofun, nofun⟩
    intro c hc
    rw [World.manager_update_self] at hc
    exact hg.current c hc
  | goes hgoes hbrings =>
    refine ⟨hg.put hbrings.opened ?_ fun h f hp => absurd hp (hgoes.opened h f),
      fun h hp => absurd hp (hgoes.holding h)⟩
    intro c hc
    rcases hbrings.current c hc with hc | hc
    · exact hg.current c hc
    · exact (Nat.ne_of_lt (Nat.lt_of_le_of_lt hg.opened hc.1)).symm

/-- **What is gone stays gone**: no turn of any call brings the session back. -/
theorem step (hg : Gone x t s) (i : Fin k) : Gone x (t.step x calls i) s :=
  (hg.turn (x.turn_advance ..)).1

/-- **Whoever holds a session that is gone before a first attempt has held it all along**, and made
no turn since. -/
theorem holding (hg : Gone x t s) {schedule : List (Fin k)} {h : Handle}
    (hholding : (t.run x calls schedule).phase i = .holding h) (hs : h.session = s) :
    t.phase i = .holding h ∧ i ∉ schedule := by
  induction schedule generalizing t with
  | nil => exact ⟨hholding, nofun⟩
  | cons j schedule ih =>
    obtain ⟨hafter, hnot⟩ := ih (hg.step j) hholding
    by_cases hj : i = j
    · subst hj
      rw [phase_step_self] at hafter
      exact absurd hs ((hg.turn (x.turn_advance ..)).2 h hafter)
    · rw [phase_step_of_ne hj] at hafter
      exact ⟨hafter, by simp [hj, hnot]⟩

end Gone

/-! ## What led to a place -/

/-- What a call has got it got in one of its turns. -/
theorem run_crossing (f : Phase → Option Handle) {g : Handle} {schedule : List (Fin k)}
    (hbefore : f (t.phase j) ≠ some g) (hafter : f ((t.run x calls schedule).phase j) = some g) :
    ∃ early late, schedule = early ++ j :: late ∧ f ((t.run x calls early).phase j) ≠ some g ∧
      f ((t.run x calls (early ++ [j])).phase j) = some g := by
  induction schedule generalizing t with
  | nil => exact absurd hafter hbefore
  | cons i schedule ih =>
    by_cases hfirst : f ((t.step x calls i).phase j) = some g
    · have hi : i = j := Classical.byContradiction fun hi => by
        rw [phase_step_of_ne (Ne.symm hi)] at hfirst
        exact hbefore hfirst
      subst hi
      exact ⟨[], schedule, rfl, hbefore, hfirst⟩
    · obtain ⟨early, late, rfl, hnot, hgot⟩ := ih hfirst hafter
      exact ⟨i :: early, late, rfl, hnot, hgot⟩

/-- **A call that closes its lost handle** has lost it by a transient error on its first attempt,
and has installed a session in its place since. -/
theorem lost_of_unqueued {w : World n} {before : List (Fin k)} {g fresh : Handle} {table : Table}
    (hphase : ((start w).run x calls before).phase j = .unqueued g fresh table) :
    ∃ first rest late a e fresh, before = first ++ j :: rest ++ j :: late ∧
      ((start w).run x calls first).phase j = .asked g a ∧
      (calls j).1.kind.shape a = .error e ∧ e.isRetryable = true ∧
      ((start w).run x calls (first ++ j :: rest)).phase j = .opened g fresh := by
  have hreplaced : (((start w).run x calls before).phase j).replaced = some g := by
    rw [hphase]
    rfl
  obtain ⟨early, late, rfl, hnot, hinstalled⟩ := run_crossing Phase.replaced (by nofun) hreplaced
  rw [run_append, run_cons, run_nil, phase_step_self] at hinstalled
  obtain ⟨fresh', hopened⟩ := (x.turn_advance ..).opened_of_replaced hnot hinstalled
  have hlost : (((start w).run x calls early).phase j).lostHandle = some g := by
    rw [hopened]
    rfl
  obtain ⟨first, rest, rfl, hnot, hlost⟩ := run_crossing Phase.lostHandle (by nofun) hlost
  rw [run_append, run_cons, run_nil, phase_step_self] at hlost
  obtain ⟨a, e, hasked, hshape, he⟩ := (x.turn_advance ..).asked_of_lost hnot hlost
  exact ⟨first, rest, late, a, e, fresh', rfl, hasked, hshape, he, hopened⟩

/-! ## First attempts on sessions that a recovery has closed -/

/-- A session that is swept is gone. -/
theorem Apart.gone_of_sweeping (ha : Apart x t) {lost fresh g : Handle} {idle : List Handle}
    {table : Table} (hphase : t.phase j = .sweeping lost fresh (g :: idle) table) :
    Gone x t g.session := by
  have hown : g ∈ (t.phase j).own := by simp [hphase, Phase.own]
  refine ⟨ha.own_le hown, ha.current j g hown, fun l h f hl => ?_⟩
  have hne : l ≠ j := by
    rintro rfl
    rw [hphase] at hl
    cases hl
  exact ha.own j l hne g hown f (by simp [hl, Phase.held])

/-- A session in whose place another one is installed is gone. -/
theorem Apart.gone_of_opened (ha : Apart x t) {g fresh : Handle}
    (hphase : t.phase j = .opened g fresh) : Gone x (t.step x calls j) g.session := by
  have hheld : g ∈ (t.phase j).held := by simp [hphase, Phase.held]
  have hstep : t.step x calls j =
      t.put j (t.world.update x.manager fun m => m.adopt g fresh) (.installed g fresh) := by
    rw [Traffic.step, hphase]
    rfl
  rw [hstep]
  refine ⟨ha.held j g hheld, fun c hc => ?_, fun l h f hl => ?_⟩
  · simp only [Traffic.put, World.manager_update_self, Manager.current_adopt,
      Option.some.injEq] at hc
    rw [← hc]
    exact (ha.fresh j g fresh hphase).symm
  · by_cases hne : l = j
    · subst hne
      rw [phase_put_self] at hl
      cases hl
    · rw [phase_put_of_ne _ _ hne] at hl
      exact (ha.own l j (Ne.symm hne) f (by simp [hl, Phase.own]) g hheld).symm

/-- **No first attempt is still to be sent on a session that a sweep closes.** -/
theorem Apart.session_ne_of_sweeping (ha : Apart x t) {lost fresh g h : Handle}
    {idle : List Handle} {table : Table} {schedule : List (Fin k)}
    (hphase : t.phase j = .sweeping lost fresh (g :: idle) table)
    (hholds : (t.run x calls schedule).phase i = .holding h) : h.session ≠ g.session := by
  intro hsame
  obtain ⟨hheld, -⟩ := (ha.gone_of_sweeping hphase).holding hholds hsame
  have hne : i ≠ j := by
    rintro rfl
    rw [hphase] at hheld
    cases hheld
  exact ha.own j i hne g (by simp [hphase, Phase.own]) h (by simp [hheld, Phase.held]) hsame

variable {w : World n} {g h : Handle}

/-- **Sessions are apart** whatever the schedule of calls that begin in a reachable world. -/
theorem apart_run (hw : w.Reachable) (schedule : List (Fin k)) :
    Apart x ((start w).run x calls schedule) := by
  refine (apart_start fun h hh => ?_).run schedule
  have hissued := (hw.sound.managers x.manager).issued_of_mem_handles hh
  exact (hw.sound.opened x.manager h hissued).2

/-- **A first attempt comes to a session that a recovery has closed in one way only**: it is the one
that the recovering call had lost, by a transient error on its own first attempt, and the other call
had taken the handle before a new session was installed in its place, and made no turn since. No
sweep closes a session on which a first attempt is still to be sent. -/
theorem holding_closed (hw : w.Reachable) {before between : List (Fin k)}
    (hcloses : (((start w).run x calls before).phase j).closes = some g)
    (hholds : ((start w).run x calls (before ++ j :: between)).phase i = .holding h)
    (hsame : h.session = g.session) :
    (∃ fresh table, ((start w).run x calls before).phase j = .unqueued g fresh table) ∧
      ∃ first rest late a e fresh, before = first ++ j :: rest ++ j :: late ∧
        ((start w).run x calls first).phase j = .asked g a ∧
        (calls j).1.kind.shape a = .error e ∧ e.isRetryable = true ∧
        ((start w).run x calls (first ++ j :: rest)).phase j = .opened g fresh ∧
        ((start w).run x calls (first ++ j :: rest)).phase i = .holding h ∧
        i ∉ late ++ j :: between := by
  cases hphase : ((start w).run x calls before).phase j with
  | unqueued lost fresh table =>
    rw [hphase] at hcloses
    cases hcloses
    refine ⟨⟨fresh, table, rfl⟩, ?_⟩
    obtain ⟨first, rest, late, a, e, fresh', rfl, hasked, hshape, he, hopened⟩ :=
      lost_of_unqueued hphase
    -- once another session was installed in its place, nobody takes the lost one
    have hgone : Gone x (((start w).run x calls (first ++ j :: rest)).step x calls j) g.session :=
      (apart_run hw (first ++ j :: rest)).gone_of_opened hopened
    rw [List.append_assoc, run_append, List.cons_append, run_cons] at hholds
    obtain ⟨hheld, hnever⟩ := hgone.holding hholds hsame
    have hne : i ≠ j := by
      rintro rfl
      exact hnever (by simp)
    rw [phase_step_of_ne hne] at hheld
    exact ⟨first, rest, late, a, e, fresh', rfl, hasked, hshape, he, hopened, hheld, hnever⟩
  | sweeping lost fresh idle table =>
    rw [hphase] at hcloses
    cases idle with
    | nil => cases hcloses
    | cons f idle =>
      cases hcloses
      rw [run_append] at hholds
      exact absurd hsame ((apart_run hw before).session_ne_of_sweeping hphase hholds)
  | _ =>
    rw [hphase] at hcloses
    cases hcloses

/-- Two updates, of which the first one loses its session. -/
def updates : Fin 2 → Statement × Bool
  | 0 => (⟨.update, "UPDATE t SET a = 1"⟩, false)
  | 1 => (⟨.update, "UPDATE t SET b = 2"⟩, false)

/-- They run side by side on an executor that logs nothing. -/
def race (schedule : List (Fin 2)) : Traffic 1 2 :=
  (start Executor.losing).run ⟨World.solo, false⟩ updates schedule

/-- The world in which a session is about to be lost is reached by connecting. -/
theorem reachable_losing : Executor.losing.Reachable := by
  refine .step false (.step false (.fresh []) ?_) ?_
  all_goals decide +kernel

/-- The second call takes its handle first, and waits while the first one loses the session, opens
another one, runs its statement there and closes the lost session. -/
theorem holding_closed_race :
    ((race (1 :: List.replicate 9 0)).phase 0).closes = some ⟨1, 1⟩ ∧
      (race (1 :: List.replicate 9 0 ++ [0])).phase 1 = .holding ⟨1, 1⟩ ∧
      ∃ early late, 1 :: List.replicate 9 0 = early ++ 0 :: late ∧
        (race early).phase 1 = .holding ⟨1, 1⟩ ∧ (1 : Fin 2) ∉ late := by
  have hcloses : ((race (1 :: List.replicate 9 0)).phase 0).closes = some ⟨1, 1⟩ := by
    decide +kernel
  have hholds : (race (1 :: List.replicate 9 0 ++ [0])).phase 1 = .holding ⟨1, 1⟩ := rfl
  obtain ⟨-, first, rest, late, a, e, fresh, hsplit, -, -, -, -, hheld, hnever⟩ :=
    holding_closed reachable_losing hcloses hholds rfl
  exact ⟨hcloses, hholds, first ++ 0 :: rest, late, hsplit, hheld,
    fun hmem => hnever (List.mem_append_left _ hmem)⟩

/-- A recovery closes a session that another call has taken, and the first attempt of that call is
sent on it. -/
theorem not_holding_open :
    (¬∀ (n k : Nat) (x : Executor n) (calls : Fin k → Statement × Bool) (w : World n),
      w.Reachable → ∀ (before between : List (Fin k)) (i j : Fin k) (g h : Handle), i ≠ j →
        (((start w).run x calls before).phase j).closes = some g →
        ((start w).run x calls (before ++ j :: between)).phase i = .holding h →
        h.session ≠ g.session) ∧
      (race (1 :: List.replicate 10 0)).world.server.closed = [1] ∧
      (race (1 :: List.replicate 10 0 ++ [1])).world.server.sent =
        [⟨1, .execute, "UPDATE t SET a = 1"⟩, ⟨2, .execute, "UPDATE t SET a = 1"⟩,
          ⟨1, .execute, "UPDATE t SET b = 2"⟩] := by
  refine ⟨fun hnever => ?_, by decide +kernel, by decide +kernel⟩
  have hcloses : ((race (1 :: List.replicate 9 0)).phase 0).closes = some ⟨1, 1⟩ := by
    decide +kernel
  have hholds : (race (1 :: List.replicate 9 0 ++ [0])).phase 1 = .holding ⟨1, 1⟩ := rfl
  exact hnever 1 2 _ _ _ reachable_losing _ [] 1 0 _ _ (by decide) hcloses hholds rfl

end Traffic

end SqlBridge
