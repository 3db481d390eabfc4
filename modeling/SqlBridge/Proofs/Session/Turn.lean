import SqlBridge.Proofs.Session.Interleaving

/-!
# What a turn does

`Turn` says once what a turn of a call can do to its phase and to what the manager keeps: the
current handle is taken, a session is opened, it is installed, the queue is swept, or the call goes
on with what it holds (`Phase.GoesOn`) while the manager keeps nothing new but sessions opened
meanwhile (`World.Brings`). Every turn is one of these (`Executor.turn_advance`), so what holds of a
schedule is shown case by case.
-/

namespace SqlBridge

variable {n k : Nat}

/-! ## What a manager keeps in the course of a turn -/

namespace World

variable {w w' w'' : World n} {m j : Fin n}

/-- What the manager keeps, it kept before, or its session was opened meanwhile. -/
structure Brings (w : World n) (m : Fin n) (w' : World n) : Prop where
  opened : w.server.opened ≤ w'.server.opened
  current : ∀ c, (w'.manager m).current = some c → (w.manager m).current = some c ∨
    w.server.opened < c.session ∧ c.session ≤ w'.server.opened
  handles : ∀ c ∈ (w'.manager m).handles, c ∈ (w.manager m).handles ∨
    w.server.opened < c.session ∧ c.session ≤ w'.server.opened

namespace Brings

/-- A step that leaves the manager alone brings nothing, however many sessions it opens for
others. -/
theorem of_eq (hmanager : w'.manager m = w.manager m)
    (hopened : w.server.opened ≤ w'.server.opened) : w.Brings m w' :=
  ⟨hopened, fun _ hc => .inl (hmanager ▸ hc), fun _ hc => .inl (hmanager ▸ hc)⟩

/-- What two steps bring was there before both, or its session was opened during one of them. -/
theorem trans (hfirst : w.Brings m w') (hsecond : w'.Brings m w'') : w.Brings m w'' := by
  have hopened := Nat.le_trans hfirst.opened hsecond.opened
  refine ⟨hopened, fun c hc => ?_, fun c hc => ?_⟩
  · rcases hsecond.current c hc with hc | ⟨hlow, hhigh⟩
    · exact (hfirst.current c hc).imp_right fun h => ⟨h.1, Nat.le_trans h.2 hsecond.opened⟩
    · exact .inr ⟨Nat.lt_of_le_of_lt hfirst.opened hlow, hhigh⟩
  · rcases hsecond.handles c hc with hc | ⟨hlow, hhigh⟩
    · exact (hfirst.handles c hc).imp_right fun h => ⟨h.1, Nat.le_trans h.2 hsecond.opened⟩
    · exact .inr ⟨Nat.lt_of_le_of_lt hfirst.opened hlow, hhigh⟩

end Brings

/-- Asking, answering and logging bring nothing. -/
theorem Alike.brings (h : w.Alike w') : w.Brings m w' :=
  .of_eq (h.manager m) (Nat.le_of_eq h.opened.symm)

/-- To close a session brings nothing. -/
theorem brings_close (w : World n) (m : Fin n) (h : Handle) : w.Brings m (w.close h).2 :=
  .of_eq rfl (Nat.le_of_eq (w.opened_close h).symm)

/-- A manager that lets handles go brings nothing. -/
theorem brings_update (w : World n) (m : Fin n) {change : Manager → Manager}
    (hchange : (w.manager m).LetsGo (change (w.manager m))) : w.Brings m (w.update m change) := by
  refine ⟨Nat.le_refl _, fun c hc => ?_, fun c hc => ?_⟩
  · rw [manager_update_self] at hc
    exact .inl (hchange.current c hc)
  · rw [manager_update_self] at hc
    exact .inl (hchange.mem_handles hc)

/-- A manager that lets handles go brings nothing, neither to itself nor to the others. -/
theorem LetsGo.brings {k : Manager} {l : List Handle} (hl : w.LetsGo m k l w') (j : Fin n) :
    w.Brings j w' :=
  ⟨Nat.le_of_eq hl.opened.symm, fun c hc => .inl ((hl.manager j).current c hc),
    fun _ hc => .inl ((hl.manager j).mem_handles hc)⟩

/-- A connection brings the handle of the session that it opened. -/
theorem brings_connect (w : World n) (m j : Fin n) (config : ConnectionConfig) :
    w.Brings m (w.connect j config).2 := by
  rcases w.connect_cases j config with ⟨-, halike⟩ | ⟨-, hadmits⟩
  · exact halike.brings
  · have hopened : w.server.opened ≤ (w.connect j config).2.server.opened := by
      rw [hadmits.opened]
      exact Nat.le_succ _
    by_cases hj : m = j
    · subst hj
      -- the new connection has the next session
      have hnew : w.server.opened < (w.nextHandle m).session ∧
          (w.nextHandle m).session ≤ (w.connect m config).2.server.opened := by
        rw [hadmits.opened]
        exact ⟨Nat.lt_succ_self _, Nat.le_refl _⟩
      refine ⟨hopened, fun c hc => ?_, fun c hc => ?_⟩
      · rw [hadmits.self, Manager.install_eq, Option.some.injEq] at hc
        exact .inr (hc ▸ hnew)
      · rw [hadmits.self, Manager.mem_handles_install] at hc
        rcases hc with hc | rfl
        · exact .inl hc
        · exact .inr hnew
    · exact .of_eq (hadmits.others m hj) hopened

/-- What other tasks do meanwhile brings handles of newly opened sessions alone. -/
theorem brings_interruptions (w : World n) (m : Fin n) (l : List (Interruption n)) :
    w.Brings m (l.foldl interrupt w) := by
  induction l generalizing w with
  | nil => exact .of_eq rfl (Nat.le_refl _)
  | cons i l ih =>
    have hfirst : w.Brings m (w.interrupt i) := by
      cases i with
      | connect j config => exact w.brings_connect m j config
      | disconnectAll j => exact (w.letsGo_disconnectAll j).brings m
      | refuse e => exact .of_eq rfl (Nat.le_refl _)
    exact hfirst.trans (ih _)

/-- Whatever others do while an answer is awaited, they bring nothing but new sessions. -/
theorem brings_send (w : World n) (m : Fin n) (session : SessionId) (verb : Verb) (sql : String) :
    w.Brings m (w.send session verb sql).2 :=
  (w.alike_receive ⟨session, verb, sql⟩).brings.trans (brings_interruptions _ m _)

/-- A note brings nothing. -/
theorem brings_note (w : World n) (m : Fin n) (e : LogEvent) : w.Brings m (w.note e) :=
  (w.alike_note e).brings

/-- A handle is idle when nobody but the queue refers to its session: it is not that of the current
one, nor of one that is held. -/
theorem apart_of_isIdle {held : List Handle} {g : Handle} (hg : g ∈ (w.manager m).stale)
    (hidle : w.isIdle held g) :
    (∀ c, (w.manager m).current = some c → c.session ≠ g.session) ∧
      ∀ h ∈ held, h.session ≠ g.session := by
  let refers : Handle → Bool := fun h => h.session == g.session
  obtain ⟨before, behind, hall⟩ := List.append_of_mem (List.mem_finRange m)
  have hcount : (held.filter refers).length + ((w.manager m).current.toList.filter refers).length +
      ((w.manager m).stale.filter refers).length ≤ 1 := by
    have hone : w.references held g.session = 1 := beq_iff_eq.1 hidle
    rw [references, keptHandles, hall] at hone
    simp only [List.flatMap_append, List.flatMap_cons, Manager.handles, List.filter_append,
      List.length_append] at hone
    simp only [refers]
    omega
  have hqueued : 0 < ((w.manager m).stale.filter refers).length :=
    List.length_pos_of_mem (List.mem_filter.2 ⟨hg, beq_self_eq_true _⟩)
  refine ⟨fun c hc hsame => ?_, fun h hh hsame => ?_⟩
  · have hcurrent : 0 < ((w.manager m).current.toList.filter refers).length :=
      List.length_pos_of_mem (List.mem_filter.2 ⟨Option.mem_toList.2 hc, beq_iff_eq.2 hsame⟩)
    omega
  · have hheld : 0 < (held.filter refers).length :=
      List.length_pos_of_mem (List.mem_filter.2 ⟨hh, beq_iff_eq.2 hsame⟩)
    omega

end World

/-! ## What a turn does -/

namespace Phase

/-- The handle that the call has lost. -/
def lostHandle : Phase → Option Handle
  | lost h => some h
  | opening h _ => some h
  | opened h _ => some h
  | installed h _ => some h
  | resent h _ _ => some h
  | recovered h _ _ => some h
  | unqueued h _ _ => some h
  | _ => none

/-- The lost handle in whose place the call has installed a session. -/
def replaced : Phase → Option Handle
  | installed h _ => some h
  | resent h _ _ => some h
  | recovered h _ _ => some h
  | unqueued h _ _ => some h
  | _ => none

/-- A call goes on with what it holds, or lets some of it go. -/
structure GoesOn (st : Statement) (p p' : Phase) : Prop where
  held : ∀ h ∈ p'.held, h ∈ p.held
  own : ∀ h ∈ p'.own, h ∈ p.own
  holding : ∀ h, p' ≠ .holding h
  opened : ∀ h fresh, p' ≠ .opened h fresh
  /-- A handle is lost when the answer to the first attempt on it is a transient error. -/
  lost : ∀ g, p'.lostHandle = some g → p.lostHandle = some g ∨
    ∃ a e, p = .asked g a ∧ st.kind.shape a = .error e ∧ e.isRetryable = true
  replaced : ∀ g, p'.replaced = some g → p.replaced = some g

-- one lemma for each place to which a call goes on

/-- A call that is finished holds nothing. -/
theorem goesOn_finished (st : Statement) (p : Phase) (r : Except Error (RetryOutcome Table)) :
    GoesOn st p (.finished r) := ⟨nofun, nofun, nofun, nofun, nofun, nofun⟩

/-- A call that has sent its first attempt still holds the handle. -/
theorem goesOn_asked (st : Statement) (h : Handle) (a : Answer) :
    GoesOn st (.holding h) (.asked h a) := ⟨fun _ h => h, nofun, nofun, nofun, nofun, nofun⟩

/-- The handle is lost once a transient error has answered the first attempt on it. -/
theorem goesOn_lost {st : Statement} {a : Answer} {e : Error} (h : Handle)
    (hshape : st.kind.shape a = .error e) (he : e.isRetryable) :
    GoesOn st (.asked h a) (.lost h) :=
  ⟨fun _ h => h, nofun, nofun, nofun,
    fun _ hg => .inr ⟨a, e, Option.some.inj hg ▸ rfl, hshape, he⟩, nofun⟩

/-- The lost handle stays lost while the settings are looked up. -/
theorem goesOn_opening (st : Statement) (h : Handle) (config : ConnectionConfig) :
    GoesOn st (.lost h) (.opening h config) :=
  ⟨fun _ h => h, nofun, nofun, nofun, fun _ h => .inl h, nofun⟩

/-- The second attempt leaves the handles of the call as they are. -/
theorem goesOn_resent (st : Statement) (h fresh : Handle) (a : Answer) :
    GoesOn st (.installed h fresh) (.resent h fresh a) :=
  ⟨fun _ h => h, nofun, nofun, nofun, fun _ h => .inl h, fun _ h => h⟩

/-- The answer to the second attempt leaves the handles of the call as they are. -/
theorem goesOn_recovered (st : Statement) (h fresh : Handle) (a : Answer) (t : Table) :
    GoesOn st (.resent h fresh a) (.recovered h fresh t) :=
  ⟨fun _ h => h, nofun, nofun, nofun, fun _ h => .inl h, fun _ h => h⟩

/-- Taking the lost handle out of the queue leaves the handles of the call as they are. -/
theorem goesOn_unqueued (st : Statement) (h fresh : Handle) (t : Table) :
    GoesOn st (.recovered h fresh t) (.unqueued h fresh t) :=
  ⟨fun _ h => h, nofun, nofun, nofun, fun _ h => .inl h, fun _ h => h⟩

/-- Once its session is closed the lost handle is only held. -/
theorem goesOn_retired (st : Statement) (h fresh : Handle) (t : Table) :
    GoesOn st (.unqueued h fresh t) (.retired h fresh t) :=
  ⟨fun _ h => h, nofun, nofun, nofun, nofun, nofun⟩

/-- One of the handles that are swept is closed and let go. -/
theorem goesOn_sweeping (st : Statement) (h fresh g : Handle) (idle : List Handle) (t : Table) :
    GoesOn st (.sweeping h fresh (g :: idle) t) (.sweeping h fresh idle t) := by
  refine ⟨fun a ha => ?_, fun _ ha => List.mem_cons_of_mem g ha, nofun, nofun, nofun, nofun⟩
  simp only [Phase.held, List.mem_cons] at ha ⊢
  exact ha.imp_right fun ha => ha.imp_right .inr

end Phase

/-- What a turn can do, as far as handles go. -/
inductive Turn (x : Executor n) (st : Statement) (others : List Handle) (w : World n) :
    Phase → World n → Phase → Prop
  /-- The current handle is taken. -/
  | take {h : Handle} (hcurrent : (w.manager x.manager).current = some h) :
    Turn x st others w .waiting w (.holding h)
  /-- A session is opened. -/
  | opens {h fresh : Handle} {config : ConnectionConfig} {w' : World n}
    (hfresh : fresh.session = w.server.opened + 1)
    (hopened : w'.server.opened = w.server.opened + 1)
    (hcurrent : (w'.manager x.manager).current = (w.manager x.manager).current)
    (hhandles : (w'.manager x.manager).handles = (w.manager x.manager).handles) :
    Turn x st others w (.opening h config) w' (.opened h fresh)
  /-- A session is installed in the place of the lost one. -/
  | installs (h fresh : Handle) :
    Turn x st others w (.opened h fresh) (w.update x.manager fun m => m.adopt h fresh)
      (.installed h fresh)
  /-- The idle handles are taken out of the queue. -/
  | sweeps (h fresh : Handle) (t : Table) :
    Turn x st others w (.retired h fresh t)
      (w.update x.manager fun m =>
        { m with stale := m.stale.filter fun g => !w.isIdle (others ++ [h, fresh]) g })
      (.sweeping h fresh ((w.manager x.manager).stale.filter (w.isIdle (others ++ [h, fresh]))) t)
  /-- The call goes on, and the manager keeps nothing new but sessions opened meanwhile. -/
  | goes {p p' : Phase} {w' : World n} (hgoes : p.GoesOn st p') (hbrings : w.Brings x.manager w') :
    Turn x st others w p w' p'

namespace Executor

/-- What an answer leads to brings nothing, logged or not. -/
theorem brings_conclude (x : Executor n) (w : World n) (m : Fin n) (st : Statement)
    (internal : Bool) (a : Answer) : w.Brings m (x.conclude w st internal a).2 := by
  rw [conclude]
  cases st.kind.shape a with
  | error e => exact .of_eq rfl (Nat.le_refl _)
  | ok t =>
    simp only
    split
    · exact w.brings_note m _
    · exact .of_eq rfl (Nat.le_refl _)

/-- An attempt fails with the error of its answer. -/
theorem shape_of_conclude {x : Executor n} {w w' : World n} {st : Statement} {internal : Bool}
    {a : Answer} {e : Error} (h : x.conclude w st internal a = (.error e, w')) :
    st.kind.shape a = .error e := by
  rw [conclude] at h
  cases hshape : st.kind.shape a with
  | error e' =>
    rw [hshape] at h
    cases h
    rfl
  | ok t =>
    rw [hshape] at h
    cases h

/-- **Every turn is one of these.** -/
theorem turn_advance (x : Executor n) (st : Statement) (internal : Bool) (others : List Handle)
    (w : World n) (p : Phase) : Turn x st others w p (x.advance st internal others w p).2
      (x.advance st internal others w p).1 := by
  have hstays : w.Brings x.manager w := .of_eq rfl (Nat.le_refl _)
  cases p with
  | waiting =>
    rw [advance, World.active]
    cases hcurrent : (w.manager x.manager).current with
    | some h => exact .take hcurrent
    | none => exact .goes (Phase.goesOn_finished ..) hstays
  | holding h =>
    exact .goes (Phase.goesOn_asked ..) (w.brings_send ..)
  | asked h a =>
    have hbrings := x.brings_conclude w x.manager st internal a
    rw [advance]
    cases hconclude : x.conclude w st internal a with
    | mk result w' =>
    rw [hconclude] at hbrings
    cases result with
    | ok t => exact .goes (Phase.goesOn_finished ..) hbrings
    | error e =>
      simp only
      split
      · next he =>
        exact .goes (Phase.goesOn_lost h (shape_of_conclude hconclude) he)
          (hbrings.trans (w'.brings_note ..))
      · exact .goes (Phase.goesOn_finished ..) (hbrings.trans (w'.brings_note ..))
  | lost h =>
    rw [advance]
    cases (w.manager x.manager).config with
    | none => exact .goes (Phase.goesOn_finished ..) (w.brings_note ..)
    | some config =>
      exact .goes (Phase.goesOn_opening ..) (w.brings_note ..)
  | opening h config =>
    rw [advance]
    cases hrefusal : w.server.refusal with
    | none =>
      rw [World.openHandle_ok config hrefusal]
      refine .opens rfl rfl ?_ ?_ <;> rw [World.manager_update_self] <;> rfl
    | some e =>
      rw [World.openHandle_error config hrefusal]
      exact .goes (Phase.goesOn_finished ..) (.of_eq rfl (Nat.le_refl _))
  | opened h fresh => exact .installs h fresh
  | installed h fresh =>
    exact .goes (Phase.goesOn_resent ..) (w.brings_send ..)
  | resent h fresh a =>
    have hbrings := x.brings_conclude w x.manager st internal a
    rw [advance]
    cases hconclude : x.conclude w st internal a with
    | mk result w' =>
    rw [hconclude] at hbrings
    cases result with
    | ok t => exact .goes (Phase.goesOn_recovered ..) hbrings
    | error e => exact .goes (Phase.goesOn_finished ..) (hbrings.trans (w'.brings_note ..))
  | recovered h fresh t =>
    have hbrings : w.Brings x.manager (w.update x.manager fun m => m.unqueue h) :=
      w.brings_update x.manager (Manager.letsGo_unqueue _ h)
    exact .goes (Phase.goesOn_unqueued ..) hbrings
  | unqueued h fresh t =>
    exact .goes (Phase.goesOn_retired ..) (w.brings_close ..)
  | retired h fresh t =>
    rw [advance, List.partition_eq_filter_filter]
    exact .sweeps h fresh t
  | sweeping h fresh idle t =>
    cases idle with
    | nil => exact .goes (Phase.goesOn_finished ..) hstays
    | cons g idle =>
      rw [advance]
      exact .goes (Phase.goesOn_sweeping ..) (w.brings_close ..)
  | finished r => exact .goes (Phase.goesOn_finished ..) hstays

end Executor

namespace Turn

variable {x : Executor n} {st : Statement} {others : List Handle} {w w' : World n} {p p' : Phase}
  {g : Handle}

/-- A call that has just lost a handle was answered with a transient error on it. -/
theorem asked_of_lost (h : Turn x st others w p w' p') (hbefore : p.lostHandle ≠ some g)
    (hafter : p'.lostHandle = some g) :
    ∃ a e, p = .asked g a ∧ st.kind.shape a = .error e ∧ e.isRetryable = true := by
  cases h with
  | take => cases hafter
  | sweeps => cases hafter
  | opens => exact absurd hafter hbefore
  | installs => exact absurd hafter hbefore
  | goes hgoes => exact (hgoes.lost g hafter).resolve_left hbefore

/-- A call that has just replaced a handle had opened a session for it. -/
theorem opened_of_replaced (h : Turn x st others w p w' p') (hbefore : p.replaced ≠ some g)
    (hafter : p'.replaced = some g) : ∃ fresh, p = .opened g fresh := by
  cases h with
  | take => cases hafter
  | sweeps => cases hafter
  | opens => cases hafter
  | installs h fresh =>
    cases hafter
    exact ⟨fresh, rfl⟩
  | goes hgoes => exact absurd (hgoes.replaced g hafter) hbefore

end Turn

end SqlBridge
