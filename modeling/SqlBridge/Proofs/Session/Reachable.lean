import SqlBridge.Proofs.Session.Invariant

/-!
# The worlds that scripts reach

A script is proper when it uses a handle with the manager that gave it out and does not make the
closing of sessions fail (`Command.Proper`). Every world that proper commands reach is sound
(`World.Reachable.sound`), since every operation of a manager keeps a world sound
(`World.respected_soundness`) and commands are made of these.
-/

namespace SqlBridge

variable {n : Nat}

/-! ## Operations -/

namespace World

/-- Being sound as a property that managers keep when they are called with their own handles and
sessions can be closed. -/
def soundness : Invariant n where
  holds := Sound
  usable w m h := h ∈ (w.manager m).issued
  mayFailClosing := False

/-- Every operation keeps a world sound. -/
theorem respected_soundness : (soundness : Invariant n).Respected where
  alike h := h.keeps
  current hw := (hw.managers _).current _
  connect := keeps_connect
  reconnect := keeps_reconnect
  disconnect := keeps_disconnect
  retire := keeps_retire
  disconnectAll := keeps_disconnectAll
  closeStale := keeps_closeStale
  names := fun {w names} hnames hw => by
    refine ⟨{ hw with named := fun h hh => ?_ }, fun _ _ hh => hh⟩
    exact (hnames h hh).elim (hw.named h) id
  failClose w error herror hw := by
    cases error with
    | none => exact Alike.keeps ⟨rfl, rfl, rfl, rfl, hw.closes.symm⟩ hw
    | some e => exact (herror rfl).elim

end World

/-- An attempt keeps a world sound. -/
theorem Executor.keeps_attempt (x : Executor n) (w : World n) (h : Handle) (st : Statement)
    (internal : Bool) : w.Keeps (x.attempt w h st internal).2 :=
  World.respected_soundness.drifts (x.drifts_attempt w h st internal)

/-! ## Commands -/

/-- The command uses only handles that its manager gave out, and does not make closing fail. -/
def Command.Proper (w : World n) (c : Command n) : Prop :=
  (∀ name ∈ c.action.names, ∀ h ∈ w.handle? name, h ∈ (w.manager c.manager).issued) ∧
    c.action.failsClosing = false

instance (w : World n) (c : Command n) : Decidable (c.Proper w) :=
  inferInstanceAs (Decidable (_ ∧ _))

/-- **A proper command keeps the invariant.** -/
theorem Command.keeps_run {w : World n} {c : Command n} (hc : c.Proper w) (logQueries : Bool) :
    w.Keeps (c.run logQueries w).2 :=
  World.respected_soundness.run ⟨hc.1, fun hfails => absurd hfails (by simp [hc.2])⟩ logQueries

/-! ## Runs -/

/-- The worlds that proper commands reach from a server without a session. -/
inductive World.Reachable : World n → Prop
  | fresh (replies : List (Reply n)) : Reachable (World.fresh replies)
  | step {w : World n} {c : Command n} (logQueries : Bool) (hw : Reachable w) (hc : c.Proper w) :
      Reachable (c.run logQueries w).2

/-- **Every world that is reached is sound.** -/
theorem World.Reachable.sound {w : World n} (hw : w.Reachable) : w.Sound := by
  induction hw with
  | fresh replies => exact sound_fresh replies
  | step logQueries _ hc ih => exact (Command.keeps_run hc logQueries ih).1

end SqlBridge
