import SqlBridge.Proofs.Session.Operation

/-!
# Invariants of commands

A property of worlds that each operation of a manager keeps (`World.Invariant.Respected`) is kept by
every command (`World.Invariant.Respected.run`), which is a sequence of operations, and so it holds
of every world that is reached (`World.Invariant.Respected.reached`).

What a property allows to be done is part of it: `usable` says which handles a manager may be
called with, and `mayFailClosing` whether the server may refuse to close sessions.
-/

namespace SqlBridge

variable {n : Nat}

/-- The kept handles that an action uses with the manager. -/
def Action.names : Action n → List String
  | .reconnect name _ | .disconnect name | .retire name | .runOn name _ _ => [name]
  | _ => []

/-- The action makes the closing of sessions fail. -/
def Action.failsClosing : Action n → Bool
  | .failClose e => e.isSome
  | _ => false

/-- Giving a name a value brings no other value in. -/
theorem Named.mem_values_insert {α : Type} {names : Named α} {name : String} {v u : α}
    (h : u ∈ (names.insert name v).values) : u = v ∨ u ∈ names.values := by
  have hput : ∀ entries : List (String × α), u ∈ (Named.put name v entries).map Prod.snd →
      u = v ∨ u ∈ entries.map Prod.snd := by
    intro entries
    induction entries with
    | nil => simp [put]
    | cons e rest ih =>
      rw [put]
      split
      · intro hu
        exact (List.mem_cons.1 hu).imp_right (List.mem_cons_of_mem _)
      · intro hu
        rcases List.mem_cons.1 hu with hu | hu
        · exact .inr (by simp [hu])
        · exact (ih hu).imp_right (List.mem_cons_of_mem _)
  exact hput names.entries h

namespace World

/-- The worlds that commands reach from a server without a session, each command allowed in the
world where it is given. -/
inductive Reached (allowed : World n → Command n → Prop) : World n → Prop
  | fresh (replies : List (Reply n)) : Reached allowed (World.fresh replies)
  | step {w : World n} {c : Command n} (logQueries : Bool) (hw : Reached allowed w)
      (hc : allowed w c) : Reached allowed (c.run logQueries w).2

/-- A property of worlds, and what may be done while it holds. -/
structure Invariant (n : Nat) where
  holds : World n → Prop
  /-- A manager may be called with the handle. -/
  usable : World n → Fin n → Handle → Prop
  /-- The closing of sessions may be made to fail. -/
  mayFailClosing : Prop

namespace Invariant

variable {I : Invariant n} {w w' w'' : World n} {m : Fin n} {h : Handle}

/-- A step keeps the property, and what could be used can still be used. -/
def Keeps (I : Invariant n) (w w' : World n) : Prop :=
  I.holds w → I.holds w' ∧ ∀ m h, I.usable w m h → I.usable w' m h

/-- What does nothing keeps every property. -/
theorem Keeps.refl (w : World n) : I.Keeps w w := fun hw => ⟨hw, fun _ _ hh => hh⟩

/-- A property that is kept twice in a row is kept. -/
theorem Keeps.trans (hfirst : I.Keeps w w') (hsecond : I.Keeps w' w'') : I.Keeps w w'' := by
  intro hw
  obtain ⟨hw', husable⟩ := hfirst hw
  obtain ⟨hw'', husable'⟩ := hsecond hw'
  exact ⟨hw'', fun m h hh => husable' m h (husable m h hh)⟩

/-- The command does no more than the property allows. -/
def Allows (I : Invariant n) (w : World n) (c : Command n) : Prop :=
  (∀ name ∈ c.action.names, ∀ h ∈ w.handle? name, I.usable w c.manager h) ∧
    (c.action.failsClosing → I.mayFailClosing)

/-- Every operation keeps the property. -/
structure Respected (I : Invariant n) : Prop where
  alike : ∀ {w w'}, w.Alike w' → I.Keeps w w'
  current : ∀ {w m h}, I.holds w → (w.manager m).current = some h → I.usable w m h
  connect : ∀ w m config, I.Keeps w (w.connect m config).2 ∧
    ∀ h, (w.connect m config).1 = .ok h → I.usable (w.connect m config).2 m h
  reconnect : ∀ {w m lost}, I.usable w m lost → I.Keeps w (w.reconnect m lost).2 ∧
    ∀ h, (w.reconnect m lost).1 = .ok h → I.usable (w.reconnect m lost).2 m h
  disconnect : ∀ {w m h}, I.usable w m h → I.Keeps w (w.disconnect m h).2
  retire : ∀ {w m h}, I.usable w m h → I.Keeps w (w.retire m h).2
  disconnectAll : ∀ w m, I.Keeps w (w.disconnectAll m).2
  closeStale : ∀ w m held, I.Keeps w (w.closeStale m held).2
  /-- Callers may let handles go and keep those that could be used. -/
  names : ∀ {w} {names : Named Handle},
    (∀ h ∈ names.values, h ∈ w.names.values ∨ ∃ m, I.usable w m h) → I.Keeps w { w with names }
  failClose : ∀ w (error : Option Error), (error.isSome → I.mayFailClosing) →
    I.Keeps w { w with server := { w.server with closeFailure := error } }

namespace Respected

/-! ## Operations -/

/-- An operation that needs no handle keeps the property. -/
theorem free (hI : I.Respected) (w : World n) (o : Operation n) (ho : o.isFree) :
    I.Keeps w (o.run w) := by
  cases o with
  | connect m config => exact (hI.connect w m config).1
  | disconnectAll m => exact hI.disconnectAll w m
  | closeStale m held => exact hI.closeStale w m held
  | keep m name =>
    intro hw
    cases hcurrent : (w.manager m).current with
    | none =>
      rw [Operation.run, hcurrent]
      exact Keeps.refl w hw
    | some h =>
      rw [Operation.run, hcurrent]
      refine hI.names (fun g hg => ?_) hw
      rcases Named.mem_values_insert hg with rfl | hg
      · exact .inr ⟨m, hI.current hw hcurrent⟩
      · exact .inl hg
  | forget name =>
    refine hI.names fun h hh => .inl ?_
    obtain ⟨e, he, rfl⟩ := List.mem_map.1 hh
    exact List.mem_map.2 ⟨e, (List.mem_filter.1 he).1, rfl⟩
  | receive statement => exact hI.alike (w.alike_receive statement)
  | note e => exact hI.alike (w.alike_note e)
  | push replies => exact hI.alike ⟨rfl, rfl, rfl, rfl, rfl⟩
  | refuse e => exact hI.alike ⟨rfl, rfl, rfl, rfl, rfl⟩
  | reconnect | disconnect | retire | failClose => cases ho

/-- What other tasks do while nobody hands them a handle keeps the property. -/
theorem drifts (hI : I.Respected) (hd : w.Drifts w') : I.Keeps w w' :=
  hd.lift Keeps.refl Keeps.trans hI.free

/-! ## Commands -/

/-- Running a statement on a handle that may be used keeps the property. -/
theorem runWithRetry (hI : I.Respected) {x : Executor n} (hh : I.usable w x.manager h)
    (st : Statement) (internal : Bool) : I.Keeps w (x.runWithRetry w h st internal).2 := by
  intro hw
  rcases x.runWithRetry_course w h st internal with hdrift | ⟨w₁, hfirst, hrest⟩
  · exact hI.drifts hdrift hw
  have hlost : I.usable w₁ x.manager h := (hI.drifts hfirst hw).2 _ h hh
  have hreconnected := (hI.drifts hfirst).trans (hI.reconnect hlost).1
  rcases hrest with hsecond | ⟨fresh, w₂, -, hsecond, hsettled⟩
  · exact (hreconnected.trans (hI.drifts hsecond)) hw
  · have hanswered := hreconnected.trans (hI.drifts hsecond)
    have hretired := hanswered.trans (hI.retire ((hanswered hw).2 _ h hh))
    rw [hsettled]
    exact (hretired.trans (hI.closeStale _ _ _)) hw

/-- **A command keeps the property**, as long as it does no more than the property allows. -/
theorem run (hI : I.Respected) {c : Command n} (hc : I.Allows w c) (logQueries : Bool) :
    I.Keeps w (c.run logQueries w).2 := by
  intro hw
  have hused {name : String} {h : Handle} (hname : name ∈ c.action.names)
      (hh : w.handle? name = some h) : I.usable w c.manager h := hc.1 name hname h hh
  generalize hcourse : (c.run logQueries w).2 = after
  cases hcourse ▸ c.course logQueries w with
  | drift hdrift => exact hI.drifts hdrift hw
  | failClose haction =>
    exact hI.failClose w _ (fun hsome => hc.2 (by rw [haction]; exact hsome)) hw
  | reconnect haction hname hrest =>
    have hlost := hused (by simp [haction, Action.names]) hname
    exact ((hI.reconnect hlost).1.trans (hI.drifts hrest)) hw
  | disconnect haction hname =>
    exact hI.disconnect (hused (by simp [haction, Action.names]) hname) hw
  | retire haction hname => exact hI.retire (hused (by simp [haction, Action.names]) hname) hw
  | run st internal hcurrent => exact hI.runWithRetry (hI.current hw hcurrent) st internal hw
  | runOn haction hname =>
    exact hI.runWithRetry (hused (by simp [haction, Action.names]) hname) _ _ hw

/-! ## Runs -/

/-- **A property holds of every world that is reached** by commands that do no more than it
allows. -/
theorem reached (hI : I.Respected) {allowed : World n → Command n → Prop}
    (hfresh : ∀ replies, I.holds (World.fresh replies))
    (hallowed : ∀ w c, allowed w c → I.Allows w c) (hw : w.Reached allowed) : I.holds w := by
  induction hw with
  | fresh replies => exact hfresh replies
  | step logQueries _ hc ih => exact (hI.run (hallowed _ _ hc) logQueries ih).1

end Respected

end Invariant

end World

end SqlBridge
