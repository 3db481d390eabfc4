import SqlBridge.Proofs.Session.Leak

/-!
# Which session a handle means

Handles are compared by the numbers that their managers gave them, and each manager counts for
itself. So comparing handles of one manager is comparing their sessions, and handles of two managers
are never about one session, whether or not their numbers are the same
(`World.Distinct.session_eq_iff`). This holds in every world that commands reach, also when managers
are called with the handles of others and when sessions cannot be closed.

A manager that is called with its own handles keeps no others, so it gives a handle up only for the
session that is meant (`World.Distinct.not_given_up`). Called with the handle of another manager it
takes its own handle of that number for the one that is meant, gives it up and leaves its session
open (`World.same_of_strangers`).
-/

namespace SqlBridge

variable {n : Nat}

/-- The command uses only handles that its manager gave out. -/
def Command.UsesOwn (w : World n) (c : Command n) : Prop :=
  ∀ name ∈ c.action.names, ∀ h ∈ w.handle? name, h ∈ (w.manager c.manager).issued

instance (w : World n) (c : Command n) : Decidable (c.UsesOwn w) :=
  inferInstanceAs (Decidable (∀ _, _))

namespace World

variable {w w' w'' : World n} {m k : Fin n} {h g : Handle}

/-! ## The invariant -/

/-- No number of a manager and no session was given out twice. -/
structure Distinct (w : World n) : Prop where
  ids : ∀ m, ((w.manager m).issued.map Handle.id).Nodup
  bound : ∀ m, ∀ h ∈ (w.manager m).issued, h.id < (w.manager m).nextId
  opened : ∀ m, ∀ h ∈ (w.manager m).issued, h.session ≤ w.server.opened
  apart : ∀ m k, ∀ h ∈ (w.manager m).issued, ∀ g ∈ (w.manager k).issued,
    h.session = g.session → m = k ∧ h = g

/-- Each manager keeps only handles that it gave out. -/
def Owned (w : World n) : Prop := ∀ m, ∀ h ∈ (w.manager m).handles, h ∈ (w.manager m).issued

/-- In a fresh world nothing was given out, and so nothing twice. -/
theorem distinct_fresh (replies : List (Reply n)) : (World.fresh replies).Distinct := by
  constructor <;> simp [Manager.fresh]

/-- In a fresh world no manager keeps a handle. -/
theorem owned_fresh (replies : List (Reply n)) : (World.fresh replies).Owned := by
  simp [Owned, Manager.handles, Manager.fresh]

/-- No session was opened, and the managers keep no handle that they did not keep before. -/
structure Stays (w w' : World n) : Prop where
  issued : ∀ m, (w'.manager m).issued = (w.manager m).issued
  nextId : ∀ m, (w'.manager m).nextId = (w.manager m).nextId
  handles : ∀ m, ∀ h ∈ (w'.manager m).handles, h ∈ (w.manager m).handles
  opened : w'.server.opened = w.server.opened

/-- Numbers and sessions are kept apart; if managers are called with their own handles only, they
keep no others. -/
def identity (own : Prop) : Invariant n where
  holds w := w.Distinct ∧ (own → w.Owned)
  usable w m h := own → h ∈ (w.manager m).issued
  mayFailClosing := True

variable {own : Prop}

namespace Stays

/-- What leaves the managers and the count of sessions alone leaves everything here as it was. -/
theorem of_managers (hmanagers : w'.managers = w.managers)
    (hopened : w'.server.opened = w.server.opened) : w.Stays w' := by
  have hmanager (m : Fin n) : w'.manager m = w.manager m := by
    rw [World.manager, World.manager, hmanagers]
  exact ⟨fun m => by rw [hmanager], fun m => by rw [hmanager], fun m h hh => hmanager m ▸ hh,
    hopened⟩

/-- One change of the kind after another is one. -/
theorem trans (hfirst : w.Stays w') (hsecond : w'.Stays w'') : w.Stays w'' where
  issued m := (hsecond.issued m).trans (hfirst.issued m)
  nextId m := (hsecond.nextId m).trans (hfirst.nextId m)
  handles m h hh := hfirst.handles m h (hsecond.handles m h hh)
  opened := hsecond.opened.trans hfirst.opened

/-- What stays keeps sessions and numbers apart. -/
theorem keeps (hs : w.Stays w') : (identity own).Keeps w w' := by
  rintro ⟨hw, howned⟩
  refine ⟨⟨⟨?_, ?_, ?_, ?_⟩, fun hown m h hh => ?_⟩, fun m h hh hown => ?_⟩
  · simpa only [hs.issued] using hw.ids
  · simpa only [hs.issued, hs.nextId] using hw.bound
  · simpa only [hs.issued, hs.opened] using hw.opened
  · simpa only [hs.issued] using hw.apart
  · rw [hs.issued]
    exact howned hown m h (hs.handles m h hh)
  · rw [hs.issued]
    exact hh hown

end Stays

/-- Worlds that are alike differ in none of this. -/
theorem Alike.stays (ha : w.Alike w') : w.Stays w' := .of_managers ha.managers ha.opened

/-- A manager that lets handles go takes none in. -/
theorem LetsGo.stays {k : Manager} {l : List Handle} (hl : w.LetsGo m k l w') : w.Stays w' where
  issued j := (hl.manager j).issued
  nextId j := (hl.manager j).nextId
  handles j _ hh := (hl.manager j).mem_handles hh
  opened := hl.opened

/-- A new handle has a new number and a new session. -/
theorem Admits.keeps_identity {k : Manager} (ha : w.Admits m k w')
    (hissued : k.issued = (w.manager m).issued ++ [w.nextHandle m])
    (hnext : k.nextId = (w.manager m).nextId + 1)
    (hhandles : own → w.Owned → ∀ h ∈ k.handles, h ∈ k.issued) :
    (identity own).Keeps w w' := by
  rintro ⟨hw, howned⟩
  have hmem (j : Fin n) (h : Handle) := ha.mem_issued hissued (j := j) (h := h)
  refine ⟨⟨⟨fun j => ?_, fun j h hh => ?_, fun j h hh => ?_, ha.apart hissued hw.opened hw.apart⟩,
    fun hown j h hh => ?_⟩, fun j h hh hown => (hmem j h).2 (.inl (hh hown))⟩
  · by_cases hj : j = m
    · subst hj
      rw [ha.self, hissued]
      exact Manager.nodup_ids_append (hw.ids j) (hw.bound j)
    · rw [ha.others j hj]
      exact hw.ids j
  · by_cases hj : j = m
    · subst hj
      rw [ha.self, hnext]
      rcases (hmem j h).1 hh with hh | ⟨-, rfl⟩
      · exact Nat.lt_succ_of_lt (hw.bound j h hh)
      · exact Nat.lt_succ_self _
    · rw [ha.others j hj] at hh ⊢
      exact hw.bound j h hh
  · rw [ha.opened]
    rcases (hmem j h).1 hh with hh | ⟨-, rfl⟩
    · exact Nat.le_succ_of_le (hw.opened j h hh)
    · exact Nat.le_refl _
  · by_cases hj : j = m
    · subst hj
      rw [ha.self] at hh ⊢
      exact hhandles hown (howned hown) h hh
    · rw [ha.others j hj] at hh ⊢
      exact howned hown j h hh

/-! ## Operations -/

/-- What a manager is after it gave a handle up and closed its session. -/
theorem manager_disconnect (w : World n) (m : Fin n) (h : Handle) :
    (w.disconnect m h).2.manager m =
      if (w.manager m).opened then (w.manager m).release h else w.manager m := by
  rw [disconnect]
  split
  · exact manager_update_self w m fun k => k.release h
  · rfl

/-- What a manager is after it retired a handle. -/
theorem manager_retire (w : World n) (m : Fin n) (h : Handle) :
    (w.retire m h).2.manager m = (w.manager m).unqueue h :=
  manager_update_self w m fun k => k.unqueue h

/-- A connection gives out a new handle, which is the only one that its manager takes in. -/
theorem identity_connect (w : World n) (m : Fin n) (config : ConnectionConfig) :
    (identity own).Keeps w (w.connect m config).2 ∧ ∀ h, (w.connect m config).1 = .ok h →
      (identity own).usable (w.connect m config).2 m h := by
  rcases w.connect_cases m config with ⟨⟨e, hresult⟩, halike⟩ | ⟨hresult, hadmits⟩
  · exact ⟨halike.stays.keeps, by simp [hresult]⟩
  · have hissued := Manager.issued_install (w.manager m) (w.nextHandle m) config
    refine ⟨hadmits.keeps_identity hissued ?_ fun hown howned h hh => ?_, fun h hh hown => ?_⟩
    · rw [Manager.install_eq]
      rfl
    · rw [hissued]
      rcases Manager.mem_handles_install.1 hh with hh | rfl
      · exact List.mem_append_left _ (howned m h hh)
      · exact List.mem_append_right _ (List.mem_singleton_self _)
    · rw [hresult, Except.ok.injEq] at hh
      exact (hadmits.mem_issued hissued).2 (.inr ⟨rfl, hh.symm⟩)

/-- A reconnection gives out a new handle; its manager takes in this one and the lost one. -/
theorem identity_reconnect {lost : Handle} (hlost : own → lost ∈ (w.manager m).issued) :
    (identity own).Keeps w (w.reconnect m lost).2 ∧ ∀ h, (w.reconnect m lost).1 = .ok h →
      (identity own).usable (w.reconnect m lost).2 m h := by
  rcases w.reconnect_cases m lost with ⟨⟨e, hresult⟩, halike⟩ | ⟨hresult, hadmits⟩
  · exact ⟨halike.stays.keeps, by simp [hresult]⟩
  · have hissued :=
      Manager.issued_adopt ((w.manager m).issue (w.nextHandle m)) lost (w.nextHandle m)
    refine ⟨hadmits.keeps_identity hissued ?_ fun hown howned h hh => ?_, fun h hh hown => ?_⟩
    · rw [Manager.nextId_adopt]
      rfl
    · rw [hissued]
      rcases Manager.mem_handles_of_adopt hh with hh | rfl | rfl
      · exact List.mem_append_left _ (howned m h hh)
      · exact List.mem_append_left _ (hlost hown)
      · exact List.mem_append_right _ (List.mem_singleton_self _)
    · rw [hresult, Except.ok.injEq] at hh
      exact (hadmits.mem_issued hissued).2 (.inr ⟨rfl, hh.symm⟩)

/-- **Every operation keeps numbers and sessions apart**, with handles of other managers as well,
and whether or not sessions can be closed. -/
theorem respected_identity (own : Prop) : (identity own : Invariant n).Respected where
  alike h := h.stays.keeps
  current hw hcurrent hown := hw.2 hown _ _ (Manager.mem_handles.2 (.inl hcurrent))
  connect := identity_connect
  reconnect := identity_reconnect
  disconnect := fun {w m h} _ => by
    rcases w.disconnect_cases m h with hsame | hl
    · rw [hsame]
      exact .refl w
    · exact hl.stays.keeps
  retire _ := (letsGo_retire _ _ _).stays.keeps
  disconnectAll w m := (w.letsGo_disconnectAll m).stays.keeps
  closeStale w m held := (w.letsGo_closeStale m held).stays.keeps
  names := fun {w names} _ => by
    have hstays : w.Stays { w with names } := .of_managers rfl rfl
    exact hstays.keeps
  failClose w error _ := by
    have hstays : w.Stays { w with server := { w.server with closeFailure := error } } :=
      .of_managers rfl rfl
    exact hstays.keeps

/-! ## Handles and sessions -/

/-- **Two handles mean one session when one manager gave them out and their numbers are the
same.** -/
theorem Distinct.session_eq_iff (hw : w.Distinct) (hh : h ∈ (w.manager m).issued)
    (hg : g ∈ (w.manager k).issued) : h.session = g.session ↔ m = k ∧ h.same g := by
  constructor
  · intro heq
    obtain ⟨rfl, rfl⟩ := hw.apart m k h hh g hg heq
    exact ⟨rfl, beq_self_eq_true h.id⟩
  · rintro ⟨rfl, hsame⟩
    exact congrArg Handle.session
      (List.inj_on_of_nodup_map (hw.ids m) hh hg (beq_iff_eq.1 hsame))

/-- A manager that keeps only handles that it gave out gives none up for another session. -/
theorem Distinct.not_given_up (hw : w.Distinct) (howned : w.Owned) (hh : h ∈ (w.manager m).issued)
    (hg : g ∈ (w.manager m).handles) (hne : g.session ≠ h.session) :
    g ∈ ((w.disconnect m h).2.manager m).handles ∧ g ∈ ((w.retire m h).2.manager m).handles ∧
      g ∈ ((w.reconnect m h).2.manager m).handles := by
  have hother : g.same h = false := by
    rw [← Bool.not_eq_true]
    exact fun hsame => hne ((hw.session_eq_iff (howned m g hg) hh).2 ⟨rfl, hsame⟩)
  refine ⟨?_, ?_, ?_⟩
  · rw [manager_disconnect]
    split
    · exact Manager.mem_handles_release_of_not_same hg hother
    · exact hg
  · rw [manager_retire, Manager.mem_handles]
    exact (Manager.mem_handles.1 hg).imp_right fun hs => Manager.mem_unqueue_of_not_same hs hother
  · rcases w.reconnect_cases m h with ⟨-, halike⟩ | ⟨-, hadmits⟩
    · rw [halike.manager]
      exact hg
    · rw [hadmits.self]
      refine Manager.mem_handles_adopt_of_mem (fun a ha b hb hsame => ?_) hg
      have hissued (x : Handle) (hx : x = h ∨ x ∈ (w.manager m).handles) :
          x ∈ (w.manager m).issued := hx.elim (fun heq => heq ▸ hh) (howned m x)
      exact List.inj_on_of_nodup_map (hw.ids m) (hissued a ha) (hissued b hb) (beq_iff_eq.1 hsame)

/-- **What handles say about sessions.** In every world that commands reach, two handles mean the
same session exactly when they were given out by one manager and compare equal. And where managers
are called only with handles that they gave out, no manager gives up a current or a queued handle
unless its own session is meant. -/
theorem handles_mean_sessions (w : World n) :
    ((w.Reached fun _ _ => True) →
      ∀ m k, ∀ h ∈ (w.manager m).issued, ∀ g ∈ (w.manager k).issued,
        h.session = g.session ↔ m = k ∧ h.same g) ∧
    (w.Reached Command.UsesOwn →
      ∀ m, ∀ h ∈ (w.manager m).issued, ∀ g ∈ (w.manager m).handles, g.session ≠ h.session →
        g ∈ ((w.disconnect m h).2.manager m).handles ∧ g ∈ ((w.retire m h).2.manager m).handles ∧
          g ∈ ((w.reconnect m h).2.manager m).handles) := by
  constructor
  · intro hw m k h hh g hg
    have hdistinct := (respected_identity False).reached
      (fun replies => ⟨distinct_fresh replies, nofun⟩)
      (fun _ _ _ => ⟨fun _ _ _ _ => nofun, fun _ => trivial⟩) hw
    exact hdistinct.1.session_eq_iff hh hg
  · intro hw m h hh g hg hne
    obtain ⟨hdistinct, howned⟩ := (respected_identity True).reached
      (fun replies => ⟨distinct_fresh replies, fun _ => owned_fresh replies⟩)
      (fun _ _ huses => ⟨fun name hname h hh _ => huses name hname h hh, fun _ => trivial⟩) hw
    exact hdistinct.not_given_up (howned trivial) hh hg hne

/-- A world whose managers have had two sessions and one, none of which can be closed now. -/
def crowded : World 2 :=
  Command.runAll false
    [⟨0, .connect someConfig (some "a")⟩, ⟨0, .connect someConfig (some "b")⟩,
      ⟨1, .connect someConfig (some "c")⟩, ⟨0, .failClose (some (.connection "busy"))⟩]
    (World.fresh [])

/-- The first handles of two managers mean different sessions, and the queued handle of one manager
stays when its current one is given up. -/
theorem handles_mean_sessions_crowded :
    ¬(⟨1, 1⟩ : Handle).session = (⟨1, 3⟩ : Handle).session ∧
      ⟨1, 1⟩ ∈ ((crowded.disconnect 0 ⟨2, 2⟩).2.manager 0).handles := by
  have hany : crowded.Reached fun _ _ => True :=
    .step false (.step false (.step false (.step false (.fresh []) trivial) trivial) trivial)
      trivial
  have hown : crowded.Reached Command.UsesOwn := by
    refine .step false (.step false (.step false (.step false (.fresh []) ?_) ?_) ?_) ?_
    all_goals decide +kernel
  have hfirst : ⟨1, 1⟩ ∈ (crowded.manager 0).issued := by decide +kernel
  have hsecond : ⟨2, 2⟩ ∈ (crowded.manager 0).issued := by decide +kernel
  have hthird : ⟨1, 3⟩ ∈ (crowded.manager 1).issued := by decide +kernel
  have hqueued : ⟨1, 1⟩ ∈ (crowded.manager 0).handles := by decide +kernel
  refine ⟨fun hsame => ?_, ?_⟩
  · exact absurd (((handles_mean_sessions crowded).1 hany 0 1 _ hfirst _ hthird).1 hsame).1
      (by decide)
  · exact ((handles_mean_sessions crowded).2 hown 0 _ hsecond _ hqueued (by decide)).1

/-- A world whose managers have had one session each. -/
def strangers : World 2 :=
  Command.runAll false
    [⟨0, .connect someConfig (some "x")⟩, ⟨1, .connect someConfig (some "y")⟩] (World.fresh [])

/-- Handles of two managers compare equal and mean different sessions. A manager that is told to
disconnect the other one's handle gives up its own, whose session stays open with nobody to close
it. -/
theorem same_of_strangers :
    (strangers.Reached fun _ _ => True) ∧ strangers.handle? "x" = some ⟨1, 1⟩ ∧
      strangers.handle? "y" = some ⟨1, 2⟩ ∧ ⟨1, 1⟩ ∈ (strangers.manager 0).issued ∧
      ⟨1, 2⟩ ∈ (strangers.manager 1).issued ∧ (⟨1, 1⟩ : Handle).same ⟨1, 2⟩ ∧
      (strangers.manager 0).current = some ⟨1, 1⟩ ∧
      ((strangers.disconnect 0 ⟨1, 2⟩).2.manager 0).handles = [] ∧
      (strangers.disconnect 0 ⟨1, 2⟩).2.isClosed ⟨1, 1⟩ = false := by
  refine ⟨.step false (.step false (.fresh []) trivial) trivial, ?_⟩
  decide +kernel

end World

end SqlBridge
