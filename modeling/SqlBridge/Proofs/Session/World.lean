import SqlBridge.Proofs.Session.Manager

/-!
# What managers and their server keep to

`World.Sound` is the invariant of managers that share a server whose sessions can be closed: every
session was given out by one manager in one handle, and a manager keeps the handle of each session
that it opened until the session is closed. `World.Keeps` says that a step keeps the invariant and
forgets no handle.

There are three kinds of steps. Some only ask, answer and log (`World.Alike`), some open a session
that one manager takes in (`World.Admits`), and in the others one manager lets handles go and
sessions are closed (`World.LetsGo`). Each operation of a manager is shown to be one of these, and
each kind of step to keep the invariant.
-/

namespace SqlBridge.World

variable {n : Nat} {w w' w'' : World n} {m : Fin n} {h g : Handle}

/-- What holds of managers that share a server. -/
structure Sound (w : World n) : Prop where
  /-- Sessions can be closed. -/
  closes : w.server.closeFailure = none
  managers : ∀ m, (w.manager m).Sound
  opened : ∀ m, ∀ h ∈ (w.manager m).issued, 0 < h.session ∧ h.session ≤ w.server.opened
  /-- Every session was given out. -/
  covered : ∀ s, 0 < s → s ≤ w.server.opened → ∃ m, ∃ h ∈ (w.manager m).issued, h.session = s
  /-- No session was given out twice. -/
  apart : ∀ m k, ∀ h ∈ (w.manager m).issued, ∀ g ∈ (w.manager k).issued,
    h.session = g.session → m = k ∧ h = g
  closed : ∀ s ∈ w.server.closed, s ≤ w.server.opened
  /-- A session is closed or kept. -/
  kept : ∀ m, ∀ h ∈ (w.manager m).issued, w.isClosed h = false → h ∈ (w.manager m).handles
  /-- Callers have handles that were given out. -/
  named : ∀ h ∈ w.names.values, ∃ m, h ∈ (w.manager m).issued

/-- A step keeps the invariant, and what was given out stays given out. -/
def Keeps (w w' : World n) : Prop :=
  w.Sound → w'.Sound ∧ ∀ m, ∀ h ∈ (w.manager m).issued, h ∈ (w'.manager m).issued

/-- Two steps that keep the invariant keep it together. -/
theorem Keeps.trans (hfirst : w.Keeps w') (hsecond : w'.Keeps w'') : w.Keeps w'' := by
  intro hw
  obtain ⟨hw', hissued⟩ := hfirst hw
  obtain ⟨hw'', hissued'⟩ := hsecond hw'
  exact ⟨hw'', fun m h hh => hissued' m h (hissued m h hh)⟩

/-- A handle is closed exactly if its session is among the closed ones. -/
theorem isClosed_iff : w.isClosed h = true ↔ h.session ∈ w.server.closed := by
  simp [isClosed, Server.isClosed]

/-- A server that nobody has used is sound. -/
theorem sound_fresh (replies : List (Reply n)) : (World.fresh replies).Sound := by
  refine ⟨rfl, ?_, ?_, ?_, ?_, ?_, ?_, ?_⟩
  · intro m
    rw [manager_fresh]
    exact Manager.sound_fresh
  · simp [Manager.fresh]
  · intro s hpos hle
    exact absurd hle (Nat.not_le_of_lt hpos)
  · simp [Manager.fresh]
  · simp [World.fresh, Server.fresh]
  · simp [Manager.fresh]
  · simp [World.fresh, Named.values, Named.empty]

/-! ## Asking, answering and logging -/

/-- Worlds that differ in no more than what was asked, answered and logged. -/
structure Alike (w w' : World n) : Prop where
  managers : w'.managers = w.managers
  names : w'.names = w.names
  opened : w'.server.opened = w.server.opened
  closed : w'.server.closed = w.server.closed
  closeFailure : w'.server.closeFailure = w.server.closeFailure

namespace Alike

/-- Alikeness goes through from step to step. -/
theorem trans (hfirst : w.Alike w') (hsecond : w'.Alike w'') : w.Alike w'' :=
  ⟨hsecond.managers.trans hfirst.managers, hsecond.names.trans hfirst.names,
    hsecond.opened.trans hfirst.opened, hsecond.closed.trans hfirst.closed,
    hsecond.closeFailure.trans hfirst.closeFailure⟩

/-- Every manager is the same in alike worlds. -/
theorem manager (ha : w.Alike w') (m : Fin n) : w'.manager m = w.manager m := by
  rw [World.manager, World.manager, ha.managers]

/-- The same handles are closed in alike worlds. -/
theorem isClosed (ha : w.Alike w') (h : Handle) : w'.isClosed h = w.isClosed h := by
  rw [World.isClosed, World.isClosed, Server.isClosed, Server.isClosed, ha.closed]

/-- Asking, answering and logging keep the invariant. -/
theorem keeps (ha : w.Alike w') : w.Keeps w' := by
  intro hw
  refine ⟨⟨?_, ?_, ?_, ?_, ?_, ?_, ?_, ?_⟩, ?_⟩
  · exact ha.closeFailure.trans hw.closes
  · simpa only [ha.manager] using hw.managers
  · simpa only [ha.manager, ha.opened] using hw.opened
  · simpa only [ha.manager, ha.opened] using hw.covered
  · simpa only [ha.manager] using hw.apart
  · simpa only [ha.opened, ha.closed] using hw.closed
  · simpa only [ha.manager, ha.isClosed] using hw.kept
  · simpa only [ha.manager, ha.names] using hw.named
  · simp only [ha.manager, imp_self, implies_true]

end Alike

/-- A note changes the log alone. -/
theorem alike_note (w : World n) (e : LogEvent) : w.Alike (w.note e) := ⟨rfl, rfl, rfl, rfl, rfl⟩

/-! ## Opening sessions -/

/-- The handle that a manager gives out next. -/
def nextHandle (w : World n) (m : Fin n) : Handle := ⟨(w.manager m).nextId, w.server.opened + 1⟩

/-- A session was opened, and one manager has taken it in and is now as given. -/
structure Admits (w : World n) (m : Fin n) (k : Manager) (w' : World n) : Prop where
  self : w'.manager m = k
  others : ∀ k, k ≠ m → w'.manager k = w.manager k
  names : w'.names = w.names
  opened : w'.server.opened = w.server.opened + 1
  closed : w'.server.closed = w.server.closed
  closeFailure : w'.server.closeFailure = w.server.closeFailure

/-- The next handle belongs to no session that was given out. -/
theorem Sound.session_ne_nextHandle (hw : w.Sound) {k : Fin n} (hh : h ∈ (w.manager k).issued) :
    h.session ≠ (w.nextHandle m).session :=
  Nat.ne_of_lt (Nat.lt_succ_of_le (hw.opened k h hh).2)

/-- What was given out is the next handle, or was given out before. -/
theorem Admits.mem_issued {k : Manager} (ha : w.Admits m k w')
    (hissued : k.issued = (w.manager m).issued ++ [w.nextHandle m]) {j : Fin n} :
    h ∈ (w'.manager j).issued ↔ h ∈ (w.manager j).issued ∨ j = m ∧ h = w.nextHandle m := by
  by_cases hj : j = m
  · subst hj
    simp [ha.self, hissued]
  · simp [ha.others j hj, hj]

/-- The session of the next handle is a new one. -/
theorem Admits.apart {k : Manager} (ha : w.Admits m k w')
    (hissued : k.issued = (w.manager m).issued ++ [w.nextHandle m])
    (hopened : ∀ j, ∀ h ∈ (w.manager j).issued, h.session ≤ w.server.opened)
    (hapart : ∀ i j, ∀ h ∈ (w.manager i).issued, ∀ g ∈ (w.manager j).issued,
      h.session = g.session → i = j ∧ h = g) :
    ∀ i j, ∀ h ∈ (w'.manager i).issued, ∀ g ∈ (w'.manager j).issued,
      h.session = g.session → i = j ∧ h = g := by
  have hnew (j : Fin n) {h : Handle} (hh : h ∈ (w.manager j).issued) :
      h.session ≠ (w.nextHandle m).session := Nat.ne_of_lt (Nat.lt_succ_of_le (hopened j h hh))
  intro i j h hh g hg heq
  rcases (ha.mem_issued hissued).1 hh with hh | ⟨rfl, rfl⟩ <;>
    rcases (ha.mem_issued hissued).1 hg with hg | ⟨rfl, rfl⟩
  · exact hapart i j h hh g hg heq
  · exact absurd heq (hnew i hh)
  · exact absurd heq.symm (hnew j hg)
  · exact ⟨rfl, rfl⟩

/-- A world in which a manager has taken in the next handle is sound when the manager is, keeps the
handle and has kept its others. -/
theorem Admits.keeps {k : Manager} (ha : w.Admits m k w') (hk : (w.manager m).Sound → k.Sound)
    (hissued : k.issued = (w.manager m).issued ++ [w.nextHandle m])
    (hnew : w.nextHandle m ∈ k.handles) (hold : ∀ g ∈ (w.manager m).handles, g ∈ k.handles) :
    w.Keeps w' := by
  intro hw
  have hmono : ∀ j, ∀ h ∈ (w.manager j).issued, h ∈ (w'.manager j).issued := fun j h hh =>
    (ha.mem_issued hissued).2 (.inl hh)
  have hsplit : ∀ j, ∀ h ∈ (w'.manager j).issued,
      h ∈ (w.manager j).issued ∨ (j = m ∧ h = w.nextHandle m) := fun j h =>
    (ha.mem_issued hissued).1
  refine ⟨⟨ha.closeFailure.trans hw.closes, ?_, ?_, ?_, ?_, ?_, ?_, ?_⟩, hmono⟩
  · intro j
    by_cases hj : j = m
    · subst hj
      rw [ha.self]
      exact hk (hw.managers j)
    · rw [ha.others j hj]
      exact hw.managers j
  · intro j h hh
    rw [ha.opened]
    rcases hsplit j h hh with hh | ⟨-, rfl⟩
    · obtain ⟨hpos, hle⟩ := hw.opened j h hh
      exact ⟨hpos, Nat.le_succ_of_le hle⟩
    · exact ⟨Nat.succ_pos _, Nat.le_refl _⟩
  · intro s hpos hle
    rw [ha.opened] at hle
    rcases Nat.le_or_eq_of_le_succ hle with hle | rfl
    · obtain ⟨j, h, hh, rfl⟩ := hw.covered s hpos hle
      exact ⟨j, h, hmono j h hh, rfl⟩
    · refine ⟨m, w.nextHandle m, ?_, rfl⟩
      rw [ha.self, hissued]
      simp
  · exact ha.apart hissued (fun j h hh => (hw.opened j h hh).2) hw.apart
  · intro s hs
    rw [ha.closed] at hs
    rw [ha.opened]
    exact Nat.le_succ_of_le (hw.closed s hs)
  · intro j h hh hclosed
    have hopen : w.isClosed h = false := by
      rw [← hclosed, World.isClosed, World.isClosed, Server.isClosed, Server.isClosed, ha.closed]
    rcases hsplit j h hh with hh | ⟨rfl, rfl⟩
    · have hkept := hw.kept j h hh hopen
      by_cases hj : j = m
      · subst hj
        rw [ha.self]
        exact hold h hkept
      · rw [ha.others j hj]
        exact hkept
    · rw [ha.self]
      exact hnew
  · intro h hh
    rw [ha.names] at hh
    obtain ⟨j, hj⟩ := hw.named h hh
    exact ⟨j, hmono j h hj⟩

/-- A session that is not refused is given out as the next handle. -/
theorem openHandle_ok (config : ConnectionConfig) (hrefusal : w.server.refusal = none) :
    w.openHandle m config = (.ok (w.nextHandle m),
      { w with
        server :=
          { w.server with
            requests := w.server.requests ++ [config], opened := w.server.opened + 1 } }.update m
        fun k => k.issue (w.nextHandle m)) := by
  simp [openHandle, Server.openSession, hrefusal, nextHandle, manager]

/-- A server that refuses opens no session, but the request has been made. -/
theorem openHandle_error (config : ConnectionConfig) {e : Error}
    (hrefusal : w.server.refusal = some e) :
    w.openHandle m config = (.error e,
      { w with server := { w.server with requests := w.server.requests ++ [config] } }) := by
  simp [openHandle, Server.openSession, hrefusal]

/-- A connection that is accepted becomes the current one. -/
theorem connect_ok {config : ConnectionConfig} {u : Unit} (hvalid : config.validate = .ok u)
    (hrefusal : w.server.refusal = none) :
    (w.connect m config).1 = .ok (w.nextHandle m) ∧
      w.Admits m (((w.manager m).issue (w.nextHandle m)).install (w.nextHandle m) config)
        (w.connect m config).2 := by
  rw [connect, hvalid]
  simp only [openHandle_ok config hrefusal]
  refine ⟨trivial, ?_, fun k hk => ?_, rfl, rfl, rfl, rfl⟩
  · simp
    rfl
  · rw [manager_update_of_ne _ _ hk, manager_note, manager_update_of_ne _ _ hk]
    rfl

/-- A connection that is not accepted changes nothing. -/
theorem connect_error {config : ConnectionConfig} {e : Error}
    (hfail : config.validate = .error e ∨
      (∃ u, config.validate = .ok u) ∧ w.server.refusal = some e) :
    (w.connect m config).1 = .error e ∧ w.Alike (w.connect m config).2 := by
  rw [connect]
  rcases hfail with hvalid | ⟨⟨u, hvalid⟩, hrefusal⟩
  · simp only [hvalid]
    exact ⟨trivial, rfl, rfl, rfl, rfl, rfl⟩
  · simp only [hvalid, openHandle_error config hrefusal]
    exact ⟨trivial, rfl, rfl, rfl, rfl, rfl⟩

/-- A reconnection with settings and without a refusal puts the next handle in the place of the
lost one. -/
theorem reconnect_ok (lost : Handle) (hconfig : (w.manager m).config.isSome)
    (hrefusal : w.server.refusal = none) :
    (w.reconnect m lost).1 = .ok (w.nextHandle m) ∧
      w.Admits m (((w.manager m).issue (w.nextHandle m)).adopt lost (w.nextHandle m))
        (w.reconnect m lost).2 := by
  obtain ⟨config, hconfig⟩ := Option.isSome_iff_exists.1 hconfig
  let noted := w.note (.reconnecting Server.driverName lost.id)
  have hopen := openHandle_ok (w := noted) (m := m) config hrefusal
  have hnext : noted.nextHandle m = w.nextHandle m := rfl
  rw [reconnect, reopen, hconfig]
  simp only [noted] at hopen hnext
  simp only [hopen, hnext]
  refine ⟨trivial, ?_, fun k hk => ?_, rfl, rfl, rfl, rfl⟩
  · simp
    rfl
  · rw [manager_update_of_ne _ _ hk, manager_update_of_ne _ _ hk]
    rfl

/-- A reconnection without settings or with a refusal changes nothing. -/
theorem reconnect_error (lost : Handle) {e : Error}
    (hfail : (w.manager m).config = none ∧ e = .notConnected .neverConnected ∨
      (w.manager m).config.isSome ∧ w.server.refusal = some e) :
    (w.reconnect m lost).1 = .error e ∧ w.Alike (w.reconnect m lost).2 := by
  rw [reconnect, reopen]
  rcases hfail with ⟨hconfig, rfl⟩ | ⟨hconfig, hrefusal⟩
  · simp only [hconfig]
    exact ⟨trivial, rfl, rfl, rfl, rfl, rfl⟩
  · obtain ⟨config, hconfig⟩ := Option.isSome_iff_exists.1 hconfig
    have hopen := openHandle_error (w := w.note (.reconnecting Server.driverName lost.id)) (m := m)
      config hrefusal
    simp only [hconfig, hopen]
    exact ⟨trivial, rfl, rfl, rfl, rfl, rfl⟩

/-- A connection fails and changes nothing, or the next handle becomes the current one. -/
theorem connect_cases (w : World n) (m : Fin n) (config : ConnectionConfig) :
    (∃ e, (w.connect m config).1 = .error e) ∧ w.Alike (w.connect m config).2 ∨
      (w.connect m config).1 = .ok (w.nextHandle m) ∧
        w.Admits m (((w.manager m).issue (w.nextHandle m)).install (w.nextHandle m) config)
          (w.connect m config).2 := by
  cases hvalid : config.validate with
  | error e =>
    obtain ⟨hresult, halike⟩ := connect_error (w := w) (m := m) (.inl hvalid)
    exact .inl ⟨⟨e, hresult⟩, halike⟩
  | ok u =>
    cases hrefusal : w.server.refusal with
    | some e =>
      obtain ⟨hresult, halike⟩ := connect_error (m := m) (.inr ⟨⟨u, hvalid⟩, hrefusal⟩)
      exact .inl ⟨⟨e, hresult⟩, halike⟩
    | none => exact .inr (connect_ok hvalid hrefusal)

/-- A reconnection fails and changes nothing, or the next handle takes the place of the lost one. -/
theorem reconnect_cases (w : World n) (m : Fin n) (lost : Handle) :
    (∃ e, (w.reconnect m lost).1 = .error e) ∧ w.Alike (w.reconnect m lost).2 ∨
      (w.reconnect m lost).1 = .ok (w.nextHandle m) ∧
        w.Admits m (((w.manager m).issue (w.nextHandle m)).adopt lost (w.nextHandle m))
          (w.reconnect m lost).2 := by
  cases hconfig : (w.manager m).config with
  | none =>
    obtain ⟨hresult, halike⟩ := reconnect_error lost (.inl ⟨hconfig, rfl⟩)
    exact .inl ⟨⟨_, hresult⟩, halike⟩
  | some config =>
    have hsome : (w.manager m).config.isSome := by simp [hconfig]
    cases hrefusal : w.server.refusal with
    | some e =>
      obtain ⟨hresult, halike⟩ := reconnect_error lost (.inr ⟨hsome, hrefusal⟩)
      exact .inl ⟨⟨e, hresult⟩, halike⟩
    | none => exact .inr (reconnect_ok lost hsome hrefusal)

/-- Connecting keeps the invariant, and gives a handle out that is kept on record. -/
theorem keeps_connect (w : World n) (m : Fin n) (config : ConnectionConfig) :
    w.Keeps (w.connect m config).2 ∧
      ∀ h, (w.connect m config).1 = .ok h → h ∈ ((w.connect m config).2.manager m).issued := by
  rcases w.connect_cases m config with ⟨⟨e, hresult⟩, halike⟩ | ⟨hresult, hadmits⟩
  · exact ⟨halike.keeps, by simp [hresult]⟩
  · have hissued := Manager.issued_install (w.manager m) (w.nextHandle m) config
    refine ⟨hadmits.keeps (fun hk => hk.install rfl config) hissued
      (Manager.mem_handles_install.2 (.inr rfl))
      fun g hg => Manager.mem_handles_install.2 (.inl hg), fun h hh => ?_⟩
    rw [hresult, Except.ok.injEq] at hh
    exact (hadmits.mem_issued hissued).2 (.inr ⟨rfl, hh.symm⟩)

/-- Reconnecting for a handle that was given out keeps the invariant, and gives a handle out that is
kept on record. -/
theorem keeps_reconnect {lost : Handle} (hlost : lost ∈ (w.manager m).issued) :
    w.Keeps (w.reconnect m lost).2 ∧
      ∀ h, (w.reconnect m lost).1 = .ok h → h ∈ ((w.reconnect m lost).2.manager m).issued := by
  rcases w.reconnect_cases m lost with ⟨⟨e, hresult⟩, halike⟩ | ⟨hresult, hadmits⟩
  · exact ⟨halike.keeps, by simp [hresult]⟩
  · have hissued :=
      Manager.issued_adopt ((w.manager m).issue (w.nextHandle m)) lost (w.nextHandle m)
    refine ⟨fun hw => ?_, fun h hh => ?_⟩
    · have hhandles (g : Handle) := Manager.mem_handles_adopt (h := w.nextHandle m) (g := g)
        (hw.managers m) rfl hlost
      exact hadmits.keeps (fun hk => hk.adopt rfl hlost) hissued
        ((hhandles _).2 (.inr (.inr rfl))) (fun g hg => (hhandles g).2 (.inl hg)) hw
    · rw [hresult, Except.ok.injEq] at hh
      exact (hadmits.mem_issued hissued).2 (.inr ⟨rfl, hh.symm⟩)

/-! ## Closing sessions -/

/-- Closing a session changes nothing but which are closed, and that only if sessions can be
closed. -/
theorem close_eq (w : World n) (h : Handle) :
    ∃ closed, (w.close h).2 = { w with server := { w.server with closed } } ∧
      ∀ s, s ∈ closed ↔
        s ∈ w.server.closed ∨ w.server.closeFailure = none ∧ h.session = s := by
  obtain ⟨⟨replies, refusal, closeFailure, requests, opened, closed, sent⟩, managers, names,
    log⟩ := w
  rw [close, Server.close]
  cases closeFailure with
  | some e => exact ⟨closed, rfl, by simp⟩
  | none =>
    simp only [Server.isClosed, List.contains_iff_mem]
    split
    · next hmem => exact ⟨closed, rfl, fun s => ⟨.inl, by rintro (hs | ⟨-, rfl⟩) <;> assumption⟩⟩
    · exact ⟨closed ++ [h.session], rfl, by simp [eq_comm]⟩

/-- To close a session opens none. -/
theorem opened_close (w : World n) (h : Handle) :
    (w.close h).2.server.opened = w.server.opened := by
  obtain ⟨closed, heq, -⟩ := w.close_eq h
  rw [heq]

/-- Closing several changes nothing else either. -/
theorem closeEach_eq (w : World n) (l : List Handle) :
    ∃ closed, w.closeEach l = { w with server := { w.server with closed } } ∧
      ∀ s, s ∈ closed ↔
        s ∈ w.server.closed ∨ w.server.closeFailure = none ∧ ∃ h ∈ l, h.session = s := by
  induction l generalizing w with
  | nil => exact ⟨w.server.closed, rfl, by simp⟩
  | cons h l ih =>
    obtain ⟨first, hfirst, hmem⟩ := w.close_eq h
    obtain ⟨closed, heq, hmem'⟩ := ih (w.close h).2
    refine ⟨closed, ?_, fun s => ?_⟩
    · rw [closeEach, List.foldl_cons, ← closeEach, heq, hfirst]
    · rw [hmem' s, hfirst]
      simp only [hmem, List.mem_cons, exists_eq_or_imp, or_assoc, and_or_left]

/-- One manager has let handles go and is now as given, and the sessions of a list of handles were
closed or failed to be. -/
structure LetsGo (w : World n) (m : Fin n) (k : Manager) (l : List Handle) (w' : World n) :
    Prop where
  self : w'.manager m = k
  others : ∀ j, j ≠ m → w'.manager j = w.manager j
  names : w'.names = w.names
  letsGo : (w.manager m).LetsGo k
  server : ∃ closed, w'.server = { w.server with closed } ∧ ∀ s, s ∈ closed ↔
    s ∈ w.server.closed ∨ w.server.closeFailure = none ∧ ∃ h ∈ l, h.session = s

/-- A manager that lets handles go, and their sessions are closed one by one. -/
theorem letsGo_closeEach (w : World n) (m : Fin n) (change : Manager → Manager)
    (hchange : (w.manager m).LetsGo (change (w.manager m))) (l : List Handle) :
    w.LetsGo m (change (w.manager m)) l ((w.update m change).closeEach l) := by
  obtain ⟨closed, heq, hclosed⟩ := (w.update m change).closeEach_eq l
  rw [heq]
  exact ⟨manager_update_self w m change, fun j hj => manager_update_of_ne w change hj, rfl, hchange,
    closed, rfl, hclosed⟩

/-- Retiring takes a handle out of the queue and closes its session. -/
theorem letsGo_retire (w : World n) (m : Fin n) (h : Handle) :
    w.LetsGo m ((w.manager m).unqueue h) [h] (w.retire m h).2 :=
  w.letsGo_closeEach m (·.unqueue h) (Manager.letsGo_unqueue _ h) [h]

/-- Disconnecting gives a handle up and closes its session, or fails and changes nothing. -/
theorem disconnect_cases (w : World n) (m : Fin n) (h : Handle) :
    (w.disconnect m h).2 = w ∨
      w.LetsGo m ((w.manager m).release h) [h] (w.disconnect m h).2 := by
  rw [disconnect]
  split
  · exact .inr (w.letsGo_closeEach m (·.release h) (Manager.letsGo_release _ h) [h])
  · exact .inl rfl

/-- A handle that waits and to which there is no reference but the one in the queue. -/
def isIdle (w : World n) (held : List Handle) (h : Handle) : Bool :=
  w.references held h.session == 1

/-- A sweep takes the idle handles out of the queue, where the others wait on in their order, and
closes their sessions. -/
theorem letsGo_closeStale (w : World n) (m : Fin n) (held : List Handle) :
    w.LetsGo m
      { w.manager m with stale := (w.manager m).stale.filter fun h => !w.isIdle held h }
      ((w.manager m).stale.filter (w.isIdle held)) (w.closeStale m held).2 := by
  rw [closeStale, List.partition_eq_filter_filter]
  exact w.letsGo_closeEach m
    (fun k => { k with stale := (w.manager m).stale.filter fun h => !w.isIdle held h })
    (Manager.letsGo_filter _ _) _

/-- Closing everything is letting all handles go and closing their sessions. -/
theorem disconnectAll_eq (w : World n) (m : Fin n) :
    (w.disconnectAll m).2 = (w.update m Manager.releaseAll).closeEach
      ((w.manager m).stale ++ (w.manager m).current.toList) := by
  rw [disconnectAll, closeEach, closeEach, List.foldl_append]
  cases (w.manager m).current <;> rfl

/-- All handles are let go, the current one and those that wait, and their sessions are closed. -/
theorem letsGo_disconnectAll (w : World n) (m : Fin n) :
    w.LetsGo m (w.manager m).releaseAll ((w.manager m).stale ++ (w.manager m).current.toList)
      (w.disconnectAll m).2 := by
  rw [disconnectAll_eq]
  exact w.letsGo_closeEach m _ (Manager.letsGo_releaseAll _) _

namespace LetsGo

variable {k : Manager} {l : List Handle}

/-- Every manager has at most let handles go. -/
theorem manager (hl : w.LetsGo m k l w') (j : Fin n) : (w.manager j).LetsGo (w'.manager j) := by
  by_cases hj : j = m
  · subst hj
    rw [hl.self]
    exact hl.letsGo
  · rw [hl.others j hj]
    exact .refl _

/-- To let handles go opens no session. -/
theorem opened (hl : w.LetsGo m k l w') : w'.server.opened = w.server.opened := by
  obtain ⟨closed, hserver, -⟩ := hl.server
  rw [hserver]

/-- To let handles go does not make closing fail, nor succeed again. -/
theorem closeFailure (hl : w.LetsGo m k l w') :
    w'.server.closeFailure = w.server.closeFailure := by
  obtain ⟨closed, hserver, -⟩ := hl.server
  rw [hserver]

/-- To let handles go asks for no session. -/
theorem requests (hl : w.LetsGo m k l w') : w'.server.requests = w.server.requests := by
  obtain ⟨closed, hserver, -⟩ := hl.server
  rw [hserver]

/-- To let handles go sends no statement. -/
theorem sent (hl : w.LetsGo m k l w') : w'.server.sent = w.server.sent := by
  obtain ⟨closed, hserver, -⟩ := hl.server
  rw [hserver]

/-- At most the sessions of the list were closed. -/
theorem closed_or (hl : w.LetsGo m k l w') {s : SessionId} (hs : s ∈ w'.server.closed) :
    s ∈ w.server.closed ∨ ∃ h ∈ l, h.session = s := by
  obtain ⟨closed, hserver, hclosed⟩ := hl.server
  rw [hserver] at hs
  exact ((hclosed s).1 hs).imp_right fun h => h.2

/-- Where sessions can be closed, those of the list are. -/
theorem closed (hl : w.LetsGo m k l w') (hcloses : w.server.closeFailure = none) (s : SessionId) :
    s ∈ w'.server.closed ↔ s ∈ w.server.closed ∨ ∃ h ∈ l, h.session = s := by
  obtain ⟨closed, hserver, hclosed⟩ := hl.server
  rw [hserver]
  exact (hclosed s).trans (by rw [hcloses, eq_self, true_and])

end LetsGo

/-- A manager that lets go of the handles whose sessions are closed, and of no others, keeps to the
invariant. -/
theorem LetsGo.sound {k : Manager} {l : List Handle} (hl : w.LetsGo m k l w') (hw : w.Sound)
    (hissued : ∀ h ∈ l, h ∈ (w.manager m).issued)
    (hgone : ∀ h ∈ (w.manager m).handles, h ∈ k.handles ∨ h ∈ l) :
    w'.Sound ∧ ∀ j, ∀ h ∈ (w.manager j).issued, h ∈ (w'.manager j).issued := by
  have hsame (j : Fin n) : (w'.manager j).issued = (w.manager j).issued := (hl.manager j).issued
  refine ⟨⟨hl.closeFailure.trans hw.closes, ?_, ?_, ?_, ?_, ?_, ?_, ?_⟩, ?_⟩
  · exact fun j => (hw.managers j).letsGo (hl.manager j)
  · simpa only [hsame, hl.opened] using hw.opened
  · simpa only [hsame, hl.opened] using hw.covered
  · simpa only [hsame] using hw.apart
  · intro s hs
    rw [hl.opened]
    rcases (hl.closed hw.closes s).1 hs with hs | ⟨h, hh, rfl⟩
    · exact hw.closed s hs
    · exact (hw.opened m h (hissued h hh)).2
  · intro j h hh hopen
    rw [hsame] at hh
    rw [← Bool.not_eq_true, isClosed_iff] at hopen
    have hbefore : w.isClosed h = false := by
      rw [← Bool.not_eq_true, isClosed_iff]
      exact fun hs => hopen ((hl.closed hw.closes _).2 (.inl hs))
    have hkept := hw.kept j h hh hbefore
    by_cases hj : j = m
    · subst hj
      rw [hl.self]
      exact (hgone h hkept).resolve_right fun hmem =>
        hopen ((hl.closed hw.closes _).2 (.inr ⟨h, hmem, rfl⟩))
    · rw [hl.others j hj]
      exact hkept
  · simpa only [hsame, hl.names] using hw.named
  · simp only [hsame, imp_self, implies_true]

/-- To retire a handle keeps the invariant. -/
theorem keeps_retire (hh : h ∈ (w.manager m).issued) : w.Keeps (w.retire m h).2 := by
  intro hw
  refine (w.letsGo_retire m h).sound hw (by simpa using hh) fun g hg => ?_
  rw [Manager.mem_handles] at hg ⊢
  rw [(hw.managers m).mem_unqueue hh]
  by_cases heq : g = h
  · exact .inr (by simp [heq])
  · exact .inl (hg.imp_right fun hstale => ⟨hstale, heq⟩)

/-- To give up a handle keeps the invariant. -/
theorem keeps_disconnect (hh : h ∈ (w.manager m).issued) : w.Keeps (w.disconnect m h).2 := by
  intro hw
  rcases w.disconnect_cases m h with hsame | hl
  · rw [hsame]
    exact ⟨hw, fun _ _ hg => hg⟩
  · refine hl.sound hw (by simpa using hh) fun g hg => ?_
    by_cases heq : g = h
    · exact .inr (by simp [heq])
    · exact .inl ((Manager.mem_handles_release (hw.managers m) hh).2 ⟨hg, heq⟩)

/-- Sweeping the queue keeps the invariant, whoever refers to a session. -/
theorem keeps_closeStale (w : World n) (m : Fin n) (held : List Handle) :
    w.Keeps (w.closeStale m held).2 := by
  intro hw
  refine (w.letsGo_closeStale m held).sound hw
    (fun h hh => (hw.managers m).stale h (List.mem_filter.1 hh).1) fun g hg => ?_
  rw [Manager.mem_handles] at hg ⊢
  rcases hg with hcurrent | hstale
  · exact .inl (.inl hcurrent)
  · cases hidle : w.isIdle held g with
    | true => exact .inr (List.mem_filter.2 ⟨hstale, hidle⟩)
    | false => exact .inl (.inr (List.mem_filter.2 ⟨hstale, by simp [hidle]⟩))

/-- To give up all handles keeps the invariant. -/
theorem keeps_disconnectAll (w : World n) (m : Fin n) : w.Keeps (w.disconnectAll m).2 := by
  intro hw
  refine (w.letsGo_disconnectAll m).sound hw (fun h hh => ?_) fun g hg => ?_
  · rcases List.mem_append.1 hh with hh | hh
    · exact (hw.managers m).stale h hh
    · exact (hw.managers m).current h (by simpa using hh)
  · rw [Manager.mem_handles] at hg
    exact .inr (by simpa using hg.symm)

/-! ## Sending statements -/

/-- A server that has received a statement differs in what was asked. -/
theorem alike_receive (w : World n) (statement : Sent) :
    w.Alike { w with server := (w.server.receive statement).2 } := by
  rw [Server.receive]
  cases w.server.replies <;> exact ⟨rfl, rfl, rfl, rfl, rfl⟩

end SqlBridge.World
