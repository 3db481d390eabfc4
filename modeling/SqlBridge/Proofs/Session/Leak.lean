import SqlBridge.Proofs.Session.Reachable

/-!
# No session leaks

In every world that is reached, an open session is the current one of its manager or waits in the
manager's queue, once and never both (`World.Reachable.noLeak`). What waits is closed by the next
sweep unless somebody refers to it: all managers together have one reference to a session that
waits, so what counts beyond it are the handles that callers hold (`Orderly.references_stale`).
-/

namespace SqlBridge.World

variable {n : Nat} {w : World n} {m : Fin n} {h g : Handle}

/-! ## References -/

/-- What the counting of references rests on: managers keep to their queues, and no session was
given out twice. This holds also where sessions cannot be closed. -/
structure Orderly (w : World n) : Prop where
  managers : ∀ m, (w.manager m).Sound
  opened : ∀ m, ∀ h ∈ (w.manager m).issued, h.session ≤ w.server.opened
  apart : ∀ m k, ∀ h ∈ (w.manager m).issued, ∀ g ∈ (w.manager k).issued,
    h.session = g.session → m = k ∧ h = g

/-- A sound world is orderly. -/
theorem Sound.orderly (hw : w.Sound) : w.Orderly :=
  ⟨hw.managers, fun m h hh => (hw.opened m h hh).2, hw.apart⟩

/-- No two handles that managers keep have the same session. -/
theorem Orderly.sessions_nodup (hw : w.Orderly) :
    (((List.finRange n).flatMap fun k => (w.manager k).handles).map Handle.session).Nodup := by
  have hissued : ∀ k, ∀ h ∈ (w.manager k).handles, h ∈ (w.manager k).issued :=
    fun k _ hh => (hw.managers k).issued_of_mem_handles hh
  refine List.pairwise_map.2 (List.pairwise_flatMap.2 ⟨fun k _ => ?_, ?_⟩)
  · refine (hw.managers k).handles_nodup.imp_of_mem fun ha hb hne heq => hne ?_
    exact (hw.apart k k _ (hissued k _ ha) _ (hissued k _ hb) heq).2
  · refine (List.nodup_finRange n).imp fun hne a ha b hb heq => hne ?_
    exact (hw.apart _ _ a (hissued _ a ha) b (hissued _ b hb) heq).1

/-- **All managers together have one reference to a session that waits**; the others are those of
callers. -/
theorem Orderly.references_stale (hw : w.Orderly) (hh : h ∈ (w.manager m).stale)
    (held : List Handle) :
    w.references held h.session =
      1 + ((held ++ w.names.values).filter fun g => g.session == h.session).length := by
  have hmem : h ∈ (List.finRange n).flatMap fun k => (w.manager k).handles :=
    List.mem_flatMap.2 ⟨m, List.mem_finRange m, Manager.mem_handles.2 (.inr hh)⟩
  have hone : (((List.finRange n).flatMap fun k => (w.manager k).handles).filter fun g =>
      g.session == h.session).length = 1 := by
    have hcount := hw.sessions_nodup.count (a := h.session)
    rw [if_pos (List.mem_map_of_mem hmem)] at hcount
    rw [← hcount, List.count, List.countP_map, List.countP_eq_length_filter]
    rfl
  rw [references, keptHandles]
  simp only [List.filter_append, List.length_append, hone]
  omega

/-! ## The invariant as callers see it -/

/-- No session of a manager leaks. -/
structure NoLeak (w : World n) (m : Fin n) : Prop where
  /-- A session that is open is the current one or waits exactly once, and never both. -/
  keptOnce : ∀ h ∈ (w.manager m).issued, w.isClosed h = false →
    (w.manager m).current = some h ∧ (w.manager m).stale.count h = 0 ∨
      (w.manager m).current ≠ some h ∧ (w.manager m).stale.count h = 1
  /-- The current handle does not wait. -/
  currentApart : ∀ h, (w.manager m).current = some h → ∀ g ∈ (w.manager m).stale,
    g.id ≠ h.id ∧ g.session ≠ h.session
  /-- No handle waits twice. -/
  staleIds : ((w.manager m).stale.map Handle.id).Nodup
  staleSessions : ((w.manager m).stale.map Handle.session).Nodup
  /-- No number and no session is given out twice. -/
  issuedIds : ((w.manager m).issued.map Handle.id).Nodup
  issuedSessions : ((w.manager m).issued.map Handle.session).Nodup
  /-- Every session of the server is on record as given out by a manager. -/
  recorded : ∀ s, 0 < s → s ≤ w.server.opened → ∃ k, ∃ h ∈ (w.manager k).issued, h.session = s
  /-- When callers hold no handle of the manager, no session but the current one outlasts a
  sweep. -/
  swept : (∀ g ∈ w.names.values, g ∉ (w.manager m).issued) →
    ∀ h ∈ (w.manager m).issued, (w.closeStale m []).2.isClosed h = false →
      ((w.closeStale m []).2.manager m).current = some h

/-- A handle that waits is idle when callers hold no handle of the manager. -/
theorem Sound.isIdle_of_let_go (hw : w.Sound) (hh : h ∈ (w.manager m).stale)
    (hfree : ∀ g ∈ w.names.values, g ∉ (w.manager m).issued) : w.isIdle [] h = true := by
  have hnone : w.names.values.filter (fun g => g.session == h.session) = [] := by
    refine List.filter_eq_nil_iff.2 fun g hg hsame => ?_
    obtain ⟨k, hk⟩ := hw.named g hg
    obtain ⟨rfl, -⟩ := hw.apart k m g hk h ((hw.managers m).stale h hh) (beq_iff_eq.1 hsame)
    exact hfree g hg hk
  rw [isIdle, hw.orderly.references_stale hh, List.nil_append, hnone]
  rfl

/-- A sound world leaks no session. -/
theorem noLeak_of_sound (hw : w.Sound) (m : Fin n) : w.NoLeak m := by
  have hk := hw.managers m
  have hissued : ∀ g ∈ (w.manager m).stale, g ∈ (w.manager m).issued := hk.stale
  refine ⟨fun h hh hopen => ?_, fun h hh g hg => ⟨fun heq => ?_, fun heq => ?_⟩, ?_, ?_, hk.ids, ?_,
    hw.covered, fun hfree h hh hopen => ?_⟩
  · rcases Manager.mem_handles.1 (hw.kept m h hh hopen) with hcurrent | hstale
    · exact .inl ⟨hcurrent, List.count_eq_zero.2 (hk.apart h hcurrent)⟩
    · refine .inr ⟨fun hcurrent => hk.apart h hcurrent hstale, ?_⟩
      rw [hk.queuedOnce.count, if_pos hstale]
  · exact hk.apart h hh (hk.eq_of_id (hissued g hg) (hk.current h hh) heq ▸ hg)
  · exact hk.apart h hh ((hw.apart m m g (hissued g hg) h (hk.current h hh) heq).2 ▸ hg)
  · refine List.pairwise_map.2 (hk.queuedOnce.imp_of_mem fun ha hb hne heq => hne ?_)
    exact hk.eq_of_id (hissued _ ha) (hissued _ hb) heq
  · refine List.pairwise_map.2 (hk.queuedOnce.imp_of_mem fun ha hb hne heq => hne ?_)
    exact (hw.apart m m _ (hissued _ ha) _ (hissued _ hb) heq).2
  · refine List.pairwise_map.2 ((List.pairwise_map.1 hk.ids).imp_of_mem fun ha hb hne heq => hne ?_)
    exact congrArg Handle.id (hw.apart m m _ ha _ hb heq).2
  · have hsweep := w.letsGo_closeStale m []
    rw [← Bool.not_eq_true, isClosed_iff] at hopen
    have hbefore : w.isClosed h = false := by
      rw [← Bool.not_eq_true, isClosed_iff]
      exact fun hs => hopen ((hsweep.closed hw.closes _).2 (.inl hs))
    rcases Manager.mem_handles.1 (hw.kept m h hh hbefore) with hcurrent | hstale
    · rw [hsweep.self]
      exact hcurrent
    · have hidle := hw.isIdle_of_let_go hstale hfree
      have hclosed :=
        (hsweep.closed hw.closes _).2 (.inr ⟨h, List.mem_filter.2 ⟨hstale, hidle⟩, rfl⟩)
      exact absurd hclosed hopen

/-- **No session leaks**, in whatever order connections are opened, lost, replaced, given up and
swept, and whether or not the server lets sessions be opened. -/
theorem Reachable.noLeak (hw : w.Reachable) (m : Fin n) : w.NoLeak m := noLeak_of_sound hw.sound m

/-- The settings of some server. -/
def someConfig : ConnectionConfig := .ofNames "localhost" "app" "shop"

/-- The manager of a world that has one. -/
def solo : Fin 1 := 0

/-- A world with an open session that waits: one was lost and closed after a second attempt, and one
was replaced. -/
def withReplaced : World 1 :=
  Command.runAll false
    [⟨solo, .connect someConfig (some "a")⟩,
      ⟨solo, .push [⟨.fail (.transientBackend (some 2006) "gone away"), []⟩]⟩,
      ⟨solo, .run ⟨.select, "SELECT 1"⟩ false⟩, ⟨solo, .connect someConfig none⟩,
      ⟨solo, .retire "a"⟩, ⟨solo, .forget "a"⟩]
    (World.fresh [])

/-- The world with a replaced session is reached by its commands. -/
theorem reachable_withReplaced : withReplaced.Reachable := by
  refine .step false (.step false (.step false (.step false (.step false (.step false
    (.fresh []) ?_) ?_) ?_) ?_) ?_) ?_
  all_goals decide +kernel

/-- The session that waits is not the current one, and a sweep leaves only the current one open. -/
theorem noLeak_withReplaced :
    withReplaced.server.closed = [1] ∧ (withReplaced.manager solo).stale = [⟨2, 2⟩] ∧
      (withReplaced.manager solo).current = some ⟨3, 3⟩ ∧
      ∀ h ∈ (withReplaced.manager solo).issued,
        (withReplaced.closeStale solo []).2.isClosed h = false → h = ⟨3, 3⟩ := by
  have hnames : ∀ g ∈ withReplaced.names.values, g ∉ (withReplaced.manager solo).issued := by
    decide +kernel
  refine ⟨by decide +kernel, by decide +kernel, by decide +kernel, fun h hh hopen => ?_⟩
  have hcurrent := (Reachable.noLeak reachable_withReplaced solo).swept hnames h hh hopen
  have hthird : ((withReplaced.closeStale solo []).2.manager solo).current = some ⟨3, 3⟩ := by
    decide +kernel
  exact (Option.some.inj (hthird.symm.trans hcurrent)).symm

end SqlBridge.World
