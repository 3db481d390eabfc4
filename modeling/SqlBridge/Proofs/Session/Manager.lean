import Mathlib.Data.List.Nodup
import SqlBridge.Session.Manager

/-!
# What a manager keeps to

A manager gives out each number once and queues only handles that it gave out, each at most once
(`Manager.Tidy`). Between its operations the current handle does not wait in the queue, and whoever
has given out a handle has settings for a new session (`Manager.Sound`).

Handles are compared by their numbers; among the handles that one manager gave out this is the same
as being equal (`Tidy.same_iff`), and the operations on the queue mean what they are named for. Each
operation that takes a new handle in or gives a handle up is shown to keep a manager sound, with
what it does to the handles that the manager keeps.
-/

namespace SqlBridge.Manager

/-- No number is given out twice, and the queue holds handles that were given out, each once. -/
structure Tidy (k : Manager) : Prop where
  ids : (k.issued.map Handle.id).Nodup
  /-- The next number is a new one. -/
  bound : ∀ h ∈ k.issued, h.id < k.nextId
  stale : ∀ h ∈ k.stale, h ∈ k.issued
  queuedOnce : k.stale.Nodup

/-- What holds of a manager between its operations. -/
structure Sound (k : Manager) : Prop extends Tidy k where
  current : ∀ h, k.current = some h → h ∈ k.issued
  apart : ∀ h, k.current = some h → h ∉ k.stale
  /-- There are settings for a new session. -/
  config : k.issued ≠ [] → k.config.isSome

/-- A manager that has not been used is sound. -/
theorem sound_fresh : fresh.Sound := by
  constructor
  · constructor <;> simp [fresh]
  all_goals simp [fresh]

variable {k k' : Manager} {h g : Handle}

/-- The handles of a manager are the current one and those that wait. -/
theorem mem_handles : g ∈ k.handles ↔ k.current = some g ∨ g ∈ k.stale := by
  simp [handles]

/-- A handle that is kept was given out. -/
theorem Sound.issued_of_mem_handles (hk : k.Sound) (hg : g ∈ k.handles) : g ∈ k.issued :=
  (mem_handles.1 hg).elim (hk.current g) (hk.stale g)

/-- A manager keeps no handle twice. -/
theorem Sound.handles_nodup (hk : k.Sound) : k.handles.Nodup := by
  rw [handles, List.nodup_append]
  refine ⟨by cases k.current <;> simp, hk.queuedOnce, fun a ha b hb heq => ?_⟩
  rw [Option.mem_toList] at ha
  exact hk.apart a ha (heq ▸ hb)

/-- A number that is above those given out is a new one. -/
theorem nodup_ids_append {l : List Handle} (hl : (l.map Handle.id).Nodup)
    (hbound : ∀ g ∈ l, g.id < h.id) : ((l ++ [h]).map Handle.id).Nodup := by
  rw [List.map_append, List.nodup_append]
  refine ⟨hl, by simp, fun a ha b hb heq => ?_⟩
  obtain ⟨g, hg, rfl⟩ := List.mem_map.1 ha
  have hlt := hbound g hg
  simp only [List.map_cons, List.map_nil, List.mem_singleton] at hb
  omega

/-! ## The queue -/

namespace Tidy

/-- A number belongs to one handle. -/
theorem eq_of_id (hk : k.Tidy) (hh : h ∈ k.issued) (hg : g ∈ k.issued) (hid : h.id = g.id) :
    h = g :=
  List.inj_on_of_nodup_map hk.ids hh hg hid

/-- **Comparing handles by number is comparing them**, among those of one manager. -/
theorem same_iff (hk : k.Tidy) (hh : h ∈ k.issued) (hg : g ∈ k.issued) :
    h.same g = true ↔ h = g := by
  rw [Handle.same, beq_iff_eq]
  exact ⟨hk.eq_of_id hh hg, congrArg Handle.id⟩

/-- A handle that was given out is found in the queue exactly if it waits there, since no other has
its number. -/
theorem isQueued_iff (hk : k.Tidy) (hh : h ∈ k.issued) : k.isQueued h = true ↔ h ∈ k.stale := by
  rw [isQueued, List.any_eq_true]
  constructor
  · rintro ⟨g, hg, hsame⟩
    rw [(hk.same_iff hh (hk.stale g hg)).1 hsame]
    exact hg
  · intro hmem
    exact ⟨h, hmem, (hk.same_iff hh hh).2 rfl⟩

/-- Queueing a handle once more does nothing. -/
theorem mem_queueOnce (hk : k.Tidy) (hh : h ∈ k.issued) :
    g ∈ (k.queueOnce h).stale ↔ g ∈ k.stale ∨ g = h := by
  rw [queueOnce]
  split
  · next hqueued =>
    refine ⟨.inl, fun hor => hor.elim id fun heq => ?_⟩
    rw [heq]
    exact (hk.isQueued_iff hh).1 hqueued
  · simp [queue]

/-- To take a handle out of the queue takes no other one out. -/
theorem mem_unqueue (hk : k.Tidy) (hh : h ∈ k.issued) :
    g ∈ (k.unqueue h).stale ↔ g ∈ k.stale ∧ g ≠ h := by
  rw [unqueue, List.mem_filter]
  refine and_congr_right fun hg => ?_
  rw [Bool.not_eq_true', ← Bool.not_eq_true, hk.same_iff (hk.stale g hg) hh]

/-- What stays of the queue is as tidy as the whole. -/
theorem of_sublist (hk : k.Tidy) (hissued : k'.issued = k.issued)
    (hnext : k'.nextId = k.nextId) (hstale : k'.stale.Sublist k.stale) : k'.Tidy where
  ids := hissued ▸ hk.ids
  bound := by
    rw [hissued, hnext]
    exact hk.bound
  stale h hh := by
    rw [hissued]
    exact hk.stale h (hstale.subset hh)
  queuedOnce := hstale.nodup hk.queuedOnce

/-- A new handle gets a new number. -/
theorem issue (hk : k.Tidy) (hid : h.id = k.nextId) : (k.issue h).Tidy where
  ids := nodup_ids_append hk.ids fun g hg => hid ▸ hk.bound g hg
  bound g hg := by
    simp only [Manager.issue, List.mem_append, List.mem_singleton] at hg ⊢
    rcases hg with hg | rfl
    · exact Nat.lt_succ_of_lt (hk.bound g hg)
    · omega
  stale g hg := List.mem_append_left _ (hk.stale g hg)
  queuedOnce := hk.queuedOnce

/-- A handle that does not wait can be queued. -/
theorem queue (hk : k.Tidy) (hh : h ∈ k.issued) (hnew : h ∉ k.stale) : (k.queue h).Tidy where
  ids := hk.ids
  bound := hk.bound
  stale g hg := by
    rcases List.mem_append.1 hg with hg | hg
    · exact hk.stale g hg
    · rw [List.mem_singleton.1 hg]
      exact hh
  queuedOnce := by
    rw [Manager.queue, List.nodup_append]
    refine ⟨hk.queuedOnce, by simp, fun a ha b hb heq => ?_⟩
    rw [List.mem_singleton.1 hb] at heq
    exact hnew (heq ▸ ha)

/-- A handle is queued at most once. -/
theorem queueOnce (hk : k.Tidy) (hh : h ∈ k.issued) : (k.queueOnce h).Tidy := by
  rw [Manager.queueOnce]
  split
  · exact hk
  · next hqueued => exact hk.queue hh fun hmem => hqueued ((hk.isQueued_iff hh).2 hmem)

end Tidy

@[simp]
theorem issued_queueOnce : (k.queueOnce h).issued = k.issued := by
  rw [queueOnce]
  split <;> rfl

@[simp]
theorem config_queueOnce : (k.queueOnce h).config = k.config := by
  rw [queueOnce]
  split <;> rfl

/-! ## Giving handles up -/

/-- A manager has let handles go and changed nothing else. -/
structure LetsGo (k k' : Manager) : Prop where
  issued : k'.issued = k.issued
  nextId : k'.nextId = k.nextId
  config : k'.config = k.config
  opened : k'.opened = k.opened
  stale : k'.stale.Sublist k.stale
  current : ∀ h, k'.current = some h → k.current = some h

/-- To do nothing is to let nothing go. -/
theorem LetsGo.refl (k : Manager) : k.LetsGo k :=
  ⟨rfl, rfl, rfl, rfl, List.Sublist.refl _, fun _ hc => hc⟩

/-- A manager keeps nothing new when it lets handles go. -/
theorem LetsGo.mem_handles (hl : k.LetsGo k') (hg : g ∈ k'.handles) : g ∈ k.handles := by
  rw [Manager.mem_handles] at hg ⊢
  exact hg.imp (hl.current g) fun hstale => hl.stale.subset hstale

/-- A sound manager that lets handles go stays sound. -/
theorem Sound.letsGo (hk : k.Sound) (hl : k.LetsGo k') : k'.Sound where
  toTidy := hk.toTidy.of_sublist hl.issued hl.nextId hl.stale
  current h hh := by
    rw [hl.issued]
    exact hk.current h (hl.current h hh)
  apart h hh hmem := hk.apart h (hl.current h hh) (hl.stale.subset hmem)
  config := by
    rw [hl.issued, hl.config]
    exact hk.config

/-- To drop handles from the queue is to let them go. -/
theorem letsGo_filter (k : Manager) (p : Handle → Bool) :
    k.LetsGo { k with stale := k.stale.filter p } :=
  ⟨rfl, rfl, rfl, rfl, List.filter_sublist, fun _ hc => hc⟩

/-- To take a handle out of the queue lets it go. -/
theorem letsGo_unqueue (k : Manager) (h : Handle) : k.LetsGo (k.unqueue h) := k.letsGo_filter _

/-- What a manager is after it gave a handle up. -/
theorem release_eq (k : Manager) (h : Handle) :
    k.release h = { k.unqueue h with current := k.current.filter fun c => !c.same h } := by
  obtain ⟨current, stale, config, opened, nextId, issued⟩ := k
  cases current with
  | none => rfl
  | some c =>
    by_cases hsame : c.same h = true <;> simp [release, Manager.unqueue, Option.filter, hsame]

/-- To give up a handle lets it go, as the current one or from the queue. -/
theorem letsGo_release (k : Manager) (h : Handle) : k.LetsGo (k.release h) := by
  rw [release_eq]
  exact ⟨rfl, rfl, rfl, rfl, List.filter_sublist, fun _ hc => (Option.filter_eq_some_iff.1 hc).1⟩

/-- To give up all handles lets them go. -/
theorem letsGo_releaseAll (k : Manager) : k.LetsGo k.releaseAll :=
  ⟨rfl, rfl, rfl, rfl, List.nil_sublist _, fun _ hc => nomatch hc⟩

/-- A handle with another number stays in the queue. -/
theorem mem_unqueue_of_not_same (hg : g ∈ k.stale) (hne : g.same h = false) :
    g ∈ (k.unqueue h).stale :=
  List.mem_filter.2 ⟨hg, by simp [hne]⟩

/-- A handle with another number is not given up. -/
theorem mem_handles_release_of_not_same (hg : g ∈ k.handles) (hne : g.same h = false) :
    g ∈ (k.release h).handles := by
  rw [mem_handles] at hg
  rw [release_eq, mem_handles]
  refine hg.imp (fun hcurrent => ?_) fun hstale => mem_unqueue_of_not_same hstale hne
  simp [hcurrent, hne]

/-- A manager keeps all handles but the one that it gives up. -/
theorem mem_handles_release (hk : k.Sound) (hh : h ∈ k.issued) :
    g ∈ (k.release h).handles ↔ g ∈ k.handles ∧ g ≠ h := by
  rw [release_eq, mem_handles, mem_handles]
  simp only [Option.filter_eq_some_iff, Bool.not_eq_true', hk.mem_unqueue hh, or_and_right]
  refine or_congr (and_congr_right fun hcurrent => ?_) Iff.rfl
  rw [← Bool.not_eq_true, hk.same_iff (hk.current g hcurrent) hh]

/-! ## Taking a new handle in -/

/-- A new handle is none of those that the manager keeps. -/
theorem Sound.not_mem_issued (hk : k.Sound) (hid : h.id = k.nextId) : h ∉ k.issued := by
  intro hmem
  have hlt := hk.bound h hmem
  omega

/-- What a manager is after a new connection. -/
theorem install_eq (k : Manager) (h : Handle) (config : ConnectionConfig) :
    k.install h config =
      { k with
        current := some h, stale := k.stale ++ k.current.toList, config := some config
        opened := true } := by
  obtain ⟨current, stale, config, opened, nextId, issued⟩ := k
  cases current <;> simp [install, Manager.queue]

@[simp]
theorem issued_install (k : Manager) (h : Handle) (config : ConnectionConfig) :
    (k.issue h |>.install h config).issued = k.issued ++ [h] := by
  rw [install_eq]
  rfl

/-- The handle of a new connection becomes the current one, and the one before it, which was not
queued yet, is queued. -/
theorem Sound.install (hk : k.Sound) (hid : h.id = k.nextId) (config : ConnectionConfig) :
    ((k.issue h).install h config).Sound := by
  have hissue := hk.toTidy.issue hid
  have hnew := hk.not_mem_issued hid
  have htidy : ({ k.issue h with stale := k.stale ++ k.current.toList } : Manager).Tidy := by
    cases hcurrent : k.current with
    | none => exact hissue.of_sublist rfl rfl (by simp [Manager.issue])
    | some c =>
      exact hissue.queue (List.mem_append_left _ (hk.current c hcurrent)) (hk.apart c hcurrent)
  rw [install_eq]
  refine ⟨htidy.of_sublist rfl rfl (List.Sublist.refl _), ?_, ?_, ?_⟩
  · rintro g ⟨⟩
    simp [Manager.issue]
  · rintro g ⟨⟩ hmem
    rcases List.mem_append.1 hmem with hmem | hmem
    · exact hnew (hk.stale h hmem)
    · exact hnew (hk.current h (by simpa [Manager.issue] using hmem))
  · simp

/-- The handle that is installed is the only new one. -/
theorem mem_handles_install {config : ConnectionConfig} :
    g ∈ ((k.issue h).install h config).handles ↔ g ∈ k.handles ∨ g = h := by
  rw [install_eq, mem_handles, mem_handles]
  simp only [Manager.issue, Option.some.injEq, List.mem_append, Option.mem_toList]
  grind

/-- A handle with the number of one that was queued waits in the queue. -/
theorem isQueued_queueOnce (hsame : g.same h = true) : (k.queueOnce h).isQueued g = true := by
  have heq : g.id = h.id := beq_iff_eq.1 hsame
  have hany : g.same = h.same := by
    funext x
    rw [Handle.same, Handle.same, heq]
  rw [queueOnce]
  split
  · next hqueued =>
    rw [isQueued, hany]
    exact hqueued
  · simp [isQueued, queue, hsame]

/-- What a manager is after a reconnection: the lost handle is queued and so is the current one,
unless they wait already. -/
theorem adopt_eq (k : Manager) (lost h : Handle) :
    k.adopt lost h =
      { k.current.elim (k.queueOnce lost) (k.queueOnce lost).queueOnce with
        current := some h } := by
  rw [adopt]
  cases k.current with
  | none => rfl
  | some previous =>
    simp only [Option.elim_some]
    split
    · next hsame =>
      have hqueued : (k.queueOnce lost).queueOnce previous = k.queueOnce lost := by
        rw [queueOnce, if_pos (isQueued_queueOnce hsame)]
      rw [hqueued]
    · rfl

/-- What a reconnection queues is tidy, and it is what waited before, the lost handle and the
current one. -/
theorem Sound.adopt_queue (hk : k.Sound) {lost : Handle} (hlost : lost ∈ k.issued) :
    (k.current.elim (k.queueOnce lost) (k.queueOnce lost).queueOnce).Tidy ∧
      ∀ g, g ∈ (k.current.elim (k.queueOnce lost) (k.queueOnce lost).queueOnce).stale ↔
        g ∈ k.stale ∨ g = lost ∨ k.current = some g := by
  have htidy := hk.toTidy.queueOnce hlost
  cases hcurrent : k.current with
  | none =>
    refine ⟨htidy, fun g => ?_⟩
    simp [hk.mem_queueOnce hlost]
  | some c =>
    have hc : c ∈ (k.queueOnce lost).issued := by
      rw [issued_queueOnce]
      exact hk.current c hcurrent
    refine ⟨htidy.queueOnce hc, fun g => ?_⟩
    simp only [Option.elim_some, Option.some.injEq]
    rw [htidy.mem_queueOnce hc, hk.mem_queueOnce hlost, or_assoc, eq_comm (a := c)]

@[simp]
theorem issued_adopt (k : Manager) (lost h : Handle) : (k.adopt lost h).issued = k.issued := by
  rw [adopt_eq]
  cases k.current <;> simp

@[simp]
theorem config_adopt (k : Manager) (lost h : Handle) : (k.adopt lost h).config = k.config := by
  rw [adopt_eq]
  cases k.current <;> simp

@[simp]
theorem opened_queueOnce : (k.queueOnce h).opened = k.opened := by
  rw [queueOnce]
  split <;> rfl

@[simp]
theorem opened_adopt (k : Manager) (lost h : Handle) : (k.adopt lost h).opened = k.opened := by
  rw [adopt_eq]
  cases k.current <;> simp

@[simp]
theorem current_adopt (k : Manager) (lost h : Handle) : (k.adopt lost h).current = some h := by
  rw [adopt_eq]

/-- Queueing a handle adds nothing else. -/
theorem mem_stale_queueOnce (hg : g ∈ (k.queueOnce h).stale) : g ∈ k.stale ∨ g = h := by
  rw [queueOnce] at hg
  split at hg
  · exact .inl hg
  · simpa [queue] using hg

/-- After a reconnection no more waits than what the manager kept before and the lost handle. -/
theorem mem_stale_of_adopt {lost : Handle} (hg : g ∈ (k.adopt lost h).stale) :
    g ∈ k.handles ∨ g = lost := by
  rw [adopt_eq] at hg
  rw [mem_handles]
  cases hcurrent : k.current with
  | none =>
    rw [hcurrent, Option.elim_none] at hg
    exact (mem_stale_queueOnce hg).imp_left .inr
  | some c =>
    rw [hcurrent, Option.elim_some] at hg
    rcases mem_stale_queueOnce hg with hg | rfl
    · exact (mem_stale_queueOnce hg).imp_left .inr
    · exact .inl (.inl rfl)

/-- After a reconnection a manager keeps no more than before, the lost handle and the new one. -/
theorem mem_handles_of_adopt {lost : Handle} (hg : g ∈ (k.adopt lost h).handles) :
    g ∈ k.handles ∨ g = lost ∨ g = h := by
  rw [mem_handles, current_adopt] at hg
  rcases hg with hg | hg
  · exact .inr (.inr (Option.some.inj hg).symm)
  · exact (mem_stale_of_adopt hg).imp_right .inl

@[simp]
theorem nextId_queueOnce : (k.queueOnce h).nextId = k.nextId := by
  rw [queueOnce]
  split <;> rfl

@[simp]
theorem nextId_adopt (k : Manager) (lost h : Handle) : (k.adopt lost h).nextId = k.nextId := by
  rw [adopt_eq]
  cases k.current <;> simp

/-- What waits goes on waiting when another handle is queued. -/
theorem mem_queueOnce_of_mem (hg : g ∈ k.stale) : g ∈ (k.queueOnce h).stale := by
  rw [queueOnce]
  split
  · exact hg
  · exact List.mem_append_left _ hg

/-- A handle that is queued waits, when no other handle with its number does. -/
theorem mem_queueOnce_self (honly : ∀ x ∈ k.stale, h.same x → x = h) :
    h ∈ (k.queueOnce h).stale := by
  rw [queueOnce]
  split
  · next hqueued =>
    obtain ⟨x, hx, hsame⟩ := List.any_eq_true.1 hqueued
    exact honly x hx hsame ▸ hx
  · exact List.mem_append_right _ (List.mem_singleton_self h)

/-- A reconnection gives nothing up, when no two handles that the manager keeps or has lost have one
number. -/
theorem mem_handles_adopt_of_mem {lost : Handle}
    (honly : ∀ a, a = lost ∨ a ∈ k.handles → ∀ b, b = lost ∨ b ∈ k.handles → a.same b → a = b)
    (hg : g ∈ k.handles) : g ∈ (k.adopt lost h).handles := by
  rw [mem_handles, adopt_eq]
  right
  cases hcurrent : k.current with
  | none =>
    have hstale : g ∈ k.stale := (mem_handles.1 hg).resolve_left (by simp [hcurrent])
    exact mem_queueOnce_of_mem hstale
  | some c =>
    rcases mem_handles.1 hg with hc | hstale
    · obtain rfl : c = g := Option.some.inj (hcurrent.symm.trans hc)
      refine mem_queueOnce_self fun x hx hsame => (honly c (.inr hg) x ?_ hsame).symm
      exact (mem_stale_queueOnce hx).symm.imp_right fun hx => mem_handles.2 (.inr hx)
    · exact mem_queueOnce_of_mem (mem_queueOnce_of_mem hstale)

/-- A manager that has given out a handle may give out another one. -/
theorem Sound.issue (hk : k.Sound) (hid : h.id = k.nextId) (hconfig : k.config.isSome) :
    (k.issue h).Sound where
  toTidy := hk.toTidy.issue hid
  current g hg := List.mem_append_left _ (hk.current g hg)
  apart := hk.apart
  config _ := hconfig

/-- What waits after a reconnection is what waited before, the lost handle and the current one. -/
theorem mem_stale_adopt (hk : k.Sound) {lost : Handle} (hlost : lost ∈ k.issued) :
    g ∈ (k.adopt lost h).stale ↔ g ∈ k.stale ∨ g = lost ∨ k.current = some g := by
  rw [adopt_eq]
  exact (hk.adopt_queue hlost).2 g

/-- The handle of a reconnection becomes the current one. -/
theorem Sound.adopt (hk : k.Sound) (hid : h.id = k.nextId) {lost : Handle}
    (hlost : lost ∈ k.issued) : ((k.issue h).adopt lost h).Sound := by
  have hissue : (k.issue h).Sound := hk.issue hid (hk.config (List.ne_nil_of_mem hlost))
  have hmem : lost ∈ (k.issue h).issued := List.mem_append_left _ hlost
  have hnew := hk.not_mem_issued hid
  have htidy : ((k.issue h).adopt lost h).Tidy := by
    rw [adopt_eq]
    exact (hissue.adopt_queue hmem).1.of_sublist rfl rfl (List.Sublist.refl _)
  refine ⟨htidy, ?_, ?_, ?_⟩
  · intro g hg
    rw [current_adopt, Option.some.injEq] at hg
    rw [issued_adopt, ← hg]
    simp [Manager.issue]
  · intro g hg hqueued
    rw [current_adopt, Option.some.injEq] at hg
    subst hg
    rcases (mem_stale_adopt hissue hmem).1 hqueued with hstale | rfl | hcurrent
    · exact hnew (hk.stale h hstale)
    · exact hnew hlost
    · exact hnew (hk.current h hcurrent)
  · rw [config_adopt, issued_adopt]
    exact hissue.config

/-- A manager keeps what it kept, the lost handle and the new one. -/
theorem mem_handles_adopt (hk : k.Sound) {lost : Handle} (hid : h.id = k.nextId)
    (hlost : lost ∈ k.issued) :
    g ∈ ((k.issue h).adopt lost h).handles ↔ g ∈ k.handles ∨ g = lost ∨ g = h := by
  have hissue : (k.issue h).Sound := hk.issue hid (hk.config (List.ne_nil_of_mem hlost))
  rw [mem_handles, mem_handles, current_adopt,
    mem_stale_adopt hissue (List.mem_append_left _ hlost)]
  simp only [Manager.issue, Option.some.injEq]
  grind

end SqlBridge.Manager
