/-!
# Setters in a row

A record is made by setters that are applied one after the other. A part of it that some setters set
and the others leave alone is what the last of them has set (`foldl_eq_getLastD`). Where setters may
refuse, the first that does decides, and without one all of them are applied (`foldlM_eq`). A part
that belongs to one name is what the setter of that name makes of it, wherever that one stands in
the row, as long as no name stands there twice (`foldlM_gives`).
-/

namespace SqlBridge.Setters

variable {σ β α ε φ : Type} {step : σ → β → σ}

/-- A part of the record is what the last setter of it has set, or what it was before. -/
theorem foldl_eq_getLastD {part : σ → α} {sets : β → Option α}
    (h : ∀ s b, part (step s b) = (sets b).getD (part s)) (l : List β) (s : σ) :
    part (l.foldl step s) = (l.filterMap sets).getLastD (part s) := by
  induction l generalizing s with
  | nil => rfl
  | cons b l ih =>
    rw [List.foldl_cons, ih, h]
    cases hb : sets b with
    | none => rw [List.filterMap_cons_none hb, Option.getD_none]
    | some a => rw [List.filterMap_cons_some hb, List.getLastD_cons, Option.getD_some]

/-- The same for a part that may be missing. -/
theorem foldl_eq_getLast? {part : σ → Option α} {sets : β → Option α}
    (h : ∀ s b, part (step s b) = (sets b).or (part s)) (l : List β) (s : σ) :
    part (l.foldl step s) = (l.filterMap sets).getLast?.or (part s) := by
  have hsome : ∀ s b, part (step s b) = ((sets b).map some).getD (part s) := by
    intro s b
    rw [h]
    cases sets b <;> rfl
  rw [foldl_eq_getLastD hsome, ← List.map_filterMap, List.getLastD_eq_getLast?, List.getLast?_map]
  cases (l.filterMap sets).getLast? <;> rfl

/-- The first setter that refuses decides on the error; without one, all are applied. -/
theorem foldlM_eq {set : σ → β → Except ε σ} {fault : β → Option φ} {error : φ → ε}
    (h : ∀ s b, set s b = (fault b).elim (.ok (step s b)) fun f => .error (error f))
    (l : List β) (s : σ) :
    l.foldlM set s = (l.findSome? fault).elim (.ok (l.foldl step s)) fun f => .error (error f) := by
  induction l generalizing s with
  | nil => rfl
  | cons b l ih =>
    rw [List.foldlM_cons, h]
    cases hb : fault b with
    | some f =>
      rw [List.findSome?_cons_of_isSome (by rw [hb]; rfl), hb]
      rfl
    | none =>
      rw [List.findSome?_cons_of_isNone (by rw [hb]; rfl)]
      exact ih (step s b)

/-- When setters in a row refuse, one of them does. -/
theorem exists_of_foldlM_error {set : σ → β → Except ε σ} {l : List β} {s : σ} {e : ε}
    (h : l.foldlM set s = .error e) : ∃ b ∈ l, ∃ s, set s b = .error e := by
  induction l generalizing s with
  | nil => cases h
  | cons b l ih =>
    rw [List.foldlM_cons] at h
    cases hb : set s b with
    | error e' =>
      rw [hb] at h
      cases h
      exact ⟨b, List.mem_cons_self, s, hb⟩
    | ok s' =>
      rw [hb] at h
      obtain ⟨b', hb', hrefused⟩ := ih h
      exact ⟨b', List.mem_cons_of_mem b hb', hrefused⟩

/-- Setters succeed when the first one does and the others do behind it. -/
theorem foldlM_cons_eq_ok_iff {set : σ → β → Except ε σ} {b : β} {l : List β} {s s' : σ} :
    (b :: l).foldlM set s = .ok s' ↔ ∃ s₁, set s b = .ok s₁ ∧ l.foldlM set s₁ = .ok s' := by
  rw [List.foldlM_cons]
  cases set s b with
  | error e => exact ⟨fun h => (nomatch h), fun ⟨_, h, _⟩ => (nomatch h)⟩
  | ok s₁ => exact ⟨fun h => ⟨s₁, rfl, h⟩, fun ⟨_, h, hrest⟩ => Except.ok.inj h ▸ hrest⟩

/-- A part that no setter touches stays what it was. -/
theorem foldlM_kept {set : σ → β → Except ε σ} {part : σ → α}
    (hset : ∀ s b s', set s b = .ok s' → part s' = part s) {l : List β} {s s' : σ}
    (h : l.foldlM set s = .ok s') : part s' = part s := by
  induction l generalizing s with
  | nil => exact congrArg part (Except.ok.inj h).symm
  | cons b l ih =>
    obtain ⟨s₁, hb, hrest⟩ := foldlM_cons_eq_ok_iff.1 h
    exact (ih hrest).trans (hset s b s₁ hb)

/-! ## Setters by name -/

/-- A name gives a part its value: what is given under the name, read as it is meant, or the value
from before if nothing is. -/
structure Gives (l : List (String × β)) (name : String) (means : β → α → Prop) (before a : α) :
    Prop where
  named : ∀ v, (name, v) ∈ l → means v a
  unnamed : (∀ v, (name, v) ∉ l) → a = before

/-- Only what is given under the name matters, and not in which order. -/
theorem Gives.of_mem_iff {l l' : List (String × β)} {name : String} {means : β → α → Prop}
    {before a : α} (hg : Gives l name means before a) (h : ∀ v, (name, v) ∈ l' ↔ (name, v) ∈ l) :
    Gives l' name means before a where
  named v hv := hg.named v ((h v).1 hv)
  unnamed hnone := hg.unnamed fun v hv => hnone v ((h v).2 hv)

/-- There is one value at most. -/
theorem Gives.unique {l : List (String × β)} {name : String} {means : β → α → Prop}
    {before a a' : α} (hg : Gives l name means before a) (hg' : Gives l name means before a')
    (hmeans : ∀ v a a', means v a → means v a' → a = a') : a = a' := by
  by_cases hnone : ∀ v, (name, v) ∉ l
  · exact (hg.unnamed hnone).trans (hg'.unnamed hnone).symm
  · obtain ⟨v, hv⟩ := Classical.not_forall_not.1 hnone
    exact hmeans v a a' (hg.named v hv) (hg'.named v hv)

/-- The setter of a name decides what becomes of its part. -/
theorem foldlM_gives {set : σ → String × β → Except ε σ} {part : σ → α} {name : String}
    {means : β → α → Prop}
    (hset : ∀ s n v s', set s (n, v) = .ok s' →
      (n = name → means v (part s')) ∧ (n ≠ name → part s' = part s))
    {l : List (String × β)} (hnodup : (l.map Prod.fst).Nodup) {s s' : σ}
    (h : l.foldlM set s = .ok s') : Gives l name means (part s) (part s') := by
  induction l generalizing s with
  | nil =>
    cases h
    exact ⟨fun v hv => absurd hv List.not_mem_nil, fun _ => rfl⟩
  | cons b l ih =>
    obtain ⟨n, v⟩ := b
    rw [List.map_cons, List.nodup_cons] at hnodup
    obtain ⟨hnew, hnodup⟩ := hnodup
    obtain ⟨s₁, hb, hrest⟩ := foldlM_cons_eq_ok_iff.1 h
    obtain ⟨hnamed, hother⟩ := hset s n v s₁ hb
    have hlater : Gives l name means (part s₁) (part s') := ih hnodup hrest
    by_cases hn : n = name
    · subst hn
      -- no later setter has this name
      have hkept := hlater.unnamed fun v' hv' => hnew (List.mem_map.2 ⟨_, hv', rfl⟩)
      refine ⟨fun v' hv' => ?_, fun hnone => absurd List.mem_cons_self (hnone v)⟩
      rcases List.mem_cons.1 hv' with heq | hv'
      · rw [(Prod.mk.inj heq).2, hkept]
        exact hnamed rfl
      · exact absurd (List.mem_map.2 ⟨_, hv', rfl⟩) hnew
    · have hmem : ∀ v', (name, v') ∈ (n, v) :: l ↔ (name, v') ∈ l := by
        intro v'
        rw [List.mem_cons, or_iff_right]
        exact fun heq => hn (Prod.mk.inj heq).1.symm
      rw [← hother hn]
      exact hlater.of_mem_iff hmem

/-- Setters that do nothing may be left out. -/
theorem foldlM_filter {set : σ → β → Except ε σ} {matters : β → Bool}
    (hset : ∀ s b, matters b = false → set s b = .ok s) (l : List β) (s : σ) :
    (l.filter matters).foldlM set s = l.foldlM set s := by
  induction l generalizing s with
  | nil => rfl
  | cons b l ih =>
    rw [List.foldlM_cons]
    cases hb : matters b with
    | true =>
      rw [List.filter_cons_of_pos hb, List.foldlM_cons]
      simp only [ih]
    | false =>
      rw [List.filter_cons_of_neg (by simp [hb]), hset s b hb]
      exact ih s

end SqlBridge.Setters
