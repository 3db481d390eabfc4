import SqlBridge.Proofs.Sql.Spelling

/-!
# Texts put together from balanced pieces

A statement is put together from keywords, raw SQL, and escaped names and values. When each of these
pieces is balanced, the scan that collapses white space stands outside of quotes wherever a piece
begins, so an escaped form among the pieces comes out as it went in.

`Carries s forms` says this of a text `s`: it is made of balanced pieces, and the `forms` are among
them. The predicate is closed under the ways in which clauses are rendered (`Carries.append`,
`Carries.intercalate`, `Carries.join`, `Carries.dropBlanks`), and gives the two facts that are
wanted: the whole is balanced (`Carries.balanced`), and collapsing keeps every form
(`Carries.isInfix_collapse`).
-/

namespace SqlBridge.Sql

/-! ## Balance of texts behind one another -/

/-- As far as quotes go, all states outside of them are alike. -/
theorem isOutside_after {s : Scan} (hs : s.isOutside) (t : List Char) :
    (s.after t).isOutside = (Scan.start.after t).isOutside := by
  cases s with
  | start => rfl
  | word =>
    cases t with
    | nil => rfl
    | cons c t =>
      by_cases hc : Text.isBlank c
      · simp [Scan.next, hc, isOutside_after_gap]
      · simp [Scan.next, hc]
  | gap => exact isOutside_after_gap t
  | quoted q => cases hs
  | escaped q => cases hs

/-- Balanced texts one behind the other are balanced. -/
theorem Balanced.append {a b : List Char} (ha : Balanced a) (hb : Balanced b) :
    Balanced (a ++ b) := by
  unfold Balanced at *
  rw [Scan.after_append, isOutside_after ha]
  exact hb

/-- Balanced texts are balanced one behind the other. -/
theorem balanced_flatMap {α : Type} {f : α → List Char} {l : List α} (h : ∀ x ∈ l, Balanced (f x)) :
    Balanced (l.flatMap f) := by
  induction l with
  | nil => rfl
  | cons x l ih =>
    rw [List.flatMap_cons]
    exact (h x (by simp)).append (ih fun y hy => h y (by simp [hy]))

/-- A text stays balanced without the blanks in front. -/
theorem balanced_dropBlanks {s : List Char} (hs : Balanced s) :
    Balanced (s.dropWhile Text.isBlank) := by
  induction s with
  | nil => exact hs
  | cons c s ih =>
    cases hc : Text.isBlank c with
    | true =>
      rw [List.dropWhile_cons_of_pos hc]
      refine ih ?_
      simpa [Balanced, Scan.next, hc] using hs
    | false =>
      rw [List.dropWhile_cons_of_neg (by simp [hc])]
      exact hs

/-- What is left of each text, without those of which nothing is left. -/
theorem filter_map_collapseChars (l : List String) :
    ((l.map String.toList).map collapseChars).filter (· ≠ []) =
      ((l.map collapse).filter (· ≠ "")).map String.toList := by
  induction l with
  | nil => rfl
  | cons s l ih =>
    have hempty : collapseChars s.toList = [] ↔ collapse s = "" := by
      rw [← toList_collapse, String.toList_eq_nil_iff]
    by_cases h : collapse s = ""
    · have h' := hempty.2 h
      simpa [h, h'] using ih
    · have h' := mt hempty.1 h
      simpa [h, h'] using ih

/-- Balanced texts joined by spaces are collapsed one by one. -/
theorem collapse_intercalate {l : List String} (hl : ∀ s ∈ l, Balanced s.toList) :
    collapse (" ".intercalate l) = " ".intercalate ((l.map collapse).filter (· ≠ "")) := by
  have hl' : ∀ a ∈ l.map String.toList, Balanced a := by
    intro a ha
    obtain ⟨s, hs, rfl⟩ := List.mem_map.1 ha
    exact hl s hs
  have hchars := (collapseChars_intercalate hl').2
  rw [filter_map_collapseChars] at hchars
  rw [← String.toList_inj, toList_collapse, String.toList_intercalate, String.toList_intercalate]
  exact hchars

/-! ## Forms among the pieces -/

/-- A text that starts dark and is copied behind any character. -/
structure IsForm (f : String) : Prop where
  dark : StartsDark f.toList
  copies : Copies f.toList

/-- What spells tokens is a form. -/
theorem Spells.isForm {s : String} {ts : List Token} (h : Spells s ts) : IsForm s :=
  ⟨h.dark, h.copies⟩

/-- A form closes the quotes that it opens. -/
theorem IsForm.balanced {f : String} (hf : IsForm f) : Balanced f.toList :=
  hf.copies.balanced hf.dark

/-- A form is written as it is wherever the scan stands outside of quotes, perhaps behind a
space. -/
theorem IsForm.collapseFrom {f : String} (hf : IsForm f) {s : Scan} (hs : s.isOutside) :
    Sql.collapseFrom s f.toList = f.toList ∨ Sql.collapseFrom s f.toList = ' ' :: f.toList := by
  have hself : collapseChars f.toList = f.toList := hf.copies.collapseChars_eq hf.dark
  cases s with
  | start => exact .inl hself
  | word => exact .inl hf.copies.collapse
  | gap =>
    obtain ⟨c, r, hcr, -⟩ := hf.dark
    rw [collapseFrom_gap, hself, spaced, if_neg (by simp [hcr])]
    exact .inr rfl
  | quoted q => cases hs
  | escaped q => cases hs

/-- The text is made of balanced pieces, and the forms are among them. -/
def Carries (s : String) (forms : List String) : Prop :=
  ∃ pieces : List String, String.join pieces = s ∧ (∀ p ∈ pieces, Balanced p.toList) ∧
    ∀ f ∈ forms, f ∈ pieces ∧ IsForm f

namespace Carries

variable {a b : String} {fs gs : List String}

/-- A balanced text is one piece, without a form. -/
theorem text (s : String) (hs : Balanced s.toList) : Carries s [] :=
  ⟨[s], by simp, by simpa using hs, by simp⟩

/-- A form is one piece, and carries itself. -/
theorem form {f : String} (hf : IsForm f) : Carries f [f] :=
  ⟨[f], by simp, by simpa using hf.balanced, by simpa using hf⟩

/-- The forms of two texts are among the pieces of both, one behind the other. -/
theorem append (ha : Carries a fs) (hb : Carries b gs) : Carries (a ++ b) (fs ++ gs) := by
  obtain ⟨ps, rfl, hps, hfs⟩ := ha
  obtain ⟨qs, rfl, hqs, hgs⟩ := hb
  refine ⟨ps ++ qs, by simp, fun p hp => ?_, fun f hf => ?_⟩
  · rcases List.mem_append.1 hp with hp | hp
    · exact hps p hp
    · exact hqs p hp
  · rcases List.mem_append.1 hf with hf | hf
    · exact ⟨List.mem_append_left _ (hfs f hf).1, (hfs f hf).2⟩
    · exact ⟨List.mem_append_right _ (hgs f hf).1, (hgs f hf).2⟩

/-- Texts that stand one behind the other carry the forms of all of them. -/
theorem join {α : Type} {f : α → String} {g : α → List String} {l : List α}
    (h : ∀ x ∈ l, Carries (f x) (g x)) : Carries (String.join (l.map f)) (l.flatMap g) := by
  induction l with
  | nil => exact text "" rfl
  | cons x l ih =>
    rw [List.map_cons, String.join_cons, List.flatMap_cons]
    exact (h x (by simp)).append (ih fun y hy => h y (by simp [hy]))

/-- Texts with a separator between them. -/
theorem intercalate {sep : String} (hsep : Carries sep []) {α : Type} {f : α → String}
    {g : α → List String} {l : List α} (h : ∀ x ∈ l, Carries (f x) (g x)) :
    Carries (sep.intercalate (l.map f)) (l.flatMap g) := by
  induction l with
  | nil => exact text "" rfl
  | cons x l ih =>
    have hrest := ih fun y hy => h y (by simp [hy])
    cases l with
    | nil => simpa using h x (by simp)
    | cons y l =>
      have hx := ((h x (by simp)).append hsep).append hrest
      simpa using hx

/-- Blanks in front may be dropped, since no form starts with one. -/
theorem dropBlanks (ha : Carries a fs) :
    Carries (String.ofList (a.toList.dropWhile Text.isBlank)) fs := by
  obtain ⟨ps, rfl, hps, hfs⟩ := ha
  induction ps with
  | nil =>
    refine ⟨[], by simp, by simp, fun f hf => ?_⟩
    exact absurd (hfs f hf).1 (by simp)
  | cons p ps ih =>
    rw [String.join_cons, String.toList_append]
    by_cases hblank : p.toList.all Text.isBlank
    · -- the piece is dropped as a whole, so it is no form
      rw [List.all_eq_true] at hblank
      rw [List.dropWhile_append_of_pos hblank]
      refine ih (fun q hq => hps q (by simp [hq])) fun f hf => ⟨?_, (hfs f hf).2⟩
      obtain ⟨hmem, hform⟩ := hfs f hf
      refine (List.mem_cons.1 hmem).resolve_left ?_
      rintro rfl
      obtain ⟨c, r, hcr, hc⟩ := hform.dark
      have hc' := hblank c (by simp [hcr])
      rw [hc] at hc'
      cases hc'
    · have hne : p.toList.dropWhile Text.isBlank ≠ [] := by
        intro hnil
        have hany := List.any_dropWhile (p := Text.isBlank) (l := p.toList)
        rw [hnil, List.any_nil, eq_comm, Bool.not_eq_false'] at hany
        exact hblank hany
      have hdrop : (p.toList ++ (String.join ps).toList).dropWhile Text.isBlank =
          p.toList.dropWhile Text.isBlank ++ (String.join ps).toList := by
        rw [List.dropWhile_append, if_neg (by simpa using hne)]
      refine ⟨String.ofList (p.toList.dropWhile Text.isBlank) :: ps, ?_, fun q hq => ?_,
        fun f hf => ⟨?_, (hfs f hf).2⟩⟩
      · rw [hdrop, ← String.toList_inj]
        simp
      · rcases List.mem_cons.1 hq with rfl | hq
        · rw [String.toList_ofList]
          exact balanced_dropBlanks (hps p (by simp))
        · exact hps q (by simp [hq])
      · obtain ⟨hmem, hform⟩ := hfs f hf
        rcases List.mem_cons.1 hmem with rfl | hmem
        · obtain ⟨c, r, hcr, hc⟩ := hform.dark
          have hsame : f.toList.dropWhile Text.isBlank = f.toList := by simp [hcr, hc]
          rw [hsame, String.ofList_toList]
          exact List.mem_cons_self
        · exact List.mem_cons_of_mem _ hmem

/-- **What is made of balanced pieces is balanced.** -/
theorem balanced (ha : Carries a fs) : Balanced a.toList := by
  obtain ⟨ps, rfl, hps, -⟩ := ha
  rw [String.toList_join]
  exact balanced_flatMap hps

/-- **Collapsing keeps every form.** -/
theorem isInfix_collapse (ha : Carries a fs) {f : String} (hf : f ∈ fs) :
    f.toList <:+: (collapse a).toList := by
  obtain ⟨ps, rfl, hps, hfs⟩ := ha
  obtain ⟨hmem, hform⟩ := hfs f hf
  obtain ⟨before, behind, rfl⟩ := List.append_of_mem hmem
  have hbefore : Balanced (before.flatMap String.toList) :=
    balanced_flatMap fun p hp => hps p (by simp [hp])
  have htext : (String.join (before ++ f :: behind)).toList =
      before.flatMap String.toList ++ (f.toList ++ behind.flatMap String.toList) := by simp
  rw [toList_collapse, htext, collapseChars, collapseFrom_append, collapseFrom_append]
  rcases hform.collapseFrom hbefore with h | h
  · rw [h, ← List.append_assoc]
    exact List.infix_append _ _ _
  · rw [h, List.cons_append, ← List.singleton_append, ← List.append_assoc, ← List.append_assoc]
    exact List.infix_append _ _ _

end Carries

end SqlBridge.Sql
