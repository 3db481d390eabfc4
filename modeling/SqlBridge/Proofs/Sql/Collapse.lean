import SqlBridge.Sql.Whitespace

/-!
# Collapsing texts that are put together

White space is collapsed over a whole statement, after its parts have been put together. Two
facts let the parts be looked at one by one.

* `collapseChars_intercalate`: parts whose quotes are balanced (`Balanced`) and that are joined by
  spaces can be collapsed each on its own; those of which nothing is left disappear.
* `Copies` is the text that collapsing leaves alone wherever it stands behind another character;
  it is closed under putting such texts together, with single spaces between them if need be.
-/

namespace SqlBridge.Sql

/-! ## Balanced texts -/

/-- The scan stands outside of quotes. -/
def Scan.isOutside : Scan → Bool
  | .start => true
  | .word => true
  | .gap => true
  | _ => false

/-- Every quote that the text opens is closed in it. -/
def Balanced (s : List Char) : Prop := (Scan.start.after s).isOutside

instance (s : List Char) : Decidable (Balanced s) :=
  inferInstanceAs (Decidable (_ = true))

/-- A text with the space that separates it from what stands before, if there is any text. -/
def spaced (s : List Char) : List Char := if s = [] then [] else ' ' :: s

/-- Behind a gap a text is written as on its own, with a space in front. -/
theorem collapseFrom_gap (s : List Char) :
    collapseFrom .gap s = spaced (collapseChars s) := by
  induction s with
  | nil => rfl
  | cons c r ih =>
    by_cases hc : Text.isBlank c
    · simpa [collapseChars, Scan.emit, Scan.next, hc] using ih
    · simp [collapseChars, spaced, Scan.emit, Scan.next, hc]

/-- Behind other text a blank is written in front of what is left, if anything is. -/
theorem head_collapseFrom {s : Scan} (hs : s ≠ .start) (text : List Char) :
    ∀ c ∈ (collapseFrom s (' ' :: text)).head?, c = ' ' := by
  have hspaced : ∀ c ∈ (collapseFrom .gap text).head?, c = ' ' := by
    rw [collapseFrom_gap, spaced]
    split <;> simp
  cases s with
  | start => exact absurd rfl hs
  | word => exact hspaced
  | gap => exact hspaced
  | quoted q => simp [Scan.emit]
  | escaped q => simp [Scan.emit]

/-- A gap is as good as the start as far as quotes go. -/
theorem isOutside_after_gap (s : List Char) :
    (Scan.gap.after s).isOutside = (Scan.start.after s).isOutside := by
  induction s with
  | nil => rfl
  | cons c r ih =>
    by_cases hc : Text.isBlank c
    · simpa [Scan.next, hc] using ih
    · simp [Scan.next, hc]

/-- The scan is still at the start exactly as long as nothing was written. -/
theorem collapseChars_eq_nil_iff (s : List Char) :
    collapseChars s = [] ↔ Scan.start.after s = .start := by
  suffices h : ∀ s, (collapseChars s = [] ↔ Scan.start.after s = .start) ∧
      ∀ t : Scan, t ≠ .start → t.after s ≠ .start from (h s).1
  intro s
  induction s with
  | nil => exact ⟨by simp [collapseChars], fun t ht => ht⟩
  | cons c r ih =>
    -- once something was written, no character leads back to the start
    have hstay : ∀ t : Scan, t ≠ .start → t.next c ≠ .start := by
      intro t ht
      cases t <;> grind [Scan.next, Scan.afterPlain]
    refine ⟨?_, fun t ht => ih.2 _ (hstay t ht)⟩
    by_cases hc : Text.isBlank c
    · simpa [collapseChars, Scan.emit, Scan.next, hc] using ih.1
    · have hplain : Scan.afterPlain c ≠ .start := by grind [Scan.afterPlain]
      have := ih.2 _ hplain
      simpa [collapseChars, Scan.emit, Scan.next, hc] using this

/-- **Two texts with a space between them** are collapsed each on its own, when the first one is
balanced. -/
theorem collapseChars_append_space {a : List Char} (ha : Balanced a) (b : List Char) :
    collapseChars (a ++ ' ' :: b) =
      if collapseChars a = [] then collapseChars b
      else collapseChars a ++ spaced (collapseChars b) := by
  have hblank : Text.isBlank ' ' := by decide
  have hsplit : collapseChars (a ++ ' ' :: b) =
      collapseChars a ++ collapseFrom (Scan.start.after a) (' ' :: b) :=
    collapseFrom_append .start a (' ' :: b)
  by_cases hnil : collapseChars a = []
  · rw [if_pos hnil, hsplit, hnil, (collapseChars_eq_nil_iff a).1 hnil]
    simp [Scan.emit, Scan.next, hblank, collapseChars]
  · have hne : Scan.start.after a ≠ .start := fun h => hnil ((collapseChars_eq_nil_iff a).2 h)
    rw [if_neg hnil, hsplit, ← collapseFrom_gap]
    unfold Balanced at ha
    cases hs : Scan.start.after a with
    | start => exact absurd hs hne
    | word => simp [Scan.emit, Scan.next, hblank]
    | gap => simp [Scan.emit, Scan.next, hblank]
    | quoted q => simp [hs, Scan.isOutside] at ha
    | escaped q => simp [hs, Scan.isOutside] at ha

/-- Two balanced texts with a space between them are balanced. -/
theorem Balanced.append_space {a b : List Char} (ha : Balanced a) (hb : Balanced b) :
    Balanced (a ++ ' ' :: b) := by
  have hblank : Text.isBlank ' ' := by decide
  unfold Balanced at *
  rw [Scan.after_append, Scan.after_cons]
  cases hs : Scan.start.after a with
  | start => simpa [Scan.next, hblank] using hb
  | word => simpa [Scan.next, hblank, isOutside_after_gap] using hb
  | gap => simpa [Scan.next, hblank, isOutside_after_gap] using hb
  | quoted q => simp [hs, Scan.isOutside] at ha
  | escaped q => simp [hs, Scan.isOutside] at ha

/-- Lists with a separator between them are the first one and, behind the separator, the others. -/
theorem intercalate_cons_ite {α : Type} (sep : α) (a : List α) {l : List (List α)}
    (hl : ∀ b ∈ l, b ≠ []) :
    [sep].intercalate (a :: l) =
      a ++ if [sep].intercalate l = [] then [] else sep :: [sep].intercalate l := by
  cases l with
  | nil => simp
  | cons b l =>
    have hne : [sep].intercalate (b :: l) ≠ [] := by
      have hb : b ≠ [] := hl b (by simp)
      cases l <;> simp [hb]
    rw [List.intercalate_cons_cons, if_neg hne, List.append_assoc, List.singleton_append]

/-- Texts joined by spaces are the first one and, behind a space, the others. -/
theorem intercalate_cons_spaced (a : List Char) {l : List (List Char)} (hl : ∀ b ∈ l, b ≠ []) :
    [' '].intercalate (a :: l) = a ++ spaced ([' '].intercalate l) :=
  intercalate_cons_ite ' ' a hl

/-- **Balanced texts joined by spaces are collapsed one by one**, and those of which nothing is left
are left out. -/
theorem collapseChars_intercalate {l : List (List Char)} (hl : ∀ a ∈ l, Balanced a) :
    Balanced ([' '].intercalate l) ∧ collapseChars ([' '].intercalate l) =
      [' '].intercalate ((l.map collapseChars).filter (· ≠ [])) := by
  induction l with
  | nil => exact ⟨rfl, rfl⟩
  | cons a l ih =>
    have ha : Balanced a := hl a (by simp)
    obtain ⟨hbal, hcol⟩ := ih fun b hb => hl b (by simp [hb])
    -- what is left of the others, joined
    have hkept : ∀ b ∈ (l.map collapseChars).filter (· ≠ []), b ≠ [] := by simp
    by_cases hnil : l = []
    · subst hnil
      by_cases h : collapseChars a = [] <;> simp [ha, h]
    · rw [List.intercalate_cons_of_ne_nil hnil, List.append_assoc, List.singleton_append]
      refine ⟨ha.append_space hbal, ?_⟩
      rw [collapseChars_append_space ha, hcol, List.map_cons]
      by_cases h : collapseChars a = []
      · simp [h]
      · rw [if_neg h, List.filter_cons_of_pos (by simpa using h),
          intercalate_cons_spaced _ hkept]

/-! ## Texts that are copied -/

/-- Behind a character, the text is copied and the scan stays there. -/
structure Copies (s : List Char) : Prop where
  collapse : collapseFrom .word s = s
  after : Scan.word.after s = .word

/-- The first character is there and is no blank. -/
def StartsDark (s : List Char) : Prop := ∃ c r, s = c :: r ∧ Text.isBlank c = false

/-- A text starts dark whatever is added to it. -/
theorem StartsDark.append {a : List Char} (ha : StartsDark a) (b : List Char) :
    StartsDark (a ++ b) := by
  obtain ⟨c, r, rfl, hc⟩ := ha
  exact ⟨c, r ++ b, rfl, hc⟩

namespace Copies

variable {a b : List Char}

/-- The empty text is copied. -/
theorem nil : Copies [] := ⟨rfl, rfl⟩

/-- Texts that are copied are copied one behind the other. -/
theorem append (ha : Copies a) (hb : Copies b) : Copies (a ++ b) := by
  refine ⟨?_, ?_⟩
  · rw [collapseFrom_append, ha.after, ha.collapse, hb.collapse]
  · rw [Scan.after_append, ha.after, hb.after]

/-- A character that is neither a blank nor a quote is copied. -/
theorem cons {c : Char} (hblank : Text.isBlank c = false) (hquote : QuoteMark.ofChar? c = none)
    (ha : Copies a) : Copies (c :: a) := by
  refine ⟨?_, ?_⟩
  · simp [Scan.emit, Scan.next, Scan.afterPlain, hblank, hquote, ha.collapse]
  · simp [Scan.next, Scan.afterPlain, hblank, hquote, ha.after]

/-- Characters that are neither blanks nor quotes are copied. -/
theorem of_forall (h : ∀ c ∈ a, Text.isBlank c = false ∧ QuoteMark.ofChar? c = none) :
    Copies a := by
  induction a with
  | nil => exact nil
  | cons c a ih =>
    obtain ⟨hblank, hquote⟩ := h c (by simp)
    exact (ih fun x hx => h x (by simp [hx])).cons hblank hquote

/-- A single space is copied in front of a text that does not start with a blank. -/
theorem space (ha : Copies a) (hdark : StartsDark a) : Copies (' ' :: a) := by
  obtain ⟨c, r, rfl, hc⟩ := hdark
  have hblank : Text.isBlank ' ' := by decide
  obtain ⟨hcol, haft⟩ := ha
  refine ⟨?_, ?_⟩
  · simp_all [Scan.emit, Scan.next]
  · simp_all [Scan.next]

/-- A quote and what follows it up to the closing one is copied. -/
theorem quoted {q : QuoteMark} (hcol : collapseFrom (.quoted q) a = a)
    (haft : (Scan.quoted q).after a = .quoted q) : Copies (q.char :: (a ++ [q.char])) := by
  have hopen : Scan.word.next q.char = .quoted q := by cases q <;> decide
  have hemit : Scan.word.emit q.char = [q.char] := by cases q <;> decide
  have hclose : (Scan.quoted q).next q.char = .word := by cases q <;> decide
  refine ⟨?_, ?_⟩
  · rw [collapseFrom_cons, hopen, hemit, collapseFrom_append, hcol, haft]
    simp [Scan.emit]
  · rw [Scan.after_cons, hopen, Scan.after_append, haft]
    simp [hclose]

/-- A text that is copied and does not start with a blank is its own collapsed form. -/
theorem collapseChars_eq (ha : Copies a) (hdark : StartsDark a) : collapseChars a = a := by
  obtain ⟨c, r, rfl, hc⟩ := hdark
  have h := ha.collapse
  simp only [collapseFrom_cons, Scan.emit, Scan.next, hc] at h
  simpa [collapseChars, Scan.emit, Scan.next, hc] using h

/-- A text that is copied and starts dark closes the quotes that it opens. -/
theorem balanced (ha : Copies a) (hdark : StartsDark a) : Balanced a := by
  obtain ⟨c, r, rfl, hc⟩ := hdark
  have h := ha.after
  simp only [Scan.after_cons, Scan.next, hc] at h
  simp [Balanced, Scan.next, hc, Scan.isOutside] at h ⊢
  simp [h]

end Copies

/-- Between quotes everything is written as it is. -/
theorem collapseFrom_quoted {q : QuoteMark} {a : List Char}
    (h : ∀ c ∈ a, c ≠ q.char ∧ ¬(c = '\\' ∧ q.hasEscapes)) :
    collapseFrom (.quoted q) a = a ∧ (Scan.quoted q).after a = .quoted q := by
  induction a with
  | nil => exact ⟨rfl, rfl⟩
  | cons c a ih =>
    obtain ⟨hq, hb⟩ := h c (by simp)
    have hnext : (Scan.quoted q).next c = .quoted q := by
      simp only [Scan.next]
      rw [if_neg hb, if_neg hq]
    obtain ⟨hcol, haft⟩ := ih fun x hx => h x (by simp [hx])
    exact ⟨by simp [Scan.emit, hnext, hcol], by simp [hnext, haft]⟩

end SqlBridge.Sql
