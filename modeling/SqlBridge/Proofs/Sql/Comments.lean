import SqlBridge.Proofs.Sql.Pieces

/-!
# Collapsing texts with comments

Collapsing knows of quotes, not of comments. What it writes is read as the text was, as long as
three things hold at every character (`CollapsibleFrom`): a blank outside of quotes and comments is
one of the server's; where a comment ends, the quotes in it are closed; and behind the line end of
a line comment no token stands any more, since that line end is not kept.

The scan and the reader go side by side. `Agrees` says how their places belong together: outside of
comments they see the same quotes, within comments the scan may be anywhere. A character that is
copied keeps them together (`Agrees.copied`), and a blank leads the reader where a space does
(`Lexer.step_blank`). So the collapsed text is read as the text itself, and whatever stands behind
the line end of a line comment is read as a part of the comment (`tokensFrom_collapse_append`).
-/

namespace SqlBridge.Sql

/-! ## Characters -/

/-- A character is a quote exactly if it is the one that its mark is written as. -/
theorem QuoteMark.ofChar?_eq_some {c : Char} {q : QuoteMark} :
    ofChar? c = some q ↔ c = q.char := by
  constructor
  · intro h
    unfold ofChar? at h
    grind [QuoteMark.char]
  · rintro rfl
    cases q <;> rfl

/-- The server's blanks are blanks. -/
theorem isBlank_of_isSpace {c : Char} (hc : isSpace c) : Text.isBlank c := by
  simp only [isSpace, Bool.or_eq_true, beq_iff_eq, Bool.and_eq_true, decide_eq_true_eq] at hc
  simp only [Text.isBlank, Bool.or_eq_true, beq_iff_eq, Bool.and_eq_true, decide_eq_true_eq]
  omega

/-- The server has six blanks. -/
theorem isSpace_iff_mem {c : Char} :
    isSpace c ↔ c ∈ [' ', '\t', '\n', '\x0b', '\x0c', '\r'] := by
  constructor
  · intro hc
    have hn : c.toNat ∈ [' ', '\t', '\n', '\x0b', '\x0c', '\r'].map Char.toNat := by
      simp only [isSpace, Bool.or_eq_true, beq_iff_eq, Bool.and_eq_true, decide_eq_true_eq] at hc
      show c.toNat ∈ [32, 9, 10, 11, 12, 13]
      simp only [List.mem_cons, List.not_mem_nil, or_false]
      omega
    obtain ⟨d, hd, hdc⟩ := List.mem_map.1 hn
    rwa [← Char.toNat_inj.1 hdc]
  · have hall : [' ', '\t', '\n', '\x0b', '\x0c', '\r'].all isSpace := by decide
    exact List.all_eq_true.1 hall c

/-- The characters of words and of signs that are continued. -/
def continues (c : Char) : Bool :=
  isWordChar c || ['.', '+', '-', '*', '=', '>', '|', '&', '<'].contains c

/-- What belongs to a token is no blank and no quote. -/
theorem continues_ordinary {c : Char} (hc : continues c) :
    isSpace c = false ∧ QuoteMark.ofChar? c = none := by
  constructor
  · rw [Bool.eq_false_iff, Ne, isSpace_iff_mem]
    intro hmem
    have hall : [' ', '\t', '\n', '\x0b', '\x0c', '\r'].all (!continues ·) := by decide
    have hnot : continues c = false := by simpa using List.all_eq_true.1 hall c hmem
    rw [hnot] at hc
    cases hc
  · rw [Option.eq_none_iff_forall_ne_some]
    intro q hq
    rw [QuoteMark.ofChar?_eq_some] at hq
    subst hq
    cases q <;> revert hc <;> decide

/-! ## Places of the reader -/

namespace Lexer

/-- Where a text leads. -/
def after (l : Lexer) (text : List Char) : Lexer := text.foldl (fun l c => (l.step c).2) l

@[simp] theorem after_nil (l : Lexer) : l.after [] = l := rfl

@[simp] theorem after_cons (l : Lexer) (c : Char) (r : List Char) :
    l.after (c :: r) = (l.step c).2.after r := rfl

/-- Outside of quotes and comments. -/
def isOpen : Lexer → Bool
  | between => true
  | dashes => true
  | l => l.isPending

/-- Within a comment. -/
def inComment : Lexer → Bool
  | lineComment => true
  | blockComment => true
  | blockStar => true
  | _ => false

/-- Where a line end ends a comment. -/
def inLine : Lexer → Bool
  | lineComment => true
  | dashes => true
  | _ => false

/-- Where blanks lead. -/
def isIdle : Lexer → Bool
  | between => true
  | lineComment => true
  | blockComment => true
  | bad => true
  | _ => false

/-- **What belongs to a pending token**: more of the same, an apostrophe behind an `X`, or a quote
that is written twice. -/
theorem extend?_cases {l t : Lexer} {c : Char} (h : l.extend? c = some t) :
    continues c ∧ (t.isOpen ∨ t = .blockComment) ∨
      c = '\'' ∧ t = .hex [] ∨ ∃ q w, c = q.char ∧ t = .quoted q w := by
  have hdigit : c.isDigit → isWordChar c := fun h => by simp [isWordChar, Char.isAlphanum, h]
  have hmark : c = 'e' ∨ c = 'E' → isWordChar c := by rintro (rfl | rfl) <;> decide
  cases l with
  | word w => grind [extend?, isOpen, isPending, continues]
  | digits w => grind [extend?, isOpen, isPending, continues]
  | fraction w => grind [extend?, isOpen, isPending, continues]
  | exponent w => grind [extend?, isOpen, isPending, continues]
  | sign w =>
    have hlong := @longSigns_last w c
    simp only [extend?] at h
    grind [isOpen, isPending, continues]
  | closing q w => grind [extend?, isOpen, isPending]
  | _ => cases h

/-- No blank belongs to a token that is pending. -/
theorem extend?_space {l : Lexer} {c : Char} (hc : isSpace c) : l.extend? c = none := by
  cases hext : l.extend? c with
  | none => rfl
  | some t =>
    rcases extend?_cases hext with ⟨hcont, -⟩ | ⟨rfl, -⟩ | ⟨q, w, rfl, -⟩
    · rw [(continues_ordinary hcont).1] at hc
      cases hc
    · exact absurd hc (by decide)
    · exact absurd hc (by cases q <;> decide)

/-- A blank delivers the token that is pending and begins no other one. -/
theorem settle_space {l : Lexer} {c : Char} (hc : isSpace c) :
    l.settle c = (l.pending, between) := by
  simp [settle, extend?_space hc, start, hc]

/-- **A blank leads where a space does**, within comments any blank, unless it ends the line of a
comment. -/
theorem step_blank {l : Lexer} {c : Char} (hl : l.isOpen ∨ l.inComment ∨ l = bad)
    (hb : Text.isBlank c) (hc : l.isOpen → isSpace c) (hline : ¬(l.inLine ∧ c = '\n')) :
    l.step c = l.step ' ' := by
  have hspace : isSpace ' ' := by decide
  have hpending : l.isPending → l.step c = l.step ' ' := fun hp => by
    have hopen : l.isOpen := by cases l <;> first | rfl | cases hp
    rw [step_of_isPending hp, step_of_isPending hp, settle_space (hc hopen), settle_space hspace]
  cases l with
  | between => rw [step_between, step_between, start, start, if_pos (hc rfl), if_pos hspace]
  | dashes =>
    have hne : c ≠ '\n' := fun h => hline ⟨rfl, h⟩
    simp [step, hne, hc rfl, hspace]
  | lineComment =>
    have hne : c ≠ '\n' := fun h => hline ⟨rfl, h⟩
    simp [step, hne]
  | blockComment =>
    have hne : c ≠ '*' := by rintro rfl; revert hb; decide
    simp [step, hne]
  | blockStar =>
    have hne : c ≠ '*' ∧ c ≠ '/' := by constructor <;> rintro rfl <;> revert hb <;> decide
    simp [step, hne]
  | bad => rfl
  | quoted q w => simp [isOpen, isPending, inComment] at hl
  | escaped q w => simp [isOpen, isPending, inComment] at hl
  | hex w => simp [isOpen, isPending, inComment] at hl
  | _ => exact hpending rfl

/-- Where a space leads, further ones lead nowhere. -/
theorem isIdle_step_space {l : Lexer} (hl : l.isOpen ∨ l.inComment ∨ l = bad) :
    (l.step ' ').2.isIdle := by
  have hspace : isSpace ' ' := by decide
  have hpending : l.isPending → (l.step ' ').2.isIdle := fun hp => by
    rw [step_of_isPending hp, settle_space hspace]
    rfl
  cases l with
  | quoted q w => simp [isOpen, isPending, inComment] at hl
  | escaped q w => simp [isOpen, isPending, inComment] at hl
  | hex w => simp [isOpen, isPending, inComment] at hl
  | between | dashes | lineComment | blockComment | blockStar | bad => rfl
  | _ => exact hpending rfl

/-- Where blanks lead a space changes nothing. -/
theorem step_of_isIdle {l : Lexer} (hl : l.isIdle) : l.step ' ' = ([], l) := by
  cases l <;> first | rfl | cases hl

/-- A space at the end makes no difference. -/
theorem finish_space {l : Lexer} (hl : l.isOpen ∨ l.inComment ∨ l = bad) :
    prepend (l.step ' ').1 (l.step ' ').2.finish = l.finish := by
  have hspace : isSpace ' ' := by decide
  have hpending : l.isPending → prepend (l.step ' ').1 (l.step ' ').2.finish = l.finish := by
    intro hp
    rw [step_of_isPending hp, settle_space hspace, finish_of_isPending hp]
    simp [finish, pending]
  cases l with
  | quoted q w => simp [isOpen, isPending, inComment] at hl
  | escaped q w => simp [isOpen, isPending, inComment] at hl
  | hex w => simp [isOpen, isPending, inComment] at hl
  | between | dashes | lineComment | blockComment | blockStar | bad => rfl
  | _ => exact hpending rfl

/-- A space goes on with a comment, and makes two dashes one. -/
theorem step_space_of_inLine {l : Lexer} (hl : l.inLine) : l.step ' ' = ([], lineComment) := by
  cases l <;> first | rfl | cases hl

/-- A line end ends the comment. -/
theorem step_lineEnd {l : Lexer} (hl : l.inLine) : l.step '\n' = ([], between) := by
  cases l <;> first | rfl | cases hl

end Lexer

/-- Nothing but a line end leads out of the comment of a line. -/
theorem tokensFrom_lineComment {text : List Char} (h : '\n' ∉ text) :
    tokensFrom .lineComment text = some [] := by
  induction text with
  | nil => rfl
  | cons c r ih =>
    rw [List.mem_cons, not_or] at h
    simpa [Lexer.step, Ne.symm h.1] using ih h.2

/-- A text behind a space is read from where the space leads. -/
theorem tokensFrom_spaced {l : Lexer} (hl : l.isOpen ∨ l.inComment ∨ l = .bad) (text : List Char) :
    tokensFrom l (spaced text) = prepend (l.step ' ').1 (tokensFrom (l.step ' ').2 text) := by
  cases text with
  | nil => exact (Lexer.finish_space hl).symm
  | cons c r => rw [spaced, if_neg (List.cons_ne_nil c r), tokensFrom_cons]

/-! ## The scan and the reader side by side -/

/-- How the places of the scan and of the reader belong together. Outside of comments they see the
same quotes; the scan takes a backslash in the digits of bytes for an escape, but then the digits
are no bytes. -/
inductive Agrees : Scan → Lexer → Prop
  | start {l : Lexer} (h : l.isIdle) : Agrees .start l
  | word {l : Lexer} (h : l.isOpen) : Agrees .word l
  | quoted (q : QuoteMark) (w : List Char) : Agrees (.quoted q) (.quoted q w)
  | escaped (q : QuoteMark) (w : List Char) : Agrees (.escaped q) (.escaped q w)
  | hex (w : List Char) : Agrees (.quoted .apostrophe) (.hex w)
  | hexEscaped {w : List Char} (h : '\\' ∈ w) : Agrees (.escaped .apostrophe) (.hex w)
  | comment {s : Scan} {l : Lexer} (h : l.inComment) (hstart : s ≠ .start) (hgap : s ≠ .gap) :
    Agrees s l
  | bad {s : Scan} (hgap : s ≠ .gap) : Agrees s .bad

namespace Agrees

variable {s : Scan} {l : Lexer} {c : Char}

/-- A reader that agrees has no blank to come. -/
theorem ne_gap (h : Agrees s l) : s ≠ .gap := by
  cases h with
  | comment _ _ hgap => exact hgap
  | bad hgap => exact hgap
  | _ => nofun

/-- A comment is begun outside of quotes. -/
theorem word_comment (h : l.inComment) : Agrees .word l := .comment h nofun nofun

/-- Outside of quotes a reader is in none either. -/
theorem loose (h : Agrees s l) (hs : s.isOutside) : l.isOpen ∨ l.inComment ∨ l = .bad := by
  cases h with
  | start h => cases l <;> simp [Lexer.isIdle, Lexer.isOpen, Lexer.inComment] at h ⊢
  | word h => exact .inl h
  | comment h => exact .inr (.inl h)
  | bad => exact .inr (.inr rfl)
  | _ => cases hs

/-- A character that begins something new begins the same for both. -/
theorem plain_start (hb : Text.isBlank c = false) : Agrees (Scan.afterPlain c) (Lexer.start c) := by
  have hspace : isSpace c = false := by
    rw [Bool.eq_false_iff]
    intro h
    rw [isBlank_of_isSpace h] at hb
    cases hb
  unfold Scan.afterPlain Lexer.start
  rw [hspace]
  cases QuoteMark.ofChar? c with
  | some q => exact .quoted q []
  | none =>
    by_cases hdigit : c.isDigit
    · simpa [hdigit] using Agrees.word rfl
    by_cases hword : isWordChar c
    · simpa [hdigit, hword] using Agrees.word rfl
    by_cases hline : c = '#'
    · rw [if_neg hdigit, if_neg hword, if_pos hline]
      exact word_comment rfl
    · simpa [hdigit, hword, hline] using Agrees.word rfl

/-- What is no blank leads the reader to where the scan goes behind a character outside of
quotes. -/
theorem plain_settle (l : Lexer) (hb : Text.isBlank c = false) :
    Agrees (Scan.afterPlain c) (l.settle c).2 := by
  unfold Lexer.settle
  cases hext : l.extend? c with
  | none => exact plain_start hb
  | some t =>
    rcases Lexer.extend?_cases hext with ⟨hcont, ht⟩ | ⟨rfl, rfl⟩ | ⟨q, w, rfl, rfl⟩
    · rw [Scan.afterPlain, (continues_ordinary hcont).2]
      rcases ht with ht | rfl
      · exact .word ht
      · exact word_comment rfl
    · exact .hex []
    · rw [Scan.afterPlain, QuoteMark.ofChar?_eq_some.2 rfl]
      exact .quoted q w

/-- Outside of quotes and comments, what is no blank leads both to places that agree. -/
theorem plain (hl : l.isOpen) (hb : Text.isBlank c = false) :
    Agrees (Scan.afterPlain c) (l.step c).2 := by
  by_cases hp : l.isPending
  · rw [Lexer.step_of_isPending hp]
    exact plain_settle l hb
  cases l with
  | between => exact plain_start hb
  | dashes =>
    have hne : c ≠ '\n' := by rintro rfl; revert hb; decide
    by_cases hcontrol : isSpace c || isControl c
    · have hquote : Scan.afterPlain c = .word := by
        cases hq : QuoteMark.ofChar? c with
        | none => rw [Scan.afterPlain, hq]
        | some q =>
          rw [QuoteMark.ofChar?_eq_some] at hq
          subst hq
          cases q <;> revert hcontrol <;> decide
      rw [hquote]
      simpa [Lexer.step, hne, hcontrol] using word_comment (l := .lineComment) rfl
    · simpa [Lexer.step, hne, hcontrol] using plain_settle (.sign ['-']) hb
  | _ => simp_all [Lexer.isOpen]

/-- A backslash is no hexadecimal digit. -/
theorem hexBytes?_backslash {w : List Char} (h : '\\' ∈ w) : hexBytes? w = none := by
  fun_induction hexBytes? w with
  | case1 => cases h
  | case2 => rfl
  | case3 a b rest high low data hdata hlow hhigh ih =>
    have hnone : Numeral.hexDigit? '\\' = none := by decide
    simp only [List.mem_cons] at h
    rcases h with rfl | rfl | h
    · rw [hnone] at hhigh
      cases hhigh
    · rw [hnone] at hlow
      cases hlow
    · rw [ih h] at hdata
      cases hdata
  | case4 => rfl

/-- Behind a character that is copied, the scan is neither at the start nor in a gap. -/
theorem next_copied (hb : s.isOutside → Text.isBlank c = false) (hgap : s ≠ .gap) :
    s.next c ≠ .start ∧ s.next c ≠ .gap := by
  have hplain : Scan.afterPlain c ≠ .start ∧ Scan.afterPlain c ≠ .gap := by
    unfold Scan.afterPlain
    cases QuoteMark.ofChar? c <;> simp
  cases s with
  | start => simpa [Scan.next, hb rfl] using hplain
  | word => simpa [Scan.next, hb rfl] using hplain
  | gap => exact absurd rfl hgap
  | quoted q => grind [Scan.next]
  | escaped q => simp [Scan.next]

/-- **A character that is copied keeps the scan and the reader together**, as long as a comment that
ends with it leaves the scan outside of quotes. -/
theorem copied (h : Agrees s l) (hb : s.isOutside → Text.isBlank c = false)
    (hq : l.inComment → (l.step c).2 = .between → (s.next c).isOutside) :
    Agrees (s.next c) (l.step c).2 := by
  obtain ⟨hstart, hgap⟩ := next_copied hb h.ne_gap
  have hcomment : l.inComment → Agrees (s.next c) (l.step c).2 := by
    intro hl
    have hstep : (l.step c).2 = .between ∨ (l.step c).2.inComment := by
      cases l <;> grind [Lexer.step, Lexer.inComment]
    rcases hstep with hstep | hstep
    · have hword : s.next c = .word := by
        have hout := hq hl hstep
        cases hs : s.next c <;> simp_all [Scan.isOutside]
      rw [hstep, hword]
      exact .word rfl
    · exact .comment hstep hstart hgap
  cases h with
  | start h =>
    cases l with
    | between => simpa [Scan.next, hb rfl] using plain (l := .between) rfl (hb rfl)
    | lineComment | blockComment => exact hcomment rfl
    | bad => exact .bad hgap
    | _ => cases h
  | word h => simpa [Scan.next, hb rfl] using plain h (hb rfl)
  | quoted q w =>
    simp only [Scan.next, Lexer.step]
    by_cases hescape : c = '\\' ∧ q.hasEscapes
    · rw [if_pos hescape, if_pos hescape]
      exact .escaped q w
    rw [if_neg hescape, if_neg hescape]
    by_cases hclose : c = q.char
    · rw [if_pos hclose, if_pos hclose]
      exact .word rfl
    · rw [if_neg hclose, if_neg hclose]
      exact .quoted q _
  | escaped q w => exact .quoted q _
  | hex w =>
    by_cases hescape : c = '\\'
    · subst hescape
      exact .hexEscaped (w := w ++ ['\\']) (by simp)
    by_cases hclose : c = '\''
    · subst hclose
      cases hbytes : hexBytes? w with
      | some data => simpa [Scan.next, Lexer.step, QuoteMark.char, hbytes] using Agrees.word rfl
      | none =>
        have hagrees : Agrees .word .bad := .bad (by simp)
        simpa [Scan.next, Lexer.step, QuoteMark.char, hbytes] using hagrees
    · simpa [Scan.next, Lexer.step, QuoteMark.char, hescape, hclose] using Agrees.hex (w ++ [c])
  | hexEscaped h =>
    by_cases hclose : c = '\''
    · subst hclose
      have hagrees : Agrees (.quoted .apostrophe) .bad := .bad (by simp)
      simpa [Scan.next, Lexer.step, hexBytes?_backslash h] using hagrees
    · simpa [Scan.next, Lexer.step, hclose] using Agrees.hex _
  | comment h => exact hcomment h
  | bad => exact .bad hgap

end Agrees

/-! ## Texts that are collapsed without loss -/

/-- From where the scan and the reader stand, collapsing loses nothing: a blank outside of quotes
and comments is one of the server's, a comment closes the quotes that are opened in it, and behind
the line end of a line comment stands no token, and no line end that is kept. -/
def CollapsibleFrom : Scan → Lexer → List Char → Prop
  | _, _, [] => True
  | s, l, c :: r =>
    (l.isOpen → Text.isBlank c → isSpace c) ∧
      (l.inComment → (l.step c).2 = .between → (s.next c).isOutside) ∧
      (l.inLine → c = '\n' → tokensFrom .between r = some [] ∧ '\n' ∉ collapseChars r) ∧
      CollapsibleFrom (s.next c) (l.step c).2 r

instance decidableCollapsibleFrom :
    (s : Scan) → (l : Lexer) → (text : List Char) → Decidable (CollapsibleFrom s l text)
  | _, _, [] => inferInstanceAs (Decidable True)
  | s, l, c :: r =>
    haveI := decidableCollapsibleFrom (s.next c) (l.step c).2 r
    inferInstanceAs (Decidable (_ ∧ _ ∧ _ ∧ _))

/-- As far as quotes go, all states outside of them are alike. -/
theorem CollapsibleFrom.of_isOutside {s t : Scan} (hs : s.isOutside) (ht : t.isOutside) {l : Lexer}
    {text : List Char} (h : CollapsibleFrom s l text) : CollapsibleFrom t l text := by
  induction text generalizing s t l with
  | nil => trivial
  | cons c r ih =>
    obtain ⟨hblank, hquotes, hline, hrest⟩ := h
    by_cases hc : Text.isBlank c
    · have hnext : ∀ u : Scan, u.isOutside → (u.next c).isOutside := by
        intro u hu
        cases u <;> simp_all [Scan.isOutside, Scan.next]
      exact ⟨hblank, fun _ _ => hnext t ht, hline, ih (hnext s hs) (hnext t ht) hrest⟩
    · have hnext : ∀ u : Scan, u.isOutside → u.next c = Scan.afterPlain c := by
        intro u hu
        cases u <;> simp_all [Scan.isOutside, Scan.next]
      rw [hnext s hs] at hquotes hrest
      refine ⟨hblank, ?_, hline, ?_⟩ <;> rw [hnext t ht]
      · exact hquotes
      · exact hrest

/-- What may stand behind a text that is collapsed without loss: wherever the scan is then, it keeps
no line end, and the reader takes what is left of it for the end of the text. -/
def Ends (s : Scan) (l : Lexer) (rest : List Char) : Prop :=
  ∀ t : Scan, t.isOutside = s.isOutside → '\n' ∉ collapseFrom t rest ∧
    (Agrees t l → tokensFrom l (collapseFrom t rest) = l.finish)

/-- What may stand behind depends on the scan only by whether it is outside of quotes. -/
theorem Ends.of_isOutside {s t : Scan} {l : Lexer} {rest : List Char} (h : Ends s l rest)
    (hst : s.isOutside = t.isOutside) : Ends t l rest :=
  fun u hu => h u (hu.trans hst.symm)

/-- The end of the text may stand behind any text. -/
theorem ends_nil (s : Scan) (l : Lexer) : Ends s l [] := fun _ _ => ⟨nofun, fun _ => rfl⟩

/-- A blank outside of quotes is read as a space, also where nothing is written for it. -/
theorem tokensFrom_collapse_blank {s : Scan} {l : Lexer} {c : Char} (ha : Agrees s l)
    (hs : s.isOutside) (hc : Text.isBlank c) (r : List Char) :
    tokensFrom l (collapseFrom s (c :: r)) =
      prepend (l.step ' ').1 (tokensFrom (l.step ' ').2 (collapseChars r)) := by
  cases s with
  | start =>
    have hidle : l.isIdle := by
      cases ha with
      | start h => exact h
      | comment _ hstart => exact absurd rfl hstart
      | bad => rfl
    simp [Scan.emit, Scan.next, hc, Lexer.step_of_isIdle hidle, collapseChars]
  | word =>
    rw [← tokensFrom_spaced (ha.loose hs), ← collapseFrom_gap]
    simp [Scan.emit, Scan.next, hc]
  | gap => exact absurd rfl ha.ne_gap
  | quoted q => cases hs
  | escaped q => cases hs

/-- **What keeps no line end is lost behind the line end of a line comment.** -/
theorem tokensFrom_collapse_lineEnd {s : Scan} {l : Lexer} (ha : Agrees s l) (hs : s.isOutside)
    (hl : l.inLine) {r : List Char} (hr : '\n' ∉ collapseChars r) :
    tokensFrom l (collapseFrom s ('\n' :: r)) = some [] := by
  rw [tokensFrom_collapse_blank ha hs (by decide), Lexer.step_space_of_inLine hl,
    tokensFrom_lineComment hr]
  rfl

/-- Behind the comment of a line a line end may stand with whatever keeps no line end: both go. -/
theorem ends_lineEnd {s : Scan} {l : Lexer} (hs : s.isOutside) (hl : l.inLine) {r : List Char}
    (hr : '\n' ∉ collapseChars r) : Ends s l ('\n' :: r) := by
  intro t ht
  rw [hs] at ht
  have hblank : Text.isBlank '\n' := by decide
  refine ⟨?_, fun ha => ?_⟩
  · have hgap : '\n' ∉ collapseFrom .gap r := by
      rw [collapseFrom_gap, spaced]
      split
      · exact List.not_mem_nil
      · simpa using hr
    cases t with
    | start => simpa [Scan.emit, Scan.next, hblank, collapseChars] using hr
    | word => simpa [Scan.emit, Scan.next, hblank] using hgap
    | gap => simpa [Scan.emit, Scan.next, hblank] using hgap
    | quoted q => cases ht
    | escaped q => cases ht
  · rw [tokensFrom_collapse_lineEnd ha ht hl hr]
    cases l <;> first | rfl | cases hl

/-- **The collapsed text is read as the text itself**, also in front of what adds nothing. -/
theorem tokensFrom_collapse_append {s : Scan} {l : Lexer} {text rest : List Char}
    (ha : Agrees s l) (h : CollapsibleFrom s l text)
    (hends : Ends (s.after text) (l.after text) rest) :
    tokensFrom l (collapseFrom s (text ++ rest)) = tokensFrom l text := by
  induction text generalizing s l with
  | nil => exact (hends s rfl).2 ha
  | cons c r ih =>
    obtain ⟨hblank, hquotes, hline, hrest⟩ := h
    rw [List.cons_append]
    by_cases hc : s.isOutside ∧ Text.isBlank c
    · obtain ⟨hs, hc⟩ := hc
      have hnext : (s.next c).isOutside := by
        cases s <;> simp_all [Scan.isOutside, Scan.next]
      have hends : Ends (Scan.start.after r) ((l.step c).2.after r) rest :=
        hends.of_isOutside (isOutside_after hnext r)
      by_cases hend : l.inLine ∧ c = '\n'
      · -- the line end is not kept, and nothing stands behind it
        obtain ⟨hl, rfl⟩ := hend
        obtain ⟨hnone, hkept⟩ := hline hl rfl
        have hkept : '\n' ∉ collapseChars (r ++ rest) := by
          rw [collapseChars, collapseFrom_append, List.mem_append, not_or]
          exact ⟨hkept, (hends _ rfl).1⟩
        rw [tokensFrom_collapse_lineEnd ha hs hl hkept, tokensFrom_cons, Lexer.step_lineEnd hl,
          hnone]
        rfl
      · have hl := ha.loose hs
        have hstep := Lexer.step_blank hl hc (fun ho => hblank ho hc) hend
        rw [hstep] at hrest hends
        have hagree : Agrees .start (l.step ' ').2 := .start (Lexer.isIdle_step_space hl)
        rw [tokensFrom_collapse_blank ha hs hc, tokensFrom_cons, hstep, collapseChars,
          ih hagree (hrest.of_isOutside hnext rfl) hends]
    · have hcopy : s.isOutside → Text.isBlank c = false := fun hs => by simpa [hs] using hc
      have hemit : s.emit c = [c] := by
        have hgap := ha.ne_gap
        cases s <;> simp_all [Scan.emit, Scan.isOutside]
      rw [collapseFrom_cons, hemit, List.singleton_append, tokensFrom_cons, tokensFrom_cons,
        ih (ha.copied hcopy hquotes) hrest hends]

/-- Collapsing loses nothing of the text (`CollapsibleFrom`). -/
def Collapsible (s : String) : Prop := CollapsibleFrom .start .between s.toList

instance (s : String) : Decidable (Collapsible s) :=
  inferInstanceAs (Decidable (CollapsibleFrom ..))

/-- The text ends in the comment of a line, and outside of quotes. -/
def EndsInLine (s : String) : Prop :=
  (Lexer.between.after s.toList).inLine ∧ (Scan.start.after s.toList).isOutside

instance (s : String) : Decidable (EndsInLine s) := inferInstanceAs (Decidable (_ ∧ _))

/-- The tokens of a text that is collapsed without loss are all that is read of it and what may
stand behind it. -/
theorem tokens_collapse_append {s rest : String} (h : Collapsible s)
    (hends : Ends (Scan.start.after s.toList) (Lexer.between.after s.toList) rest.toList) :
    tokens (collapse (s ++ rest)) = tokens s := by
  rw [tokens, toList_collapse, String.toList_append]
  exact tokensFrom_collapse_append (.start rfl) h hends

/-- **Collapsing keeps the tokens of a text that it can be applied to.** -/
theorem tokens_collapse {s : String} (h : Collapsible s) : tokens (collapse s) = tokens s := by
  have happend : tokens (collapse (s ++ "")) = tokens s := tokens_collapse_append h (ends_nil _ _)
  rwa [String.append_empty] at happend

/-- **A line comment takes with it what stands behind its line end**, unless a line end is kept
there. -/
theorem tokens_collapse_lineEnd {s rest : String} (h : Collapsible s) (hline : EndsInLine s)
    (hrest : '\n' ∉ (collapse rest).toList) :
    tokens (collapse (s ++ "\n" ++ rest)) = tokens s := by
  rw [toList_collapse] at hrest
  have hends := ends_lineEnd hline.2 hline.1 hrest
  rw [String.append_assoc]
  refine tokens_collapse_append h ?_
  rw [String.toList_append]
  exact hends

end SqlBridge.Sql
