import SqlBridge.Proofs.Sql.Collapse
import SqlBridge.Proofs.Sql.Token

/-!
# Texts that spell tokens

`Spells s ts` is what every rendered part of a statement satisfies: the text `s` is left alone by
collapsing and reads as the tokens `ts`, whatever follows it behind a space, a comma or a closing
parenthesis. The predicate is closed under the ways in which parts are put together (`Spells.space`,
`Spells.comma`, `Spells.parens` and their forms for lists), so a clause spells its tokens as soon
as its words, names and values do.

`SpellsPart` is the same for a part that may be missing or come with a space in front, and
`tokens_collapse_intercalate` puts such parts together to a statement.
-/

namespace SqlBridge.Sql

/-- What follows cannot belong to the token before. -/
def Breaks (r : List Char) : Prop := ∀ c ∈ r.head?, c = ' ' ∨ c = ',' ∨ c = ')'

/-- The end of the text breaks. -/
theorem breaks_nil : Breaks [] := by simp [Breaks]

/-- A space breaks. -/
theorem breaks_space (r : List Char) : Breaks (' ' :: r) := by simp [Breaks]

/-- A comma breaks. -/
theorem breaks_comma (r : List Char) : Breaks (',' :: r) := by simp [Breaks]

/-- A closing parenthesis breaks. -/
theorem breaks_paren (r : List Char) : Breaks (')' :: r) := by simp [Breaks]

/-- The characters read as the tokens, in front of anything that breaks. -/
def Reads (s : List Char) (ts : List Token) : Prop :=
  ∀ r, Breaks r → tokensFrom .between (s ++ r) = prepend ts (tokensFrom .between r)

/-- The text is copied by collapsing and reads as the tokens. -/
structure Spells (s : String) (ts : List Token) : Prop where
  dark : StartsDark s.toList
  copies : Copies s.toList
  reads : Reads s.toList ts

/-! ## Signs -/

/-- Only these characters continue a sign. -/
theorem longSigns_last {w : List Char} {c : Char} (h : longSigns.contains (w ++ [c])) :
    c ∈ ['=', '>', '|', '&', '<'] := by
  have hlast : ∀ l ∈ longSigns, ∀ d ∈ l.getLast?, d ∈ ['=', '>', '|', '&', '<'] := by
    simp [longSigns]
  exact hlast _ (List.contains_iff_mem.1 h) c (by simp)

/-- Only these characters are continued. -/
theorem longSigns_head {c d : Char} (h : longSigns.contains [c, d]) :
    c ∈ ['<', '>', '!', ':', '|', '&', '-'] := by
  have hhead : ∀ l ∈ longSigns, ∀ d ∈ l.head?, d ∈ ['<', '>', '!', ':', '|', '&', '-'] := by
    simp [longSigns]
  exact hhead _ (List.contains_iff_mem.1 h) c (by simp)

/-- A sign ends in front of whatever breaks. -/
theorem reads_sign {w : List Char} (hstart : ∀ r, tokensFrom .between (w ++ r) =
    tokensFrom (.sign w) r) : Reads w [.sign (String.ofList w)] := by
  intro r hr
  rw [hstart, tokensFrom_pending (s := .sign w) rfl fun c hc => ?_]
  · rfl
  have hlong : longSigns.contains (w ++ [c]) = false := by
    rw [Bool.eq_false_iff]
    intro h
    have hlast := longSigns_last h
    rcases hr c hc with rfl | rfl | rfl <;> revert hlast <;> decide
  simp only [Lexer.extend?, hlong, Bool.false_eq_true, if_false]
  rcases hr c hc with rfl | rfl | rfl <;> simp

/-- A sign that nothing continues ends at once. -/
theorem tokensFrom_between_sign {c : Char} (hstart : Lexer.start c = .sign [c])
    (hc : c ∉ ['<', '>', '!', ':', '|', '&', '-', '/']) (r : List Char) :
    tokensFrom .between (c :: r) = prepend [.sign (String.ofList [c])] (tokensFrom .between r) := by
  rw [tokensFrom_between_cons, hstart, tokensFrom_pending (s := .sign [c]) rfl fun d _ => ?_]
  · rfl
  have hlong : longSigns.contains ([c] ++ [d]) = false := by
    rw [Bool.eq_false_iff]
    exact fun h => hc (List.mem_append_left ['/'] (longSigns_head h))
  have hdash : ¬([c] = ['-'] ∧ d = '-') := by rintro ⟨h, -⟩; simp_all
  have hslash : ¬([c] = ['/'] ∧ d = '*') := by rintro ⟨h, -⟩; simp_all
  simp only [Lexer.extend?, hlong]
  rw [if_neg hdash, if_neg hslash]
  rfl

/-! ## Putting texts together -/

namespace Reads

variable {a b : List Char} {ts us : List Token}

/-- Texts with a space between them read as the tokens of both. -/
theorem space (ha : Reads a ts) (hb : Reads b us) : Reads (a ++ ' ' :: b) (ts ++ us) := by
  intro r hr
  rw [List.append_assoc, List.cons_append, ha _ (breaks_space _), tokensFrom_between_space,
    hb r hr, prepend_prepend]

/-- Texts with a comma and a space between them read as the tokens of both with the sign between. -/
theorem comma (ha : Reads a ts) (hb : Reads b us) :
    Reads (a ++ ',' :: ' ' :: b) (ts ++ .sign "," :: us) := by
  intro r hr
  rw [List.append_assoc, List.cons_append, List.cons_append, ha _ (breaks_comma _),
    tokensFrom_between_sign (by decide) (by decide), tokensFrom_between_space, hb r hr]
  simp

/-- A text in parentheses reads as its tokens between the two signs. -/
theorem parens (ha : Reads a ts) :
    Reads ('(' :: (a ++ [')'])) (.sign "(" :: (ts ++ [.sign ")"])) := by
  intro r hr
  rw [List.cons_append, tokensFrom_between_sign (by decide) (by decide), List.append_assoc,
    List.singleton_append, ha _ (breaks_paren _),
    tokensFrom_between_sign (by decide) (by decide)]
  simp

end Reads

namespace Spells

variable {a b : String} {ts us : List Token}

/-- Two texts with a space between them. -/
theorem space (ha : Spells a ts) (hb : Spells b us) : Spells (a ++ " " ++ b) (ts ++ us) := by
  have htext : (a ++ " " ++ b).toList = a.toList ++ ' ' :: b.toList := by simp
  constructor <;> rw [htext]
  · exact ha.dark.append _
  · exact ha.copies.append (hb.copies.space hb.dark)
  · exact ha.reads.space hb.reads

/-- Two entries with a comma between them spell the tokens of both with the sign between. -/
theorem comma (ha : Spells a ts) (hb : Spells b us) :
    Spells (a ++ ", " ++ b) (ts ++ .sign "," :: us) := by
  have htext : (a ++ ", " ++ b).toList = a.toList ++ ',' :: ' ' :: b.toList := by simp
  constructor <;> rw [htext]
  · exact ha.dark.append _
  · exact ha.copies.append ((hb.copies.space hb.dark).cons (by decide) (by decide))
  · exact ha.reads.comma hb.reads

/-- A text in parentheses spells its tokens between the two signs. -/
theorem parens (ha : Spells a ts) :
    Spells ("(" ++ a ++ ")") (.sign "(" :: (ts ++ [.sign ")"])) := by
  have htext : ("(" ++ a ++ ")").toList = '(' :: (a.toList ++ [')']) := by simp
  constructor <;> rw [htext]
  · exact ⟨'(', _, rfl, by decide⟩
  · have hclose : Copies [')'] := Copies.nil.cons (by decide) (by decide)
    exact (ha.copies.append hclose).cons (by decide) (by decide)
  · exact ha.reads.parens

/-- The entries of a list, one or more, spell their tokens with commas between them. -/
theorem commaList {α : Type} {f : α → String} {g : α → List Token} {l : List α} (hl : l ≠ [])
    (h : ∀ x ∈ l, Spells (f x) (g x)) :
    Spells (", ".intercalate (l.map f)) ([Token.sign ","].intercalate (l.map g)) := by
  induction l with
  | nil => exact absurd rfl hl
  | cons x l ih =>
    cases l with
    | nil => simpa using h x (by simp)
    | cons y l =>
      have hrest := ih (by simp) fun z hz => h z (by simp [hz])
      simpa using (h x (by simp)).comma hrest

/-- Texts with spaces between them, one or more. -/
theorem spaceList {α : Type} {f : α → String} {g : α → List Token} {l : List α} (hl : l ≠ [])
    (h : ∀ x ∈ l, Spells (f x) (g x)) : Spells (" ".intercalate (l.map f)) (l.flatMap g) := by
  induction l with
  | nil => exact absurd rfl hl
  | cons x l ih =>
    cases l with
    | nil => simpa using h x (by simp)
    | cons y l =>
      have hrest := ih (by simp) fun z hz => h z (by simp [hz])
      simpa using (h x (by simp)).space hrest

/-- A text that starts dark and is copied is its own collapsed form. -/
theorem collapseChars_eq (ha : Spells a ts) : collapseChars a.toList = a.toList :=
  ha.copies.collapseChars_eq ha.dark

/-- What spells tokens closes the quotes that it opens. -/
theorem balanced (ha : Spells a ts) : Balanced a.toList := ha.copies.balanced ha.dark

/-- What spells tokens is not empty. -/
theorem ne_nil (ha : Spells a ts) : a.toList ≠ [] := by
  obtain ⟨c, r, h, _⟩ := ha.dark
  simp [h]

/-- A text that spells tokens has them. -/
theorem tokens_eq (ha : Spells a ts) : tokens a = some ts := by
  have h := ha.reads [] breaks_nil
  simpa [tokens, Lexer.finish, Lexer.pending] using h

end Spells

/-! ## Keywords -/

/-- No character from the digits to the capital letters is a blank or a quote. -/
theorem ordinary_of_range {c : Char} (h : 48 ≤ c.toNat ∧ c.toNat ≤ 90) :
    Text.isBlank c = false ∧ QuoteMark.ofChar? c = none ∧ isSpace c = false := by
  have hne : ∀ d : Char, ¬(48 ≤ d.toNat ∧ d.toNat ≤ 90) → c ≠ d := by
    rintro d hd rfl
    exact hd h
  refine ⟨?_, ?_, ?_⟩
  · simp only [Text.isBlank]
    grind
  · simp only [QuoteMark.ofChar?]
    rw [if_neg (hne _ (by decide)), if_neg (hne _ (by decide)), if_neg (hne _ (by decide))]
  · simp only [isSpace]
    grind

/-- A capital letter is an ordinary character everywhere. -/
theorem isUpper_ordinary {c : Char} (h : c.isUpper) :
    Text.isBlank c = false ∧ QuoteMark.ofChar? c = none ∧ Lexer.start c = .word [c] ∧
      isWordChar c := by
  have hrange : 65 ≤ c.toNat ∧ c.toNat ≤ 90 := by
    have hvals : 'A'.val ≤ c.val ∧ c.val ≤ 'Z'.val := of_decide_eq_true h
    exact ⟨UInt32.le_iff_toNat_le.1 hvals.1, UInt32.le_iff_toNat_le.1 hvals.2⟩
  obtain ⟨hblank, hquote, hspace⟩ := ordinary_of_range ⟨by omega, hrange.2⟩
  have halphanum : c.isAlphanum = true := by
    show (c.isUpper || c.isLower || c.isDigit) = true
    rw [h]
    rfl
  have hword : isWordChar c := by simp [isWordChar, halphanum]
  have hdigit : c.isDigit = false := by
    simp only [Char.isDigit, UInt32.le_iff_toNat_le]
    have : c.val.toNat = c.toNat := rfl
    have h9 : '9'.val.toNat = 57 := rfl
    simp
    omega
  refine ⟨hblank, hquote, ?_, hword⟩
  simp [Lexer.start, hspace, hquote, hdigit, hword]

/-- What breaks does not belong to a word. -/
theorem extend?_word_of_breaks {w r : List Char} (hr : Breaks r) :
    ∀ c ∈ r.head?, (Lexer.word w).extend? c = none := by
  intro c hc
  rcases hr c hc with rfl | rfl | rfl <;> simp [Lexer.extend?] <;> decide

/-- A word in capitals. -/
def isKeyword (w : String) : Bool := !w.toList.isEmpty && w.toList.all Char.isUpper

/-- A keyword is read in front of whatever does not go on with a word. -/
theorem tokensFrom_keyword {w : String} (h : isKeyword w) {r : List Char}
    (hr : ∀ c ∈ r.head?, (Lexer.word w.toList).extend? c = none) :
    tokensFrom .between (w.toList ++ r) = prepend [.word w] (tokensFrom .between r) := by
  simp only [isKeyword, Bool.and_eq_true, Bool.not_eq_true', List.all_eq_true] at h
  obtain ⟨hne, hw⟩ := h
  obtain ⟨c, cs, hcs⟩ := List.exists_cons_of_ne_nil (List.isEmpty_eq_false_iff.1 hne)
  rw [hcs] at hw hr
  obtain ⟨-, -, hstart, -⟩ := isUpper_ordinary (hw c (by simp))
  have hrest : ∀ d ∈ cs, isWordChar d := fun d hd =>
    (isUpper_ordinary (hw d (by simp [hd]))).2.2.2
  rw [hcs, List.cons_append, tokensFrom_between_cons, hstart, tokensFrom_word hrest,
    List.singleton_append, tokensFrom_pending rfl hr]
  simp [Lexer.pending, ← hcs]

/-- A keyword is copied and does not start with a blank. -/
theorem isKeyword_plain {w : String} (h : isKeyword w) : StartsDark w.toList ∧ Copies w.toList := by
  simp only [isKeyword, Bool.and_eq_true, Bool.not_eq_true', List.all_eq_true] at h
  obtain ⟨hne, hw⟩ := h
  obtain ⟨c, cs, hcs⟩ := List.exists_cons_of_ne_nil (List.isEmpty_eq_false_iff.1 hne)
  refine ⟨⟨c, cs, hcs, (isUpper_ordinary (hw c (by simp [hcs]))).1⟩, .of_forall fun d hd => ?_⟩
  obtain ⟨hblank, hquote, -⟩ := isUpper_ordinary (hw d hd)
  exact ⟨hblank, hquote⟩

/-- A keyword in capitals spells itself. -/
theorem spells_word (w : String) (h : isKeyword w) : Spells w [.word w] :=
  ⟨(isKeyword_plain h).1, (isKeyword_plain h).2, fun _ hr =>
    tokensFrom_keyword h (extend?_word_of_breaks hr)⟩

/-- A keyword may stand right in front of a parenthesis. -/
theorem Spells.call {a : String} {ts : List Token} (ha : Spells a ts) (w : String)
    (h : isKeyword w) :
    Spells (w ++ "(" ++ a ++ ")") (.word w :: .sign "(" :: (ts ++ [.sign ")"])) := by
  have hparens := ha.parens
  have htext : (w ++ "(" ++ a ++ ")").toList = w.toList ++ ("(" ++ a ++ ")").toList := by simp
  constructor <;> rw [htext]
  · exact (isKeyword_plain h).1.append _
  · exact (isKeyword_plain h).2.append hparens.copies
  · intro r hr
    have hopen : ∀ c ∈ (("(" ++ a ++ ")").toList ++ r).head?,
        (Lexer.word w.toList).extend? c = none := by
      intro c hc
      obtain rfl : '(' = c := by simpa using hc
      simp [Lexer.extend?]
      decide
    rw [List.append_assoc, tokensFrom_keyword h hopen, hparens.reads r hr, prepend_prepend]
    rfl

/-! ## Signs of comparisons -/

/-- A sign of one character spells itself. -/
theorem spells_sign (c : Char) (hstart : Lexer.start c = .sign [c])
    (hplain : Text.isBlank c = false ∧ QuoteMark.ofChar? c = none) :
    Spells (String.ofList [c]) [.sign (String.ofList [c])] := by
  constructor <;> rw [String.toList_ofList]
  · exact ⟨c, [], rfl, hplain.1⟩
  · exact Copies.nil.cons hplain.1 hplain.2
  · exact reads_sign fun r => by
      rw [List.singleton_append, tokensFrom_between_cons, hstart]

/-- A sign of two characters spells itself. -/
theorem spells_sign_pair (c d : Char) (hstart : Lexer.start c = .sign [c])
    (hext : (Lexer.sign [c]).extend? d = some (.sign [c, d]))
    (hc : Text.isBlank c = false ∧ QuoteMark.ofChar? c = none)
    (hd : Text.isBlank d = false ∧ QuoteMark.ofChar? d = none) :
    Spells (String.ofList [c, d]) [.sign (String.ofList [c, d])] := by
  constructor <;> rw [String.toList_ofList]
  · exact ⟨c, [d], rfl, hc.1⟩
  · exact (Copies.nil.cons hd.1 hd.2).cons hc.1 hc.2
  · exact reads_sign fun r => by
      rw [List.cons_append, tokensFrom_between_cons, hstart, List.singleton_append,
        tokensFrom_extend rfl hext]

/-! ## Statements -/

/-- A part of a statement spells the tokens: it is missing and there are none, or it is there,
perhaps with a space in front. -/
inductive SpellsPart : String → List Token → Prop where
  | missing : SpellsPart "" []
  | plain {s : String} {ts : List Token} (h : Spells s ts) : SpellsPart s ts
  | indented {s : String} {ts : List Token} (h : Spells s ts) : SpellsPart (" " ++ s) ts

/-- A part is balanced, and collapsed it is nothing or spells its tokens. -/
theorem SpellsPart.collapse {s : String} {ts : List Token} (h : SpellsPart s ts) :
    Balanced s.toList ∧ (collapseChars s.toList = [] ∧ ts = [] ∨
      collapseChars s.toList ≠ [] ∧ Spells (String.ofList (collapseChars s.toList)) ts) := by
  cases h with
  | missing => exact ⟨rfl, .inl ⟨rfl, rfl⟩⟩
  | plain h =>
    rw [h.collapseChars_eq, String.ofList_toList]
    exact ⟨h.balanced, .inr ⟨h.ne_nil, h⟩⟩
  | @indented s _ h =>
    have hblank : Text.isBlank ' ' := by decide
    have htext : (" " ++ s).toList = ' ' :: s.toList := by simp
    have hcol : collapseChars (' ' :: s.toList) = s.toList := by
      simpa [collapseChars, Scan.emit, Scan.next, hblank] using h.collapseChars_eq
    have hbal : Balanced (' ' :: s.toList) := by
      simpa [Balanced, Scan.next, hblank] using h.balanced
    rw [htext, hcol, String.ofList_toList]
    exact ⟨hbal, .inr ⟨h.ne_nil, h⟩⟩

/-- A part of a statement reads as its tokens in front of whatever breaks. -/
theorem SpellsPart.reads {s : String} {ts : List Token} (h : SpellsPart s ts) :
    Reads s.toList ts := by
  cases h with
  | missing => exact fun r _ => (prepend_nil _).symm
  | plain h => exact h.reads
  | @indented s _ h =>
    intro r hr
    rw [String.toList_append, List.append_assoc]
    exact (tokensFrom_between_space _).trans (h.reads r hr)

/-- What is left of the parts of a statement, joined by spaces. -/
def joined (parts : List String) : List Char :=
  [' '].intercalate (((parts.map String.toList).map collapseChars).filter (· ≠ []))

/-- The joined parts are nothing or spell the tokens of all of them. -/
theorem spells_joined {parts : List (String × List Token)}
    (h : ∀ p ∈ parts, SpellsPart p.1 p.2) :
    joined (parts.map Prod.fst) = [] ∧ parts.flatMap Prod.snd = [] ∨
      joined (parts.map Prod.fst) ≠ [] ∧
        Spells (String.ofList (joined (parts.map Prod.fst))) (parts.flatMap Prod.snd) := by
  induction parts with
  | nil => exact .inl ⟨rfl, rfl⟩
  | cons p parts ih =>
    have hrest := ih fun x hx => h x (by simp [hx])
    obtain ⟨-, ⟨hnil, hts⟩ | ⟨hne, hspells⟩⟩ := (h p (by simp)).collapse
    · -- the first part is missing
      have hsame : joined ((p :: parts).map Prod.fst) = joined (parts.map Prod.fst) := by
        simp [joined, hnil]
      rw [hsame, List.flatMap_cons, hts, List.nil_append]
      exact hrest
    · have hcons : joined ((p :: parts).map Prod.fst) =
          collapseChars p.1.toList ++ spaced (joined (parts.map Prod.fst)) := by
        unfold joined
        rw [List.map_cons, List.map_cons, List.map_cons,
          List.filter_cons_of_pos (by simpa using hne), intercalate_cons_spaced _ (by simp)]
      right
      rw [hcons, List.flatMap_cons]
      refine ⟨by simp [hne], ?_⟩
      rcases hrest with ⟨hnone, hnone'⟩ | ⟨hsome, hspells'⟩
      · simpa [hnone, hnone', spaced] using hspells
      · have hboth := hspells.space hspells'
        have htext : String.ofList (collapseChars p.1.toList) ++ " " ++
            String.ofList (joined (parts.map Prod.fst)) =
              String.ofList (collapseChars p.1.toList ++ ' ' :: joined (parts.map Prod.fst)) := by
          simp [← String.toList_inj]
        rw [spaced, if_neg hsome, ← htext]
        exact hboth

/-- **The tokens of a statement are those of its parts in order**, the missing ones left out. -/
theorem tokens_collapse_intercalate {parts : List (String × List Token)}
    (h : ∀ p ∈ parts, SpellsPart p.1 p.2) :
    tokens (collapse (" ".intercalate (parts.map Prod.fst))) = some (parts.flatMap Prod.snd) := by
  have hbal : ∀ a ∈ (parts.map Prod.fst).map String.toList, Balanced a := by
    simp only [List.map_map, List.mem_map, Function.comp_apply]
    rintro _ ⟨p, hp, rfl⟩
    exact (h p hp).collapse.1
  have htext : collapse (" ".intercalate (parts.map Prod.fst)) =
      String.ofList (joined (parts.map Prod.fst)) := by
    unfold collapse joined
    rw [String.toList_intercalate, ← (collapseChars_intercalate hbal).2]
    rfl
  rw [htext]
  rcases spells_joined h with ⟨hnil, hts⟩ | ⟨-, hspells⟩
  · rw [hnil, hts]
    rfl
  · exact hspells.tokens_eq

end SqlBridge.Sql
