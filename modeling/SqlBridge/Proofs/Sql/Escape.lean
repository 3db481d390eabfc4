import SqlBridge.Proofs.Decimal.Numeral
import SqlBridge.Proofs.Sql.Spelling
import SqlBridge.Query.Condition

/-!
# What escaped names and values spell

`Name.tokens` and `Value.tokens` say which tokens a name and a value are meant to be: a name is one
token for each of its segments with dots between them, a text is one token with exactly that text,
bytes are one token with exactly those bytes, a number is its digits, behind a minus sign if there
is one. `Name.spells_escape` and `Value.spells_literal` say that the escaped forms spell them, for
every name and every value.
-/

namespace SqlBridge

open Sql

/-! ## Names -/

namespace Name

/-- The token of one segment of a name. -/
def segmentToken (s : List Char) : Token :=
  if s = ['*'] then .sign "*" else .name (String.ofList (s.map quotedChar))

/-- The tokens of segments, with dots between them. -/
def segmentTokens (l : List (List Char)) : List Token :=
  [Token.sign "."].intercalate (l.map fun s => [segmentToken s])

/-- The tokens of a name. -/
def tokens (name : String) : List Token := segmentTokens (segments name.toList)

/-- No backtick is left in a segment that is quoted, and nothing is escaped there. -/
theorem quotedChar_plain (s : List Char) : ∀ c ∈ s.map quotedChar,
    c ≠ QuoteMark.backtick.char ∧ ¬(c = '\\' ∧ QuoteMark.backtick.hasEscapes) := by
  intro c hc
  obtain ⟨d, -, rfl⟩ := List.mem_map.1 hc
  refine ⟨?_, by simp [QuoteMark.hasEscapes]⟩
  simp only [quotedChar, QuoteMark.char]
  split
  · decide
  · assumption

/-- A segment that stands between backticks reads as its token. -/
theorem tokensFrom_escapeSegment (s : List Char) {r : List Char}
    (hr : ∀ c ∈ r.head?, c ≠ backtick) :
    tokensFrom .between (escapeSegment s ++ r) =
      prepend [segmentToken s] (tokensFrom .between r) := by
  by_cases hs : s = ['*']
  · subst hs
    exact tokensFrom_between_sign (by decide) (by decide) r
  · have hopen : Lexer.start backtick = .quoted .backtick [] := by decide
    have hend : ∀ c ∈ r.head?, (Lexer.closing .backtick (s.map quotedChar)).extend? c = none := by
      intro c hc
      have hne := hr c hc
      simp [Lexer.extend?, QuoteMark.char, hne]
    rw [escapeSegment, if_neg hs, List.cons_append, List.append_assoc, tokensFrom_between_cons,
      hopen, tokensFrom_quoted (quotedChar_plain s)]
    show tokensFrom _ (QuoteMark.backtick.char :: r) = _
    rw [tokensFrom_close, List.nil_append, tokensFrom_pending rfl hend]
    simp [Lexer.pending, QuoteMark.token, segmentToken, hs]

/-- A segment is copied with its backticks. -/
theorem copies_escapeSegment (s : List Char) : Copies (escapeSegment s) := by
  unfold escapeSegment
  split
  · subst s
    exact Copies.nil.cons (by decide) (by decide)
  · have h := collapseFrom_quoted (quotedChar_plain s)
    exact Copies.quoted h.1 h.2

/-- A segment starts with a backtick, or is a star. -/
theorem startsDark_escapeSegment (s : List Char) : StartsDark (escapeSegment s) := by
  unfold escapeSegment
  split
  · subst s
    exact ⟨'*', [], rfl, by decide⟩
  · exact ⟨backtick, _, rfl, by decide⟩

/-- Segments with dots between them read as their tokens. -/
theorem reads_segments {l : List (List Char)} (hl : l ≠ []) :
    Reads (['.'].intercalate (l.map escapeSegment)) (segmentTokens l) := by
  induction l with
  | nil => exact absurd rfl hl
  | cons s l ih =>
    intro r hr
    cases l with
    | nil =>
      have hne : ∀ c ∈ r.head?, c ≠ backtick := by
        intro c hc
        rcases hr c hc with rfl | rfl | rfl <;> decide
      simpa [segmentTokens] using tokensFrom_escapeSegment s hne
    | cons t l =>
      have hdot : ∀ x : List Char, ∀ c ∈ ('.' :: x).head?, c ≠ backtick := by
        intro x c hc
        obtain rfl : '.' = c := by simpa using hc
        decide
      have htext : ['.'].intercalate ((s :: t :: l).map escapeSegment) ++ r =
          escapeSegment s ++ '.' :: (['.'].intercalate ((t :: l).map escapeSegment) ++ r) := by
        simp
      rw [htext, tokensFrom_escapeSegment s (hdot _),
        tokensFrom_between_sign (by decide) (by decide), ih (by simp) r hr]
      simp [segmentTokens]

/-- The segments of a name are copied, with the points between them. -/
theorem copies_segments (l : List (List Char)) :
    Copies (['.'].intercalate (l.map escapeSegment)) := by
  induction l with
  | nil => exact Copies.nil
  | cons s l ih =>
    cases l with
    | nil => simpa using copies_escapeSegment s
    | cons t l =>
      have hdot : Copies ['.'] := Copies.nil.cons (by decide) (by decide)
      simpa using ((copies_escapeSegment s).append hdot).append ih

/-- **An escaped name spells its segments**, with dots between them. -/
theorem spells_escape (name : String) : Spells (escape name) (tokens name) := by
  have hne := segments_ne_nil name.toList
  refine ⟨?_, ?_, ?_⟩ <;> rw [toList_escape, escapeChars]
  · obtain ⟨s, l, hl⟩ := List.exists_cons_of_ne_nil hne
    rw [hl, List.map_cons]
    cases l with
    | nil => simpa using startsDark_escapeSegment s
    | cons t l => simpa using (startsDark_escapeSegment s).append _
  · exact copies_segments _
  · exact reads_segments hne

/-- The segments of two names with a dot between them are those of both. -/
theorem segments_append_dot (a b : List Char) :
    segments (a ++ '.' :: b) = segments a ++ segments b := by
  induction a with
  | nil => simp [segments]
  | cons c a ih =>
    by_cases hc : c = '.'
    · simp [segments, hc, ih]
    · obtain ⟨s, l, hl⟩ := List.exists_cons_of_ne_nil (segments_ne_nil a)
      simp [segments, hc, ih, hl]

/-- The tokens of segments put together have a dot between them. -/
theorem segmentTokens_append {l m : List (List Char)} (hl : l ≠ []) (hm : m ≠ []) :
    segmentTokens (l ++ m) = segmentTokens l ++ .sign "." :: segmentTokens m := by
  induction l with
  | nil => exact absurd rfl hl
  | cons s l ih =>
    cases l with
    | nil =>
      obtain ⟨t, m, rfl⟩ := List.exists_cons_of_ne_nil hm
      simp [segmentTokens]
    | cons t l =>
      have hrest := ih (by simp)
      simp only [segmentTokens] at hrest ⊢
      simp only [List.cons_append, List.map_cons, List.intercalate_cons_cons] at hrest ⊢
      rw [hrest]
      simp

/-- **A qualified name is the qualifier, a dot and the name.** -/
theorem tokens_qualified (qualifier name : String) :
    tokens (qualifier ++ "." ++ name) = tokens qualifier ++ .sign "." :: tokens name := by
  have htext : (qualifier ++ "." ++ name).toList = qualifier.toList ++ '.' :: name.toList := by
    simp
  rw [tokens, htext, segments_append_dot,
    segmentTokens_append (segments_ne_nil _) (segments_ne_nil _)]
  rfl

end Name

/-! ## Texts -/

namespace Literal

/-- A character is written with a backslash and read back by it, or stands for itself. -/
theorem escapeChar_cases (c : Char) :
    (∃ d, escapeChar c = ['\\', d] ∧ unescape d = [c]) ∨
      (escapeChar c = [c] ∧ c ≠ '\'' ∧ c ≠ '\\') := by
  unfold escapeChar
  split
  · next h => exact .inl ⟨'0', rfl, by rw [h]; rfl⟩
  split
  · next h => exact .inl ⟨'n', rfl, by rw [h]; rfl⟩
  split
  · next h => exact .inl ⟨'r', rfl, by rw [h]; rfl⟩
  split
  · next h => exact .inl ⟨'\\', rfl, by rw [h]; rfl⟩
  rename_i hb
  split
  · next h => exact .inl ⟨'\'', rfl, by rw [h]; rfl⟩
  rename_i hq
  split
  · next h => exact .inl ⟨'"', rfl, by rw [h]; rfl⟩
  split
  · next h => exact .inl ⟨'Z', rfl, by rw [h]; rfl⟩
  exact .inr ⟨rfl, hq, hb⟩

/-- **An escaped text is read back**, whatever stands in it. -/
theorem tokensFrom_escapeChars (s w r : List Char) :
    tokensFrom (.quoted .apostrophe w) (escapeChars s ++ r) =
      tokensFrom (.quoted .apostrophe (w ++ s)) r := by
  induction s generalizing w with
  | nil => simp [escapeChars]
  | cons c s ih =>
    have hsplit : escapeChars (c :: s) = escapeChar c ++ escapeChars s := by simp [escapeChars]
    rw [hsplit, List.append_assoc]
    rcases escapeChar_cases c with ⟨d, hesc, hd⟩ | ⟨hesc, hq, hb⟩
    · rw [hesc]
      show tokensFrom _ ('\\' :: d :: (escapeChars s ++ r)) = _
      rw [tokensFrom_escape rfl, hd, ih]
      simp
    · have hplain : ∀ x ∈ [c], x ≠ QuoteMark.apostrophe.char ∧
          ¬(x = '\\' ∧ QuoteMark.apostrophe.hasEscapes) := by
        simp [QuoteMark.char, hq, hb]
      rw [hesc, tokensFrom_quoted hplain, ih]
      simp

/-- Between apostrophes an escaped text is copied. -/
theorem collapseFrom_escapeChars (s : List Char) :
    collapseFrom (.quoted .apostrophe) (escapeChars s) = escapeChars s ∧
      (Scan.quoted .apostrophe).after (escapeChars s) = .quoted .apostrophe := by
  induction s with
  | nil => exact ⟨rfl, rfl⟩
  | cons c s ih =>
    have hsplit : escapeChars (c :: s) = escapeChar c ++ escapeChars s := by simp [escapeChars]
    have hc : collapseFrom (.quoted .apostrophe) (escapeChar c) = escapeChar c ∧
        (Scan.quoted .apostrophe).after (escapeChar c) = .quoted .apostrophe := by
      rcases escapeChar_cases c with ⟨d, hesc, -⟩ | ⟨hesc, hq, hb⟩
      · rw [hesc]
        exact ⟨rfl, rfl⟩
      · rw [hesc]
        exact collapseFrom_quoted (by simp [QuoteMark.char, hq, hb])
    rw [hsplit, collapseFrom_append, Scan.after_append, hc.1, hc.2, ih.1, ih.2]
    exact ⟨rfl, rfl⟩

/-- **A quoted text spells one token, the text.** -/
theorem spells_quoted (s : String) : Spells (quoted s) [.text s] := by
  have htext : (quoted s).toList = '\'' :: (escapeChars s.toList ++ ['\'']) := by simp [quoted]
  refine ⟨?_, ?_, fun r hr => ?_⟩ <;> rw [htext]
  · exact ⟨'\'', _, rfl, by decide⟩
  · have h := collapseFrom_escapeChars s.toList
    exact Copies.quoted (q := .apostrophe) h.1 h.2
  · have hopen : Lexer.start '\'' = .quoted .apostrophe [] := by decide
    have hend : ∀ c ∈ r.head?, (Lexer.closing .apostrophe s.toList).extend? c = none := by
      intro c hc
      rcases hr c hc with rfl | rfl | rfl <;> simp [Lexer.extend?, QuoteMark.char]
    rw [List.cons_append, List.append_assoc, tokensFrom_between_cons, hopen,
      tokensFrom_escapeChars]
    show tokensFrom _ (QuoteMark.apostrophe.char :: r) = _
    rw [tokensFrom_close, List.nil_append, tokensFrom_pending rfl hend]
    simp [Lexer.pending, QuoteMark.token]

end Literal

/-! ## Bytes -/

namespace Hex

/-- A digit is read back and is no character of a quote. -/
theorem hexDigit?_digit {n : Nat} (h : n < 16) :
    Numeral.hexDigit? (digit n) = some n ∧ digit n ≠ '\'' ∧ digit n ≠ '\\' := by
  have hall : ∀ k : Fin 16, Numeral.hexDigit? (digit k) = some k.val ∧ digit k ≠ '\'' ∧
      digit k ≠ '\\' := by decide
  exact hall ⟨n, h⟩

/-- What is written for bytes is read as these bytes. -/
theorem hexBytes?_chars (data : List UInt8) : hexBytes? (chars data) = some data := by
  induction data with
  | nil => rfl
  | cons b data ih =>
    have hb := b.toNat_lt
    have hhigh := (hexDigit?_digit (n := b.toNat / 16) (by omega)).1
    have hlow := (hexDigit?_digit (n := b.toNat % 16) (by omega)).1
    have hbyte : UInt8.ofNat (b.toNat / 16 * 16 + b.toNat % 16) = b := by
      rw [Nat.div_add_mod']
      exact UInt8.ofNat_toNat
    have hsplit : chars (b :: data) =
        digit (b.toNat / 16) :: digit (b.toNat % 16) :: chars data := by simp [chars, byteChars]
    rw [hsplit, hexBytes?, hhigh, hlow, ih]
    simp [hbyte]

/-- What is written for bytes are digits of the base sixteen. -/
theorem exists_digit_of_mem_chars {data : List UInt8} {c : Char} (hc : c ∈ chars data) :
    ∃ k : Fin 16, c = digit k := by
  obtain ⟨b, -, hb⟩ := List.mem_flatMap.1 hc
  have hlt := b.toNat_lt
  simp only [byteChars, List.mem_cons, List.not_mem_nil, or_false] at hb
  rcases hb with rfl | rfl
  · exact ⟨⟨b.toNat / 16, by omega⟩, rfl⟩
  · exact ⟨⟨b.toNat % 16, by omega⟩, rfl⟩

/-- What is written for bytes neither ends a text nor escapes a character. -/
theorem chars_plain (data : List UInt8) : ∀ c ∈ chars data, c ≠ '\'' ∧ c ≠ '\\' := by
  intro c hc
  obtain ⟨k, rfl⟩ := exists_digit_of_mem_chars hc
  exact (hexDigit?_digit k.isLt).2

/-- **The literal of bytes spells one token, the bytes.** -/
theorem spells_literal (data : List UInt8) : Spells ("X'" ++ encode data ++ "'") [.bytes data] := by
  have htext : ("X'" ++ encode data ++ "'").toList = 'X' :: '\'' :: (chars data ++ ['\'']) := by
    simp
  have hplain := chars_plain data
  refine ⟨?_, ?_, fun r hr => ?_⟩ <;> rw [htext]
  · exact ⟨'X', _, rfl, by decide⟩
  · have h := collapseFrom_quoted (q := .apostrophe) (a := chars data) fun c hc =>
      ⟨(hplain c hc).1, fun hb => (hplain c hc).2 hb.1⟩
    exact (Copies.quoted h.1 h.2).cons (by decide) (by decide)
  · have hopen : Lexer.start 'X' = .word ['X'] := by decide
    have hquote : (Lexer.word ['X']).extend? '\'' = some (.hex []) := by decide
    have hclose : (Lexer.hex (chars data)).step '\'' = ([.bytes data], .between) := by
      simp [Lexer.step, hexBytes?_chars]
    rw [List.cons_append, List.cons_append, List.append_assoc, tokensFrom_between_cons, hopen,
      tokensFrom_extend rfl hquote, tokensFrom_hex (fun h => (hplain _ h).1 rfl),
      List.singleton_append, tokensFrom_cons, List.nil_append, hclose]

end Hex

/-! ## Numbers -/

namespace Numeral

/-- The tokens of a number: its digits, behind a minus sign if there is one. -/
def tokens (s : String) : List Token :=
  if s.toList.head? = some '-' then [.sign "-", .number (String.ofList s.toList.tail)]
  else [.number s]

/-- A digit begins a number and is an ordinary character otherwise. -/
theorem isDigit_ordinary {c : Char} (h : c.isDigit) :
    Text.isBlank c = false ∧ QuoteMark.ofChar? c = none ∧ Lexer.start c = .digits [c] ∧ c ≠ '-' ∧
      (Lexer.sign ['-']).extend? c = none := by
  have hrange : 48 ≤ c.toNat ∧ c.toNat ≤ 57 := by
    simp only [Char.isDigit, ge_iff_le, Bool.and_eq_true, decide_eq_true_eq,
      UInt32.le_iff_toNat_le] at h
    exact h
  obtain ⟨hblank, hquote, hspace⟩ := ordinary_of_range ⟨hrange.1, by omega⟩
  have hminus : c ≠ '-' := by
    rintro rfl
    exact absurd hrange (by decide)
  have hlong : longSigns.contains (['-'] ++ [c]) = false := by
    rw [Bool.eq_false_iff]
    intro hmem
    have hlast := longSigns_last hmem
    simp only [List.mem_cons, List.not_mem_nil, or_false] at hlast
    rcases hlast with rfl | rfl | rfl | rfl | rfl <;> revert h <;> decide
  refine ⟨hblank, hquote, ?_, hminus, ?_⟩
  · simp [Lexer.start, hspace, hquote, h]
  · simp only [Lexer.extend?, hlong]
    simp [hminus]

/-- What breaks does not belong to a number. -/
theorem extend?_of_breaks {w r : List Char} (hr : Breaks r) :
    ∀ c ∈ r.head?, (Lexer.digits w).extend? c = none ∧ (Lexer.fraction w).extend? c = none := by
  intro c hc
  rcases hr c hc with rfl | rfl | rfl <;> simp [Lexer.extend?] <;> decide

/-- Digits lead into a number. -/
theorem tokensFrom_between_digits {a : List Char} (ha : IsDigits a) (r : List Char) :
    tokensFrom .between (a ++ r) = tokensFrom (.digits a) r := by
  obtain ⟨c, cs, rfl⟩ := List.exists_cons_of_ne_nil ha.ne_nil
  obtain ⟨-, -, hstart, -⟩ := isDigit_ordinary (ha.digits c (by simp))
  rw [List.cons_append, tokensFrom_between_cons, hstart,
    tokensFrom_digits fun d hd => ha.digits d (by simp [hd])]
  rfl

/-- An unsigned numeral reads as one number. -/
theorem reads_unsigned {u : List Char} (hu : IsUnsigned u) :
    Reads u [.number (String.ofList u)] := by
  intro r hr
  cases hu with
  | whole ha =>
    rw [tokensFrom_between_digits ha,
      tokensFrom_pending rfl fun c hc => (extend?_of_breaks hr c hc).1]
    rfl
  | @point a b ha hb =>
    have hpoint : (Lexer.digits a).extend? '.' = some (.fraction (a ++ ['.'])) := by
      simp [Lexer.extend?]
    rw [List.append_assoc, List.cons_append, tokensFrom_between_digits ha,
      tokensFrom_extend rfl hpoint, tokensFrom_fraction hb.digits,
      tokensFrom_pending rfl fun c hc => (extend?_of_breaks hr c hc).2]
    simp [Lexer.pending]

/-- An unsigned number is copied. -/
theorem IsUnsigned.copies {u : List Char} (hu : IsUnsigned u) : Copies u := by
  refine Copies.of_forall fun c hc => ?_
  rcases hu.chars c hc with hd | rfl
  · obtain ⟨hblank, hquote, -⟩ := isDigit_ordinary hd
    exact ⟨hblank, hquote⟩
  · decide

/-- An unsigned numeral spells one number. -/
theorem spells_unsigned {s : String} (hu : IsUnsigned s.toList) : Spells s [.number s] := by
  obtain ⟨c, r, hs, hc⟩ := hu.head
  refine ⟨⟨c, r, hs, (isDigit_ordinary hc).1⟩, hu.copies, ?_⟩
  simpa using reads_unsigned hu

/-- **A numeral spells one number**, behind a minus sign if there is one. -/
theorem spells_numeral {s : String} (h : IsNumeral s.toList) : Spells s (tokens s) := by
  generalize hs : s.toList = cs at h
  cases h with
  | plus hu =>
    obtain ⟨c, r, rfl, hc⟩ := hu.head
    obtain ⟨-, -, -, hminus, -⟩ := isDigit_ordinary hc
    have hts : tokens s = [.number s] := by
      rw [tokens, hs, if_neg (by simpa using hminus)]
    rw [hts]
    exact spells_unsigned (hs ▸ hu)
  | @minus u hu =>
    obtain ⟨c, t, rfl, hc⟩ := hu.head
    obtain ⟨-, -, -, -, hsign⟩ := isDigit_ordinary hc
    have hts : tokens s = [.sign "-", .number (String.ofList (c :: t))] := by
      rw [tokens, hs]
      rfl
    rw [hts]
    refine ⟨?_, ?_, fun r hr => ?_⟩ <;> rw [hs]
    · exact ⟨'-', _, rfl, by decide⟩
    · exact hu.copies.cons (by decide) (by decide)
    · have hopen : Lexer.start '-' = .sign ['-'] := by decide
      have hend : ∀ d ∈ (c :: t ++ r).head?, (Lexer.sign ['-']).extend? d = none := by
        simpa using hsign
      rw [List.cons_append, tokensFrom_between_cons, hopen, tokensFrom_pending rfl hend,
        reads_unsigned hu r hr]
      simp [Lexer.pending]

end Numeral

/-! ## Values -/

namespace Value

/-- The tokens that a value is meant to be. -/
def tokens : Value → List Token
  | .null => [.word "NULL"]
  | .bool b => [.number (if b then "1" else "0")]
  | .string s => [.text s]
  | .text s => [.text s]
  | .bytes data => [.bytes data]
  | .json j => [.text j.text]
  | .date s => [.text s]
  | .time s => [.text s]
  | .dateTime s => [.text s]
  | v => if v.isNumeric then Numeral.tokens v.display else [.text v.display]

/-- A finite number spells its numeral, and whatever is no number the text that it prints as. -/
theorem spells_display {v : Value} (hbool : ∀ b, v ≠ .bool b) :
    Spells (if v.isNumeric then v.display else Literal.quoted v.display)
      (if v.isNumeric then Numeral.tokens v.display else [.text v.display]) := by
  by_cases h : v.isNumeric
  · rw [if_pos h, if_pos h]
    exact Numeral.spells_numeral (isNumeral_display h hbool)
  · rw [if_neg h, if_neg h]
    exact Literal.spells_quoted _

/-- **The literal of a value spells the tokens that the value is meant to be.** -/
theorem spells_literal (v : Value) : Spells v.literal v.tokens := by
  cases v with
  | null => exact spells_word "NULL" rfl
  | bool b =>
    cases b
    · exact Numeral.spells_numeral (s := "0") (.plus (.whole ⟨by simp, by simp⟩))
    · exact Numeral.spells_numeral (s := "1") (.plus (.whole ⟨by simp, by simp⟩))
  | bytes data => exact Hex.spells_literal data
  | string s => exact Literal.spells_quoted s
  | text s => exact Literal.spells_quoted s
  | json j => exact Literal.spells_quoted _
  | date s => exact Literal.spells_quoted s
  | time s => exact Literal.spells_quoted s
  | dateTime s => exact Literal.spells_quoted s
  | tinyInt n => exact spells_display (v := .tinyInt n) (by simp)
  | smallInt n => exact spells_display (v := .smallInt n) (by simp)
  | int n => exact spells_display (v := .int n) (by simp)
  | bigInt n => exact spells_display (v := .bigInt n) (by simp)
  | unsignedTinyInt n => exact spells_display (v := .unsignedTinyInt n) (by simp)
  | unsignedSmallInt n => exact spells_display (v := .unsignedSmallInt n) (by simp)
  | unsignedInt n => exact spells_display (v := .unsignedInt n) (by simp)
  | unsignedBigInt n => exact spells_display (v := .unsignedBigInt n) (by simp)
  | float bits => exact spells_display (v := .float bits) (by simp)
  | double bits => exact spells_display (v := .double bits) (by simp)
  | decimal d => exact spells_display (v := .decimal d) (by simp)

end Value

end SqlBridge
