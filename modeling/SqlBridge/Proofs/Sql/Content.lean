import SqlBridge.Proofs.Sql.Escape
import Mathlib.Algebra.Field.Rat
import Mathlib.Data.List.Basic
import Mathlib.Data.List.TakeDrop

/-!
# What literals stand for

`Literal.read` is how a server reads one literal from the front of SQL text: a text between
apostrophes, where a backslash gives the next character its meaning and an apostrophe that is
written twice stands for itself, bytes as pairs of hexadecimal digits behind an `X`, a number with
a sign, places behind a point and a power of ten, or the word for the null. It returns what the
literal stands for and the text behind it.

`Value.content` is what a value is to a server, said without its text: the number of an integer or
a decimal is an exact fraction. `Value.read_literal` is the statement that the reader undoes the
writer: it stops exactly behind the literal and returns the content, whatever follows.

* `readText_escapeChars` and `readBytes_chars` undo the two escapes;
* `Writes` says which number an unsigned numeral denotes; the three layouts of numbers are shown to
  write theirs (`writes_toDigits`, `Fixed.writes_magnitudeChars`, `Binary.Digits.writes_positional`)
  and `readNumber_of_writes` to read them back.
-/

namespace SqlBridge.Literal

open Sql

/-! ## The reader -/

/-- What a literal stands for. -/
inductive Content where
  | null
  | number (q : ℚ)
  | text (s : String)
  | bytes (data : List UInt8)
  deriving DecidableEq

/-- Reads a text up to the apostrophe that closes it. -/
def readText : List Char → Option (List Char × List Char)
  | [] => none
  | ['\\'] => none
  | '\\' :: c :: rest => (readText rest).map fun (s, r) => (unescape c ++ s, r)
  | '\'' :: '\'' :: rest => (readText rest).map fun (s, r) => ('\'' :: s, r)
  | '\'' :: rest => some ([], rest)
  | c :: rest => (readText rest).map fun (s, r) => (c :: s, r)

/-- Reads the digits of bytes up to the apostrophe that closes them. -/
def readBytes (s : List Char) : Option (List UInt8 × List Char) :=
  match s.dropWhile (· != '\'') with
  | [] => none
  | _ :: rest => (hexBytes? (s.takeWhile (· != '\''))).map fun data => (data, rest)

/-- Reads the digits behind a point, if there is one. -/
def readPlaces : List Char → List Char × List Char
  | '.' :: rest => rest.span Char.isDigit
  | s => ([], s)

/-- Reads a power of ten with its sign behind a mark, if there is one. -/
def readPower (s : List Char) : Int × List Char :=
  match s with
  | [] => (0, s)
  | mark :: rest =>
    if mark = 'e' ∨ mark = 'E' then
      let digits := if rest.head? = some '-' ∨ rest.head? = some '+' then rest.tail else rest
      match digits.span Char.isDigit with
      | ([], _) => (0, s)
      | (power, r) =>
        let magnitude : Int := Nat.ofDigitChars 10 power 0
        (if rest.head? = some '-' then -magnitude else magnitude, r)
    else (0, s)

/-- Reads a number without a sign; it ends where a word would not go on. -/
def readNumber (s : List Char) : Option (ℚ × List Char) :=
  let (whole, s) := s.span Char.isDigit
  let (places, s) := readPlaces s
  let (power, s) := readPower s
  if whole = [] ∨ s.head?.any isWordChar then none
  else some (Nat.ofDigitChars 10 (whole ++ places) 0 * 10 ^ (power - places.length), s)

/-- Reads the word for the null. -/
def readNull (s : List Char) : Option (List Char) :=
  let (word, rest) := s.span isWordChar
  if word.map Char.toUpper = ['N', 'U', 'L', 'L'] then some rest else none

/-- Reads one literal, and returns what it stands for and the text behind it. -/
def read (s : List Char) : Option (Content × List Char) :=
  match s with
  | '\'' :: rest => (readText rest).map fun (t, r) => (.text (String.ofList t), r)
  | 'X' :: '\'' :: rest => (readBytes rest).map fun (data, r) => (.bytes data, r)
  | '-' :: rest => (readNumber rest).map fun (q, r) => (.number (-q), r)
  | _ =>
    if s.head?.any Char.isDigit then (readNumber s).map fun (q, r) => (.number q, r)
    else (readNull s).map fun r => (.null, r)

example : read "'it''s \\'a\\'' , 1".toList = some (.text "it's 'a'", " , 1".toList) := by
  decide +kernel

example : read "-12.50e2)".toList = some (.number (-1250), [')']) := by decide +kernel

/-! ## Texts -/

/-- A character that is neither the apostrophe nor a backslash stands for itself. -/
theorem readText_plain {c : Char} (hq : c ≠ '\'') (hb : c ≠ '\\') (rest : List Char) :
    readText (c :: rest) = (readText rest).map fun (s, r) => (c :: s, r) := by
  rw [readText]
  · rintro rfl
    exact absurd rfl hb
  · rintro d r rfl
    exact absurd rfl hb
  · rintro r rfl
    exact absurd rfl hq
  · rintro rfl
    exact absurd rfl hq

/-- The apostrophe closes the text, unless another one follows. -/
theorem readText_close {r : List Char} (hr : r.head? ≠ some '\'') :
    readText ('\'' :: r) = some ([], r) := by
  cases r with
  | nil => rfl
  | cons c r =>
    have hc : c ≠ '\'' := by simpa using hr
    rw [readText]
    rintro r' h
    exact hc (List.cons.inj h).1

/-- **An escaped text is read back up to its apostrophe.** -/
theorem readText_escapeChars (s : List Char) {r : List Char} (hr : r.head? ≠ some '\'') :
    readText (escapeChars s ++ '\'' :: r) = some (s, r) := by
  induction s with
  | nil => exact readText_close hr
  | cons c s ih =>
    have hsplit : escapeChars (c :: s) ++ '\'' :: r =
        escapeChar c ++ (escapeChars s ++ '\'' :: r) := by simp [escapeChars]
    rw [hsplit]
    rcases escapeChar_cases c with ⟨d, hesc, hd⟩ | ⟨hesc, hq, hb⟩
    · rw [hesc, List.cons_append, List.singleton_append, readText, ih, hd]
      rfl
    · rw [hesc, List.singleton_append, readText_plain hq hb, ih]
      rfl

/-! ## Bytes -/

/-- **The digits of bytes are read back up to their apostrophe.** -/
theorem readBytes_chars (data : List UInt8) (r : List Char) :
    readBytes (Hex.chars data ++ '\'' :: r) = some (data, r) := by
  have hplain : ∀ c ∈ Hex.chars data, (c != '\'') = true := fun c hc =>
    bne_iff_ne.2 (Hex.chars_plain data c hc).1
  have hdrop : (Hex.chars data ++ '\'' :: r).dropWhile (· != '\'') = '\'' :: r := by
    rw [List.dropWhile_append_of_pos hplain]
    rfl
  have htake : (Hex.chars data ++ '\'' :: r).takeWhile (· != '\'') = Hex.chars data := by
    rw [List.takeWhile_append_of_pos hplain]
    simp
  rw [readBytes, hdrop, htake, Hex.hexBytes?_chars]
  rfl

end SqlBridge.Literal

/-! ## Numerals and their numbers -/

namespace SqlBridge.Numeral

open Sql

/-- The unsigned numeral denotes the number. -/
inductive Writes : List Char → ℚ → Prop where
  | whole {a : List Char} (ha : IsDigits a) : Writes a (Nat.ofDigitChars 10 a 0)
  | point {a b : List Char} (ha : IsDigits a) (hb : IsDigits b) :
      Writes (a ++ '.' :: b) (Nat.ofDigitChars 10 (a ++ b) 0 / 10 ^ b.length)

/-- The decimal digits of a number denote it. -/
theorem writes_toDigits (n : Nat) : Writes (Nat.toDigits 10 n) n := by
  have h := Writes.whole (isDigits_toDigits n)
  rwa [Nat.ofDigitChars_toDigits (by decide) (by decide)] at h

/-- Digits with a point set within them denote their number, divided by ten for each place. -/
theorem writes_split {s : List Char} (hs : IsDigits s) {k : Nat} (hpos : 0 < k)
    (hk : k < s.length) :
    Writes (s.take (s.length - k) ++ '.' :: s.drop (s.length - k))
      (Nat.ofDigitChars 10 s 0 / 10 ^ k) := by
  obtain ⟨hbefore, hbehind, hplaces⟩ := isDigits_split hs hpos hk
  have h := Writes.point hbefore hbehind
  rwa [List.take_append_drop, hplaces] at h

/-- The numeral denotes the number, a minus sign included. -/
inductive Denotes : List Char → ℚ → Prop where
  | plus {u : List Char} {q : ℚ} (h : Writes u q) : Denotes u q
  | minus {u : List Char} {q : ℚ} (h : Writes u q) : Denotes ('-' :: u) (-q)

/-- Zeros in front do not count. -/
theorem ofDigitChars_zeros_append (k : Nat) (s : List Char) :
    Nat.ofDigitChars 10 (List.replicate k '0' ++ s) 0 = Nat.ofDigitChars 10 s 0 := by
  rw [Nat.ofDigitChars_append, Nat.ofDigitChars_replicate_zero, Nat.mul_zero]

end SqlBridge.Numeral

namespace SqlBridge

open Sql Numeral

/-- The number of a decimal. -/
def Fixed.number (d : Fixed) : ℚ := d.mantissa / 10 ^ d.scale

/-- The number of decimal digits. -/
def Binary.Digits.number (d : Binary.Digits) : ℚ := d.coefficient * (10 : ℚ) ^ d.exponent

/-- A mantissa with a point in its scale denotes the fraction. -/
theorem Fixed.writes_magnitudeChars (n scale : Nat) :
    Writes (Fixed.magnitudeChars n scale) (n / 10 ^ scale) := by
  have hd : IsDigits (Nat.toDigits 10 n) := isDigits_toDigits n
  rw [Fixed.magnitudeChars]
  simp only
  split
  · next hscale =>
    rw [hscale, pow_zero, div_one]
    exact writes_toDigits n
  · next hscale =>
    have hpad := isDigits_zeros_append hd (scale + 1 - (Nat.toDigits 10 n).length)
    have hlen : scale < (List.replicate (scale + 1 - (Nat.toDigits 10 n).length) '0' ++
        Nat.toDigits 10 n).length := by
      rw [List.length_append, List.length_replicate]
      omega
    have h := writes_split hpad (Nat.pos_of_ne_zero hscale) hlen
    rwa [ofDigitChars_zeros_append, Nat.ofDigitChars_toDigits (by decide) (by decide)] at h

/-- The layout without exponents writes the number of the digits. -/
theorem Binary.Digits.writes_positional (d : Binary.Digits) : Writes d.positional d.number := by
  have hd : IsDigits d.chars := isDigits_toDigits d.coefficient
  have hvalue : Nat.ofDigitChars 10 d.chars 0 = d.coefficient :=
    Nat.ofDigitChars_toDigits (by decide) (by decide)
  rw [positional, number]
  generalize d.chars = digits at hd hvalue
  generalize d.exponent = exponent
  simp only
  split
  · next hexp =>
    -- zeros behind the digits
    obtain ⟨k, rfl⟩ := Int.eq_ofNat_of_zero_le hexp
    have h := Writes.whole (hd.append_zeros k)
    rw [Nat.ofDigitChars_append, hvalue, Nat.ofDigitChars_replicate_zero] at h
    have hnumber : (d.coefficient : ℚ) * 10 ^ (k : ℤ) = ((10 ^ k * d.coefficient : ℕ) : ℚ) := by
      rw [zpow_natCast, mul_comm]
      push_cast
      rfl
    rw [hnumber]
    exact h
  · next hexp =>
    obtain ⟨k, rfl⟩ : ∃ k : Nat, exponent = -(k : Int) := ⟨(-exponent).toNat, by omega⟩
    have hpos : 0 < k := by omega
    rw [neg_neg, Int.toNat_natCast, zpow_neg, zpow_natCast, ← div_eq_mul_inv]
    split
    · next hlt =>
      have h := writes_split hd hpos hlt
      rwa [hvalue] at h
    · next hge =>
      -- a zero before the point, and zeros up to the first digit
      have hzero : IsDigits ['0'] := ⟨by simp, by simp⟩
      have h := Writes.point hzero (isDigits_zeros_append hd (k - digits.length))
      have hplaces : (List.replicate (k - digits.length) '0' ++ digits).length = k := by
        rw [List.length_append, List.length_replicate]
        omega
      have hnumber : Nat.ofDigitChars 10 (['0'] ++ (List.replicate (k - digits.length) '0' ++
          digits)) 0 = d.coefficient := by
        rw [← List.append_assoc, ← List.replicate_one, ← List.replicate_add,
          ofDigitChars_zeros_append, hvalue]
      rwa [hplaces, hnumber] at h

/-! ## Reading numerals -/

namespace Sql

/-- The character may go on with a number or a word that stands before it. -/
def continuesBare (c : Char) : Bool := isWordChar c || c == '.'

/-- What goes on with no number and no word is no digit, no word character and no point. -/
theorem not_continuesBare {c : Char} (h : continuesBare c = false) :
    c.isDigit = false ∧ isWordChar c = false ∧ c ≠ '.' := by
  simp only [continuesBare, Bool.or_eq_false_iff, beq_eq_false_iff_ne] at h
  obtain ⟨hword, hpoint⟩ := h
  refine ⟨?_, hword, hpoint⟩
  rw [Bool.eq_false_iff]
  intro hdigit
  rw [isWordChar, Char.isAlphanum, hdigit, Bool.or_true, Bool.true_or] at hword
  cases hword

/-- A run is cut off where the first stands that does not belong to it. -/
theorem span_append {α : Type} {p : α → Bool} {a r : List α} (ha : ∀ c ∈ a, p c)
    (hr : ∀ c ∈ r.head?, p c = false) : (a ++ r).span p = (a, r) := by
  have hstop : r.takeWhile p = [] ∧ r.dropWhile p = r := by
    cases r with
    | nil => exact ⟨rfl, rfl⟩
    | cons c r =>
      have hc : p c = false := hr c (by simp)
      simp [hc]
  rw [List.span_eq_takeWhile_dropWhile, List.takeWhile_append_of_pos ha,
    List.dropWhile_append_of_pos ha, hstop.1, hstop.2, List.append_nil]

end Sql

namespace Literal

variable {r : List Char}

/-- There is no power of ten where nothing goes on. -/
theorem readPower_eq (hr : ∀ c ∈ r.head?, continuesBare c = false) : readPower r = (0, r) := by
  cases r with
  | nil => rfl
  | cons c r =>
    obtain ⟨-, hword, -⟩ := not_continuesBare (hr c (by simp))
    have hmark : ¬(c = 'e' ∨ c = 'E') := by
      rintro (rfl | rfl)
      · exact absurd hword (by decide)
      · exact absurd hword (by decide)
    rw [readPower]
    simp only
    rw [if_neg hmark]

/-- There is no point where nothing goes on. -/
theorem readPlaces_eq (hr : ∀ c ∈ r.head?, continuesBare c = false) : readPlaces r = ([], r) := by
  cases r with
  | nil => rfl
  | cons c r =>
    obtain ⟨-, -, hpoint⟩ := not_continuesBare (hr c (by simp))
    rw [readPlaces]
    rintro r' h
    exact hpoint (List.cons.inj h).1

/-- **An unsigned numeral is read back as its number.** -/
theorem readNumber_of_writes {u : List Char} {q : ℚ} (h : Writes u q)
    (hr : ∀ c ∈ r.head?, continuesBare c = false) : readNumber (u ++ r) = some (q, r) := by
  have hdigit : ∀ c ∈ r.head?, c.isDigit = false := fun c hc => (not_continuesBare (hr c hc)).1
  have hword : ¬r.head?.any isWordChar := by
    rw [Option.any_eq_true]
    rintro ⟨c, hc, hword⟩
    rw [(not_continuesBare (hr c hc)).2.1] at hword
    cases hword
  cases h with
  | whole ha =>
    rw [readNumber, span_append ha.digits hdigit]
    simp only [readPlaces_eq hr, readPower_eq hr]
    rw [if_neg (not_or.2 ⟨ha.ne_nil, hword⟩)]
    simp
  | @point a b ha hb =>
    have hpoint : ∀ c ∈ ('.' :: (b ++ r)).head?, c.isDigit = false := by
      intro c hc
      obtain rfl : '.' = c := by simpa using hc
      decide
    have hplaces : readPlaces ('.' :: (b ++ r)) = (b, r) := by
      rw [readPlaces, span_append hb.digits hdigit]
    rw [List.append_assoc, List.cons_append, readNumber, span_append ha.digits hpoint]
    simp only [hplaces, readPower_eq hr]
    rw [if_neg (not_or.2 ⟨ha.ne_nil, hword⟩), zero_sub, zpow_neg, zpow_natCast, div_eq_mul_inv]

/-- A digit begins a number. -/
theorem read_digit {c : Char} (hc : c.isDigit) (s : List Char) :
    read (c :: s) = (readNumber (c :: s)).map fun (q, r) => (.number q, r) := by
  have hne : ∀ d : Char, d.isDigit = false → c ≠ d := by
    rintro d hd rfl
    rw [hd] at hc
    cases hc
  rw [read]
  · simp [hc]
  · rintro rest h
    exact hne _ (by decide) (List.cons.inj h).1
  · rintro rest h
    exact hne _ (by decide) (List.cons.inj h).1
  · rintro rest h
    exact hne _ (by decide) (List.cons.inj h).1

/-- A number starts with a digit. -/
theorem head_of_writes {u : List Char} {q : ℚ} (h : Writes u q) :
    ∃ c s, u = c :: s ∧ c.isDigit := by
  cases h with
  | whole ha => exact (IsUnsigned.whole ha).head
  | point ha hb => exact (IsUnsigned.point ha hb).head

/-- **A numeral is read back as its number.** -/
theorem read_of_denotes {s : List Char} {q : ℚ} (h : Denotes s q)
    (hr : ∀ c ∈ r.head?, continuesBare c = false) : read (s ++ r) = some (.number q, r) := by
  cases h with
  | plus hu =>
    have hread := readNumber_of_writes hu hr
    obtain ⟨c, u, rfl, hc⟩ := head_of_writes hu
    rw [List.cons_append] at hread ⊢
    rw [read_digit hc, hread]
    rfl
  | minus hu =>
    rw [List.cons_append, read, readNumber_of_writes hu hr]
    rfl

/-- **A quoted text is read back.** -/
theorem read_quoted (s : String) (hr : r.head? ≠ some '\'') :
    read ((quoted s).toList ++ r) = some (.text s, r) := by
  have htext : (quoted s).toList ++ r = '\'' :: (escapeChars s.toList ++ '\'' :: r) := by
    simp [quoted]
  rw [htext, read, readText_escapeChars s.toList hr]
  simp

/-- **The literal of bytes is read back.** -/
theorem read_bytes (data : List UInt8) (r : List Char) :
    read (("X'" ++ Hex.encode data ++ "'").toList ++ r) = some (.bytes data, r) := by
  have htext : ("X'" ++ Hex.encode data ++ "'").toList ++ r =
      'X' :: '\'' :: (Hex.chars data ++ '\'' :: r) := by
    simp
  rw [htext, read, readBytes_chars]
  rfl

/-- The word for the null is read back. -/
theorem read_null (hr : ∀ c ∈ r.head?, continuesBare c = false) :
    read ("NULL".toList ++ r) = some (.null, r) := by
  have hword : ("NULL".toList ++ r).span isWordChar = ("NULL".toList, r) :=
    span_append (List.all_eq_true.1 (by decide)) fun c hc => (not_continuesBare (hr c hc)).2.1
  have hnull : readNull ("NULL".toList ++ r) = some r := by
    rw [readNull, hword]
    rfl
  show (readNull ("NULL".toList ++ r)).map _ = _
  rw [hnull]
  rfl

end Literal

/-! ## Values -/

/-- An integer is denoted by what is printed for it. -/
theorem Numeral.denotes_toString_int (n : Int) : Denotes (toString n).toList n := by
  have hwrites := writes_toDigits n.natAbs
  rw [toList_toString_int]
  split
  · have hnumber : (n : ℚ) = -((n.natAbs : ℤ) : ℚ) := by
      rw [← Int.cast_neg]
      congr 1
      omega
    rw [hnumber, Int.cast_natCast]
    exact .minus hwrites
  · have hnumber : (n : ℚ) = ((n.natAbs : ℤ) : ℚ) := by
      congr 1
      omega
    rw [hnumber, Int.cast_natCast]
    exact .plus hwrites

/-- A numeral denotes its number, and behind a minus sign the opposite one. -/
theorem Numeral.denotes_ite {u : List Char} {q : ℚ} (h : Writes u q) (negative : Bool) :
    Denotes (if negative then '-' :: u else u) (if negative then -q else q) := by
  cases negative
  · exact .plus h
  · exact .minus h

/-- A decimal is written as its number. -/
theorem Fixed.denotes_text (d : Fixed) : Denotes d.text.toList d.number := by
  have hnumber : d.number =
      if d.negative then -((d.magnitude : ℚ) / 10 ^ d.scale) else d.magnitude / 10 ^ d.scale := by
    rw [number, mantissa]
    cases d.negative
    · simp
    · simp [neg_div]
  rw [text, String.toList_ofList, hnumber]
  exact denotes_ite (Fixed.writes_magnitudeChars d.magnitude d.scale) d.negative

/-- What a floating-point number is in SQL: the number of its decimal digits, or the text for what
is no number. -/
def Binary.Format.content (f : Binary.Format) (bits : Nat) : Literal.Content :=
  match f.decode bits with
  | .finite negative m q =>
    let n := (Binary.Digits.ofScaled .up f m q).number
    .number (if negative then -n else n)
  | .nan => .text "NaN"
  | .infinite negative => .text (if negative then "-inf" else "inf")

namespace Value

open Literal

/-- What a value is to a server. -/
def content : Value → Content
  | .null => .null
  | .bool b => .number (if b then 1 else 0)
  | .tinyInt n => .number n.toInt
  | .smallInt n => .number n.toInt
  | .int n => .number n.toInt
  | .bigInt n => .number n.toInt
  | .unsignedTinyInt n => .number n.toNat
  | .unsignedSmallInt n => .number n.toNat
  | .unsignedInt n => .number n.toNat
  | .unsignedBigInt n => .number n.toNat
  | .float bits => Binary.single.content bits.toNat
  | .double bits => Binary.double.content bits.toNat
  | .decimal d => .number d.number
  | .string s => .text s
  | .text s => .text s
  | .bytes data => .bytes data
  | .json j => .text j.text
  | .date s => .text s
  | .time s => .text s
  | .dateTime s => .text s

/-- The value stands in SQL without quotes. -/
def isBare (v : Value) : Bool := v.isNull || v.isNumeric

variable {r : List Char}

/-- An integer is read back. -/
theorem read_integer {v : Value} {n : Int} (hn : v.integer? = some n)
    (hr : ∀ c ∈ r.head?, continuesBare c = false) :
    read (v.literal.toList ++ r) = some (.number n, r) := by
  have hnumeric : v.isNumeric = true := by
    cases v <;> first | rfl | simp [integer?] at hn
  have hliteral : v.literal = v.display := by
    cases v <;> first | rfl | simp [integer?] at hn
  rw [hliteral, display_of_integer? hn]
  exact read_of_denotes (denotes_toString_int n) hr

/-- A floating-point number is read back, as a number or as the text for what is none. -/
theorem read_float (f : Binary.Format) (bits : Nat) (hquote : r.head? ≠ some '\'')
    (hbare : f.isFinite bits → ∀ c ∈ r.head?, continuesBare c = false) :
    read ((if f.isFinite bits then f.plainText bits else quoted (f.plainText bits)).toList ++ r) =
      some (f.content bits, r) := by
  rw [Binary.Format.isFinite] at hbare ⊢
  rw [Binary.Format.plainText, Binary.Format.content]
  cases hd : f.decode bits with
  | nan => exact read_quoted "NaN" hquote
  | infinite negative => exact read_quoted _ hquote
  | finite negative m q =>
    rw [hd] at hbare
    simp only [if_true, String.toList_ofList]
    exact read_of_denotes (denotes_ite (Binary.Digits.writes_positional _) negative) (hbare rfl)

/-- **The literal of a value is read back**: a server that reads one literal from SQL text which
starts with it stops exactly behind it and finds the content of the value. What follows must not
start with an apostrophe, and behind a value without quotes it must not go on with a number or a
word. -/
theorem read_literal (v : Value) (hquote : r.head? ≠ some '\'')
    (hbare : v.isBare → ∀ c ∈ r.head?, continuesBare c = false) :
    Literal.read (v.literal.toList ++ r) = some (v.content, r) := by
  cases v with
  | null => exact read_null (hbare rfl)
  | bool b =>
    cases b
    · exact read_of_denotes (.plus (writes_toDigits 0)) (hbare rfl)
    · exact read_of_denotes (.plus (writes_toDigits 1)) (hbare rfl)
  | tinyInt n => exact read_integer rfl (hbare rfl)
  | smallInt n => exact read_integer rfl (hbare rfl)
  | int n => exact read_integer rfl (hbare rfl)
  | bigInt n => exact read_integer rfl (hbare rfl)
  | unsignedTinyInt n => exact read_integer rfl (hbare rfl)
  | unsignedSmallInt n => exact read_integer rfl (hbare rfl)
  | unsignedInt n => exact read_integer rfl (hbare rfl)
  | unsignedBigInt n => exact read_integer rfl (hbare rfl)
  | float bits => exact read_float Binary.single bits.toNat hquote hbare
  | double bits => exact read_float Binary.double bits.toNat hquote hbare
  | decimal d => exact read_of_denotes d.denotes_text (hbare rfl)
  | string s => exact read_quoted s hquote
  | text s => exact read_quoted s hquote
  | bytes data => exact read_bytes data r
  | json j => exact read_quoted _ hquote
  | date s => exact read_quoted s hquote
  | time s => exact read_quoted s hquote
  | dateTime s => exact read_quoted s hquote

/-- A text with a quote and a backslash at its end is read back, and a negative decimal as its
fraction, each with what follows left over. -/
theorem read_literal_hostile :
    Literal.read ((string "it's\n\\").literal.toList ++ " OR '1'".toList) =
        some (.text "it's\n\\", " OR '1'".toList) ∧
      Literal.read ((decimal ⟨true, 150, 2, by decide, by decide⟩).literal.toList ++ "-1".toList) =
        some (.number (-3 / 2), "-1".toList) := by
  have hnumber : (⟨true, 150, 2, by decide, by decide⟩ : Fixed).number = -3 / 2 := by
    decide +kernel
  refine ⟨read_literal _ (by decide) (by decide), ?_⟩
  rw [← hnumber]
  refine read_literal _ (by decide) fun _ c hc => ?_
  obtain rfl : '-' = c := by simpa using hc
  decide

end Value

end SqlBridge
