import Mathlib.Data.List.Basic
import SqlBridge.Proofs.Decimal.Numeral

/-!
# Decimals read back

The text of a decimal is read as the same number with the same places (`Fixed.exists_ofText?_text`).
Only the sign of a zero is lost, which does not count: the reader gives a zero none.
-/

namespace SqlBridge.Fixed

open Numeral

/-! ## Digits and places -/

/-- Digits before the point are read one by one. -/
theorem readPlaces_whole {s : List Char} (hs : ∀ c ∈ s, c.isDigit) (n : Nat) (r : List Char)
    (hbound : Nat.ofDigitChars 10 s n < magnitudeBound) :
    readPlaces n 0 false true (s ++ r) =
      readPlaces (Nat.ofDigitChars 10 s n) 0 false true r := by
  induction s generalizing n with
  | nil => rfl
  | cons c s ih =>
    rw [Numeral.ofDigitChars_cons] at hbound ⊢
    have hle := le_ofDigitChars (n * 10 + (c.toNat - 48)) s
    rw [List.cons_append, readPlaces, digit?_of_isDigit (hs c List.mem_cons_self)]
    dsimp only
    rw [if_pos (Nat.lt_of_le_of_lt hle hbound), if_pos (by decide)]
    exact ih (fun d hd => hs d (List.mem_cons_of_mem _ hd)) _ hbound

/-- The first digit starts the number. -/
theorem readPlaces_start {s : List Char} (hs : IsDigits s) (r : List Char)
    (hbound : Nat.ofDigitChars 10 s 0 < magnitudeBound) :
    readPlaces 0 0 false false (s ++ r) =
      readPlaces (Nat.ofDigitChars 10 s 0) 0 false true r := by
  cases s with
  | nil => exact absurd rfl hs.ne_nil
  | cons c s =>
    rw [← readPlaces_whole hs.digits 0 r hbound, List.cons_append, readPlaces, readPlaces]
    simp only [digit?_of_isDigit (hs.digits c List.mem_cons_self)]

/-- Up to twenty-eight digits behind the point are read one by one. -/
theorem readPlaces_places {s : List Char} (hs : ∀ c ∈ s, c.isDigit) (n scale : Nat)
    (hscale : scale + s.length ≤ 28) (hbound : Nat.ofDigitChars 10 s n < magnitudeBound) :
    readPlaces n scale true true s = some (Nat.ofDigitChars 10 s n, scale + s.length) := by
  induction s generalizing n scale with
  | nil => rfl
  | cons c s ih =>
    rw [Numeral.ofDigitChars_cons] at hbound ⊢
    rw [List.length_cons] at hscale ⊢
    have hle := le_ofDigitChars (n * 10 + (c.toNat - 48)) s
    rw [readPlaces, digit?_of_isDigit (hs c List.mem_cons_self)]
    dsimp only
    rw [if_pos (Nat.lt_of_le_of_lt hle hbound), if_pos rfl]
    split
    · rw [ih (fun d hd => hs d (List.mem_cons_of_mem _ hd)) _ _ (by omega) hbound]
      congr 2
      omega
    · obtain rfl : s = [] := List.eq_nil_of_length_eq_zero (by omega)
      rfl

/-! ## Texts -/

/-- A decimal is written as digits, with a point before as many of them as it has places. -/
theorem magnitudeChars_cases (n scale : Nat) :
    scale = 0 ∧ magnitudeChars n scale = Nat.toDigits 10 n ∨
      ∃ a b, IsDigits a ∧ IsDigits b ∧ b.length = scale ∧
        magnitudeChars n scale = a ++ '.' :: b ∧ Nat.ofDigitChars 10 (a ++ b) 0 = n := by
  have hd := isDigits_toDigits n
  rw [magnitudeChars]
  dsimp only
  split
  · next h => exact .inl ⟨h, rfl⟩
  · next h =>
    have hpad := isDigits_zeros_append hd (scale + 1 - (Nat.toDigits 10 n).length)
    have hlen : scale < (List.replicate (scale + 1 - (Nat.toDigits 10 n).length) '0' ++
        Nat.toDigits 10 n).length := by
      rw [List.length_append, List.length_replicate]
      omega
    obtain ⟨hbefore, hbehind, hplaces⟩ := isDigits_split hpad (Nat.pos_of_ne_zero h) hlen
    refine .inr ⟨_, _, hbefore, hbehind, hplaces, rfl, ?_⟩
    rw [List.take_append_drop, Nat.ofDigitChars_append, Nat.ofDigitChars_replicate_zero,
      Nat.mul_zero, Nat.ofDigitChars_toDigits (by decide) (by decide)]

/-- The digits of a decimal are read as its magnitude and its places. -/
theorem readPlaces_magnitudeChars (d : Fixed) :
    readPlaces 0 0 false false (magnitudeChars d.magnitude d.scale) =
      some (d.magnitude, d.scale) := by
  have hbound := d.magnitude_lt
  rcases magnitudeChars_cases d.magnitude d.scale with ⟨hscale, htext⟩ |
    ⟨a, b, ha, hb, hlen, htext, hvalue⟩
  · have hvalue : Nat.ofDigitChars 10 (Nat.toDigits 10 d.magnitude) 0 = d.magnitude :=
      Nat.ofDigitChars_toDigits (by decide) (by decide)
    have hread := readPlaces_start (isDigits_toDigits d.magnitude) [] (by rwa [hvalue])
    rw [List.append_nil, hvalue] at hread
    rw [htext, hread, hscale]
    rfl
  · rw [Nat.ofDigitChars_append] at hvalue
    have hwhole := le_ofDigitChars (Nat.ofDigitChars 10 a 0) b
    rw [hvalue] at hwhole
    have hpoint (n : Nat) : readPlaces n 0 false true ('.' :: b) = readPlaces n 0 true true b := rfl
    rw [htext, readPlaces_start ha _ (by omega), hpoint,
      readPlaces_places hb.digits _ _ (by have := d.scale_le; omega) (by rwa [hvalue]), hvalue,
      hlen, Nat.zero_add]

/-- **The text of a decimal is read back**, with all its places. -/
theorem exists_ofText?_text (d : Fixed) :
    ∃ e, ofText? d.text = some e ∧ e.mantissa = d.mantissa ∧ e.scale = d.scale := by
  have hread : ofPlainChars? d.text.toList = ofRead? d.negative (d.magnitude, d.scale) := by
    have hplaces := readPlaces_magnitudeChars d
    rw [text, String.toList_ofList]
    cases hsign : d.negative with
    | true => simp only [if_true, ofPlainChars?, hplaces, Option.bind_some]
    | false =>
      -- digits have no sign in front of them
      obtain ⟨c, s, htext, hc⟩ := (isUnsigned_magnitudeChars d.magnitude d.scale).head
      rw [if_neg Bool.false_ne_true]
      rw [htext] at hplaces ⊢
      rw [ofPlainChars?, hplaces, Option.bind_some]
      · rintro rest ⟨⟩
        exact absurd hc (by decide)
      · rintro rest ⟨⟩
        exact absurd hc (by decide)
  let e : Fixed := { d with negative := d.negative && d.magnitude != 0 }
  have hsigned : ofRead? d.negative (d.magnitude, d.scale) = some e :=
    dif_pos ⟨d.magnitude_lt, d.scale_le⟩
  refine ⟨e, by rw [ofText?, hread, hsigned]; rfl, ?_, rfl⟩
  by_cases hzero : d.magnitude = 0
  · simp [e, mantissa, hzero]
  · simp [e, mantissa, hzero]

end SqlBridge.Fixed
