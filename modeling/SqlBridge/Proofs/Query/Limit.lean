import Mathlib.Algebra.Group.Nat.Defs
import SqlBridge.Proofs.Value.Integer
import SqlBridge.Query.Basic

/-!
# Row limits as texts

A text is a limit when it is the word `ALL` or writes a number of rows that fits 64 bits, with or
without a plus sign and with any zeros in front (`Limit.ofText_eq_ok_iff`). What is printed is only
one of these spellings, the bare one: digits alone, and no zero in front of others
(`Numeral.IsBare`). Every spelling of a number ends in its bare one (`Numeral.WritesNat.exists_eq`),
so the clause of a limit that was read holds what is left of the text when the sign and the zeros
are taken away.

`Limit.limits_read` puts these together with the two ways back: a limit is read from what it is
printed as, and any other text is refused with an error that names it.
-/

namespace SqlBridge

namespace Numeral

/-! ## The bare spelling of a number -/

/-- Digits without a zero in front of others. -/
structure IsBare (s : List Char) : Prop extends IsDigits s where
  eq_zero : ∀ r, s = '0' :: r → r = []

/-- The digits of a number are bare. -/
theorem isBare_toDigits (n : Nat) : IsBare (Nat.toDigits 10 n) :=
  ⟨isDigits_toDigits n, fun _ h => eq_nil_of_toDigits h⟩

/-- Behind a number other than zero the digits are printed as they are. -/
theorem toDigits_ofDigitChars {n : Nat} (hn : 0 < n) {s : List Char} (hs : ∀ c ∈ s, c.isDigit) :
    Nat.toDigits 10 (Nat.ofDigitChars 10 s n) = Nat.toDigits 10 n ++ s := by
  induction s generalizing n with
  | nil => simp
  | cons c s ih =>
    have hc := hs c List.mem_cons_self
    have hrange := toNat_of_isDigit hc
    have hlt : c.toNat - 48 < 10 := by omega
    have hlast := Nat.toDigits_append_toDigits (b := 10) (by decide) hn hlt
    rw [Nat.toDigits_of_lt_base hlt, digitChar_of_isDigit hc] at hlast
    rw [ofDigitChars_cons, Nat.mul_comm,
      ih (by omega) fun d hd => hs d (List.mem_cons_of_mem c hd), ← hlast, List.append_assoc,
      List.singleton_append]

/-- Digits are the bare spelling of their number behind zeros. -/
theorem IsDigits.exists_eq {s : List Char} (hs : IsDigits s) :
    ∃ k, s = List.replicate k '0' ++ Nat.toDigits 10 (Nat.ofDigitChars 10 s 0) := by
  induction s with
  | nil => exact absurd rfl hs.ne_nil
  | cons c s ih =>
    have hrest : ∀ d ∈ s, d.isDigit := fun d hd => hs.digits d (List.mem_cons_of_mem c hd)
    have hc := hs.digits c List.mem_cons_self
    rw [ofDigitChars_cons, Nat.zero_mul, Nat.zero_add]
    by_cases hzero : c.toNat - 48 = 0
    · obtain rfl := eq_zero_of_isDigit hc hzero
      by_cases hnil : s = []
      · subst hnil
        exact ⟨0, rfl⟩
      · obtain ⟨k, hk⟩ := ih ⟨hnil, hrest⟩
        exact ⟨k + 1, congrArg ('0' :: ·) hk⟩
    · have hrange := toNat_of_isDigit hc
      have hlt : c.toNat - 48 < 10 := by omega
      refine ⟨0, ?_⟩
      rw [toDigits_ofDigitChars (Nat.pos_of_ne_zero hzero) hrest, Nat.toDigits_of_lt_base hlt,
        digitChar_of_isDigit hc]
      rfl

/-- **Every spelling of a number ends in its bare one**; a plus sign and zeros may stand in
front. -/
theorem WritesNat.exists_eq {s : List Char} {n : Nat} (h : WritesNat s n) :
    ∃ sign k, (sign = [] ∨ sign = ['+']) ∧
      s = sign ++ (List.replicate k '0' ++ Nat.toDigits 10 n) := by
  cases h with
  | plain hs =>
    obtain ⟨k, hk⟩ := hs.exists_eq
    exact ⟨[], k, .inl rfl, hk⟩
  | @plus s hs =>
    obtain ⟨k, hk⟩ := hs.exists_eq
    exact ⟨['+'], k, .inr rfl, congrArg ('+' :: ·) hk⟩

/-- A number is written by the digits that it is printed as. -/
theorem writesNat_toDigits (n : Nat) : WritesNat (Nat.toDigits 10 n) n := by
  have h := WritesNat.plain (isDigits_toDigits n)
  rwa [Nat.ofDigitChars_toDigits (by decide) (by decide)] at h

/-- The word for no limit is no number. -/
theorem not_writesNat_all (n : Nat) : ¬WritesNat "ALL".toList n := by
  intro h
  have hs : "ALL".toList = 'A' :: ['L', 'L'] := rfl
  rw [hs, writesNat_cons_iff (by decide)] at h
  have hletter := h.1.digits 'A' List.mem_cons_self
  cases hletter

end Numeral

namespace Limit

open Numeral

/-! ## Reading -/

/-- **A limit is read exactly from the word and from the numbers that fit.** -/
theorem ofText_eq_ok_iff {s : String} {l : Limit} :
    ofText s = .ok l ↔
      s = "ALL" ∧ l = .all ∨ ∃ n < 2 ^ 64, WritesNat s.toList n ∧ l = .rows (.ofNat n) := by
  have hread (n : Nat) : readNat UInt64.size s.toList = .ok n ↔
      WritesNat s.toList n ∧ n < UInt64.size := readNat_eq_ok_iff (by decide)
  have hsize : UInt64.size = 2 ^ 64 := rfl
  rw [ofText]
  by_cases hall : s = "ALL"
  · subst hall
    rw [if_pos rfl, Except.ok.injEq]
    constructor
    · rintro rfl
      exact .inl ⟨rfl, rfl⟩
    · rintro (⟨-, rfl⟩ | ⟨n, -, hn, -⟩)
      · rfl
      · exact absurd hn (not_writesNat_all n)
  · rw [if_neg hall]
    simp only [hall, false_and, false_or]
    split
    · next n hn =>
      have hwrites := (hread n).1 hn
      rw [Except.ok.injEq]
      constructor
      · rintro rfl
        exact ⟨n, hsize ▸ hwrites.2, hwrites.1, rfl⟩
      · rintro ⟨m, hm, hs, rfl⟩
        have hsame := (hread m).2 ⟨hs, hm⟩
        rw [hn] at hsame
        rw [Except.ok.inj hsame]
    · next e he =>
      refine iff_of_false nofun ?_
      rintro ⟨m, hm, hs, -⟩
      rw [(hread m).2 ⟨hs, hm⟩] at he
      cases he

/-- **Any other text is refused**, and the error names it. -/
theorem ofText_eq_error_iff {s : String} {e : Error} :
    ofText s = .error e ↔
      e = .invalidQuery (.badLimit s) ∧ s ≠ "ALL" ∧ ∀ n, WritesNat s.toList n → 2 ^ 64 ≤ n := by
  have hrefused : ofText s = .error e ↔
      e = .invalidQuery (.badLimit s) ∧ ∀ l, ofText s ≠ .ok l := by
    rw [ofText]
    split
    · simp
    · split
      · simp
      · simp [eq_comm]
  rw [hrefused]
  refine and_congr_right fun _ => ⟨fun h => ⟨?_, fun n hn => ?_⟩, ?_⟩
  · rintro rfl
    exact h .all (ofText_eq_ok_iff.2 (.inl ⟨rfl, rfl⟩))
  · exact Nat.not_lt.1 fun hlt => h _ (ofText_eq_ok_iff.2 (.inr ⟨n, hlt, hn, rfl⟩))
  · rintro ⟨hall, hnumber⟩ l hl
    obtain ⟨rfl, -⟩ | ⟨n, hlt, hn, -⟩ := ofText_eq_ok_iff.1 hl
    · exact hall rfl
    · exact absurd hlt (Nat.not_lt.2 (hnumber n hn))

/-! ## Printing -/

/-- A number of rows is printed as its digits. -/
theorem toList_text_rows (n : UInt64) : (text (.rows n)).toList = Nat.toDigits 10 n.toNat :=
  Nat.toList_repr

/-- **A limit is read from its text.** -/
theorem ofText_text (l : Limit) : ofText l.text = .ok l := by
  rw [ofText_eq_ok_iff]
  cases l with
  | all => exact .inl ⟨rfl, rfl⟩
  | rows n =>
    refine .inr ⟨n.toNat, n.toNat_lt, ?_, by rw [UInt64.ofNat_toNat]⟩
    rw [toList_text_rows]
    exact writesNat_toDigits n.toNat

/-- The clause of a limit that was read from a text holds the end of that text. -/
theorem exists_clause_eq {s : String} {n : UInt64} (h : ofText s = .ok (.rows n)) :
    ∃ sign k digits, (sign = [] ∨ sign = ['+']) ∧
      s.toList = sign ++ (List.replicate k '0' ++ digits) ∧
      IsBare digits ∧ Nat.ofDigitChars 10 digits 0 = n.toNat ∧
      (clause (.rows n)).toList = "LIMIT ".toList ++ digits := by
  obtain ⟨-, hnone⟩ | ⟨m, hm, hwrites, hrows⟩ := ofText_eq_ok_iff.1 h
  · cases hnone
  · cases hrows
    have hvalue : (UInt64.ofNat m).toNat = m := UInt64.toNat_ofNat_of_lt' hm
    obtain ⟨sign, k, hsign, hs⟩ := hwrites.exists_eq
    refine ⟨sign, k, Nat.toDigits 10 m, hsign, hs, isBare_toDigits m, ?_, ?_⟩
    · rw [Nat.ofDigitChars_toDigits (by decide) (by decide), hvalue]
    · rw [clause, String.toList_append, hvalue]
      exact congrArg _ Nat.toList_repr

/-- **Limits and their texts.** A text is read as a limit exactly when it is the word `ALL` or
writes a number below `2 ^ 64`, and then as that limit; any other text is refused with an error that
names it. Every limit is read from what it is printed as. The clause of a number that was read holds
the number's bare spelling, which is what the text ends in behind a plus sign and zeros. -/
theorem limits_read (s : String) :
    (∀ l, ofText s = .ok l ↔
        s = "ALL" ∧ l = .all ∨ ∃ n < 2 ^ 64, WritesNat s.toList n ∧ l = .rows (.ofNat n)) ∧
      (∀ e, ofText s = .error e ↔
        e = .invalidQuery (.badLimit s) ∧ s ≠ "ALL" ∧ ∀ n, WritesNat s.toList n → 2 ^ 64 ≤ n) ∧
      (Error.invalidQuery (.badLimit s)).message =
        "Invalid query: " ++ ("Invalid limit '" ++ s ++ "'") ∧
      (∀ l : Limit, ofText l.text = .ok l) ∧
      ∀ n, ofText s = .ok (.rows n) →
        ∃ sign k digits, (sign = [] ∨ sign = ['+']) ∧
          s.toList = sign ++ (List.replicate k '0' ++ digits) ∧
          IsBare digits ∧ Nat.ofDigitChars 10 digits 0 = n.toNat ∧
          (clause (.rows n)).toList = "LIMIT ".toList ++ digits :=
  ⟨fun _ => ofText_eq_ok_iff, fun _ => ofText_eq_error_iff, rfl, ofText_text,
    fun _ => exists_clause_eq⟩

/-- The largest number of rows with a sign and zeros in front, and the one behind it. -/
theorem limits_read_largest :
    let largest := "18446744073709551615".toList
    ofText "+0018446744073709551615" = .ok (.rows 18446744073709551615) ∧
      (∃ sign k digits, (sign = [] ∨ sign = ['+']) ∧
        '+' :: '0' :: '0' :: largest = sign ++ (List.replicate k '0' ++ digits) ∧
        IsBare digits ∧ Nat.ofDigitChars 10 digits 0 = 18446744073709551615 ∧
        (clause (.rows 18446744073709551615)).toList = "LIMIT ".toList ++ digits) ∧
      ofText "18446744073709551616" =
        .error (.invalidQuery (.badLimit "18446744073709551616")) := by
  intro largest
  have hplus : WritesNat ('+' :: '0' :: '0' :: largest) 18446744073709551615 :=
    .plus (s := '0' :: '0' :: largest) ⟨by decide, List.all_eq_true.1 (by decide)⟩
  have hread : ofText "+0018446744073709551615" = .ok (.rows 18446744073709551615) :=
    ((limits_read "+0018446744073709551615").1 _).2 (.inr ⟨_, by decide, hplus, rfl⟩)
  refine ⟨hread, (limits_read _).2.2.2.2 _ hread, ?_⟩
  refine ((limits_read "18446744073709551616").2.1 _).2 ⟨rfl, by decide, fun n hn => ?_⟩
  have hvalue := ((writesNat_cons_iff (by decide)).1 hn).2
  rw [← hvalue]
  decide

end Limit

end SqlBridge
