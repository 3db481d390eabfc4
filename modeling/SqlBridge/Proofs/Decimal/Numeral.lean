import SqlBridge.Value

/-!
# The form of decimal numerals

Every finite number is written as digits with perhaps a minus sign in front and perhaps a point and
more digits behind (`IsNumeral`): integers of every width, decimals of every scale, and the
floating-point numbers in the layout without exponents. `Value.isNumeral_display` is that statement
for the values that stand in SQL without quotes.
-/

namespace SqlBridge.Numeral

/-- One ASCII digit or more. -/
structure IsDigits (s : List Char) : Prop where
  ne_nil : s ≠ []
  digits : ∀ c ∈ s, c.isDigit

/-- Digits, and perhaps a point with digits behind it. -/
inductive IsUnsigned : List Char → Prop where
  | whole {a : List Char} (ha : IsDigits a) : IsUnsigned a
  | point {a b : List Char} (ha : IsDigits a) (hb : IsDigits b) : IsUnsigned (a ++ '.' :: b)

/-- An unsigned numeral, perhaps behind a minus sign. -/
inductive IsNumeral : List Char → Prop where
  | plus {u : List Char} (hu : IsUnsigned u) : IsNumeral u
  | minus {u : List Char} (hu : IsUnsigned u) : IsNumeral ('-' :: u)

/-- Printed numbers are digits. -/
theorem isDigits_toDigits (n : Nat) : IsDigits (Nat.toDigits 10 n) :=
  ⟨Nat.toDigits_ne_nil, fun _ hc => Nat.isDigit_of_mem_toDigits (by decide) (by decide) hc⟩

/-- Zeros in front of digits make digits. -/
theorem isDigits_zeros_append {s : List Char} (hs : IsDigits s) (k : Nat) :
    IsDigits (List.replicate k '0' ++ s) := by
  refine ⟨by simp [hs.ne_nil], fun c hc => ?_⟩
  rcases List.mem_append.1 hc with hc | hc
  · rw [List.eq_of_mem_replicate hc]
    decide
  · exact hs.digits c hc

/-- Zeros behind digits make digits. -/
theorem IsDigits.append_zeros {s : List Char} (hs : IsDigits s) (k : Nat) :
    IsDigits (s ++ List.replicate k '0') := by
  refine ⟨by simp [hs.ne_nil], fun c hc => ?_⟩
  rcases List.mem_append.1 hc with hc | hc
  · exact hs.digits c hc
  · rw [List.eq_of_mem_replicate hc]
    decide

/-- Digits cut within are digits on both sides. -/
theorem isDigits_split {s : List Char} (hs : IsDigits s) {k : Nat} (hpos : 0 < k)
    (hk : k < s.length) :
    IsDigits (s.take (s.length - k)) ∧ IsDigits (s.drop (s.length - k)) ∧
      (s.drop (s.length - k)).length = k := by
  refine ⟨⟨?_, ?_⟩, ⟨?_, ?_⟩, ?_⟩
  · rw [Ne, List.take_eq_nil_iff]
    have := hs.ne_nil
    rintro (h | h)
    · omega
    · contradiction
  · exact fun c hc => hs.digits c (List.mem_of_mem_take hc)
  · rw [Ne, List.drop_eq_nil_iff]
    omega
  · exact fun c hc => hs.digits c (List.mem_of_mem_drop hc)
  · rw [List.length_drop]
    omega

/-- Digits with a point set within them are an unsigned numeral. -/
theorem isUnsigned_split {s : List Char} (hs : IsDigits s) {k : Nat} (hpos : 0 < k)
    (hk : k < s.length) : IsUnsigned (s.take (s.length - k) ++ '.' :: s.drop (s.length - k)) := by
  obtain ⟨hbefore, hbehind, -⟩ := isDigits_split hs hpos hk
  exact .point hbefore hbehind

/-- The characters of an unsigned numeral are digits and the point. -/
theorem IsUnsigned.chars {u : List Char} (hu : IsUnsigned u) : ∀ c ∈ u, c.isDigit ∨ c = '.' := by
  intro c hc
  cases hu with
  | whole ha => exact .inl (ha.digits c hc)
  | point ha hb =>
    rcases List.mem_append.1 hc with hc | hc
    · exact .inl (ha.digits c hc)
    · rcases List.mem_cons.1 hc with rfl | hc
      · exact .inr rfl
      · exact .inl (hb.digits c hc)

/-- An unsigned numeral starts with a digit. -/
theorem IsUnsigned.head {u : List Char} (hu : IsUnsigned u) :
    ∃ c r, u = c :: r ∧ c.isDigit := by
  cases hu with
  | whole ha =>
    obtain ⟨c, cs, rfl⟩ := List.exists_cons_of_ne_nil ha.ne_nil
    exact ⟨c, cs, rfl, ha.digits c (by simp)⟩
  | point ha hb =>
    obtain ⟨c, cs, rfl⟩ := List.exists_cons_of_ne_nil ha.ne_nil
    exact ⟨c, _, rfl, ha.digits c (by simp)⟩

/-! ## Digits and their numbers -/

/-- The value of a digit is its distance from zero. -/
theorem digit?_of_isDigit {c : Char} (hc : c.isDigit) : digit? c = some (c.toNat - 48) := by
  rw [Char.isDigit, Bool.and_eq_true, decide_eq_true_eq, decide_eq_true_eq] at hc
  exact if_pos hc

/-- What is no digit has no value. -/
theorem digit?_of_not_isDigit {c : Char} (hc : c.isDigit = false) : digit? c = none := by
  rw [Char.isDigit, Bool.and_eq_false_iff, decide_eq_false_iff_not, decide_eq_false_iff_not] at hc
  exact if_neg fun h => hc.elim (fun hlow => hlow h.1) fun hhigh => hhigh h.2

/-- The digits are the ten code points from 48 on. -/
theorem toNat_of_isDigit {c : Char} (hc : c.isDigit) : 48 ≤ c.toNat ∧ c.toNat ≤ 57 := by
  rw [Char.isDigit, Bool.and_eq_true, decide_eq_true_eq, decide_eq_true_eq] at hc
  exact hc

/-- A digit is the one that its value is printed as. -/
theorem digitChar_of_isDigit {c : Char} (hc : c.isDigit) : Nat.digitChar (c.toNat - 48) = c := by
  have hrange := toNat_of_isDigit hc
  apply Char.toNat_inj.1
  rw [Nat.toNat_digitChar_of_lt_ten (by omega)]
  omega

/-- The digit with the value zero is the zero. -/
theorem eq_zero_of_isDigit {c : Char} (hc : c.isDigit) (h : c.toNat - 48 = 0) : c = '0' := by
  rw [← digitChar_of_isDigit hc, h]
  rfl

/-- The first digit is taken into the value before the others. -/
theorem ofDigitChars_cons (c : Char) (s : List Char) (n : Nat) :
    Nat.ofDigitChars 10 (c :: s) n = Nat.ofDigitChars 10 s (n * 10 + (c.toNat - 48)) := by
  rw [Nat.ofDigitChars_cons, Nat.mul_comm]
  rfl

/-- Digits behind a number do not make it smaller. -/
theorem le_ofDigitChars (n : Nat) (s : List Char) : n ≤ Nat.ofDigitChars 10 s n := by
  induction s generalizing n with
  | nil => exact Nat.le_refl n
  | cons c s ih =>
    rw [ofDigitChars_cons]
    exact Nat.le_trans (by omega) (ih _)

/-- A numeral that starts with a zero ends with it. -/
theorem eq_nil_of_toDigits {n : Nat} {s : List Char} (h : Nat.toDigits 10 n = '0' :: s) :
    s = [] := by
  induction n using Nat.strongRecOn generalizing s with
  | ind n ih =>
    by_cases hn : n < 10
    · rw [Nat.toDigits_of_lt_base hn] at h
      exact (List.cons.inj h).2.symm
    · rw [Nat.toDigits_of_base_le (by decide) (by omega)] at h
      cases hfront : Nat.toDigits 10 (n / 10) with
      | nil => exact absurd hfront Nat.toDigits_ne_nil
      | cons c front =>
        rw [hfront, List.cons_append] at h
        obtain rfl := (List.cons.inj h).1
        obtain rfl := ih (n / 10) (by omega) hfront
        -- the number before the last digit would be zero
        have hzero := Nat.ofDigitChars_toDigits (b := 10) (n := n / 10) (by decide) (by decide)
        rw [hfront] at hzero
        have htenth : n / 10 = 0 := hzero.symm
        omega

/-- An unsigned numeral with a sign or without one is a numeral. -/
theorem isNumeral_ite {u : List Char} (hu : IsUnsigned u) (negative : Bool) :
    IsNumeral (if negative then '-' :: u else u) := by
  cases negative
  · exact .plus hu
  · exact .minus hu

/-- An integer is written as the digits of its magnitude, behind a minus sign if it is negative. -/
theorem toList_toString_int (n : Int) :
    (toString n).toList =
      if n < 0 then '-' :: Nat.toDigits 10 n.natAbs else Nat.toDigits 10 n.natAbs := by
  cases n with
  | ofNat k =>
    rw [if_neg (by simp)]
    exact Nat.toList_repr
  | negSucc k =>
    rw [if_pos (Int.negSucc_lt_zero k)]
    show ("-" ++ Nat.repr (k + 1)).toList = _
    simp [Nat.toList_repr]

/-- A printed integer is a number: a minus sign, if any, and digits. -/
theorem isNumeral_toString_int (n : Int) : IsNumeral (toString n).toList := by
  have hdigits := IsUnsigned.whole (isDigits_toDigits n.natAbs)
  rw [toList_toString_int]
  split
  · exact .minus hdigits
  · exact .plus hdigits

end SqlBridge.Numeral

namespace SqlBridge

open Numeral

/-- The layout without exponents is an unsigned numeral. -/
theorem Binary.Digits.isUnsigned_positional (d : Binary.Digits) : IsUnsigned d.positional := by
  have hd : IsDigits d.chars := isDigits_toDigits d.coefficient
  unfold Binary.Digits.positional
  simp only
  split
  · exact .whole (hd.append_zeros _)
  · split
    · exact isUnsigned_split hd (by omega) ‹_›
    · exact .point (a := ['0']) ⟨by simp, by simp⟩ (isDigits_zeros_append hd _)

/-- A finite floating-point number is written as a numeral. -/
theorem Binary.Format.isNumeral_plainText {f : Binary.Format} {bits : Nat}
    (h : f.isFinite bits) : IsNumeral (f.plainText bits).toList := by
  unfold Binary.Format.isFinite at h
  unfold Binary.Format.plainText
  cases hd : f.decode bits with
  | nan => simp [hd] at h
  | infinite negative => simp [hd] at h
  | finite negative m q =>
    simp only [String.toList_ofList]
    exact isNumeral_ite (Binary.Digits.isUnsigned_positional _) negative

/-- The digits of a decimal with the point in place are an unsigned numeral. -/
theorem Fixed.isUnsigned_magnitudeChars (n scale : Nat) :
    IsUnsigned (Fixed.magnitudeChars n scale) := by
  have hd : IsDigits (Nat.toDigits 10 n) := isDigits_toDigits n
  unfold Fixed.magnitudeChars
  simp only
  split
  · exact .whole hd
  · have hpad := isDigits_zeros_append hd (scale + 1 - (Nat.toDigits 10 n).length)
    refine isUnsigned_split hpad (by omega) ?_
    simp only [List.length_append, List.length_replicate]
    omega

/-- A decimal is written as a numeral. -/
theorem Fixed.isNumeral_text (d : Fixed) : IsNumeral d.text.toList := by
  unfold Fixed.text
  simp only [String.toList_ofList]
  exact isNumeral_ite (Fixed.isUnsigned_magnitudeChars _ _) d.negative

/-- An integer is written as one. -/
theorem Value.display_of_integer? {v : Value} {n : Int} (h : v.integer? = some n) :
    v.display = toString n := by
  cases v <;> simp only [integer?, Option.some.injEq, reduceCtorEq] at h
  all_goals
    subst h
    rfl

/-- **Values that stand without quotes are numerals**, the two truth values apart, which are not
written as their plain text. -/
theorem Value.isNumeral_display {v : Value} (h : v.isNumeric) (hbool : ∀ b, v ≠ .bool b) :
    IsNumeral v.display.toList := by
  cases hn : v.integer? with
  | some n =>
    rw [display_of_integer? hn]
    exact isNumeral_toString_int n
  | none =>
    cases v with
    | bool b => exact absurd rfl (hbool b)
    | float bits => exact Binary.Format.isNumeral_plainText h
    | double bits => exact Binary.Format.isNumeral_plainText h
    | decimal d => exact Fixed.isNumeral_text d
    | _ => simp [isNumeric, integer?] at h hn

end SqlBridge
