import SqlBridge.Proofs.Decimal.Numeral
import SqlBridge.Table

/-!
# Integers out of values

A value denotes an integer when it is one, of whatever width, or a text that writes one: an optional
sign and digits, and nothing else (`Value.DenotesInt`). The signed reading gives exactly the numbers
that are denoted and fit 64 bits (`Value.toInt64?_eq_some_iff`). The unsigned reading goes by way of
the signed one unless the value is an unsigned integer of the widest kind, so of a text it gives
only the numbers below `2 ^ 63` (`Value.toUInt64?_eq_some_iff`).

`Value.integers_read` is the statement on both readings: the number that is denoted comes out
exactly when it fits, and it does not matter whether it came as a text or as an integer. The
unsigned reading makes an exception of the texts of numbers from `2 ^ 63` on that would still fit;
`Value.not_map_toUInt64?` is the first of them.
-/

namespace SqlBridge.Numeral

/-! ## Numerals of integers -/

/-- The text is an optional sign and digits, and this is the number. -/
inductive WritesInt : List Char → Int → Prop where
  | plain {s : List Char} (hs : IsDigits s) : WritesInt s (Nat.ofDigitChars 10 s 0)
  | plus {s : List Char} (hs : IsDigits s) : WritesInt ('+' :: s) (Nat.ofDigitChars 10 s 0)
  | minus {s : List Char} (hs : IsDigits s) : WritesInt ('-' :: s) (-Nat.ofDigitChars 10 s 0)

/-- No text of digits starts with a sign. -/
theorem IsDigits.ne_cons {c : Char} (hc : c.isDigit = false) {s r : List Char} (hs : IsDigits s) :
    s ≠ c :: r := by
  rintro rfl
  have hdigit := hs.digits c List.mem_cons_self
  rw [hc] at hdigit
  cases hdigit

/-- Behind a plus sign stand digits, and they give the number. -/
theorem writesInt_plus_iff {s : List Char} {n : Int} :
    WritesInt ('+' :: s) n ↔ IsDigits s ∧ n = Nat.ofDigitChars 10 s 0 := by
  constructor
  · intro h
    cases h with
    | plain hs => exact absurd rfl (hs.ne_cons (by decide))
    | plus hs => exact ⟨hs, rfl⟩
  · rintro ⟨hs, rfl⟩
    exact .plus hs

/-- Behind a minus sign stand digits, and they give the number with its sign changed. -/
theorem writesInt_minus_iff {s : List Char} {n : Int} :
    WritesInt ('-' :: s) n ↔ IsDigits s ∧ n = -Nat.ofDigitChars 10 s 0 := by
  constructor
  · intro h
    cases h with
    | plain hs => exact absurd rfl (hs.ne_cons (by decide))
    | minus hs => exact ⟨hs, rfl⟩
  · rintro ⟨hs, rfl⟩
    exact .minus hs

/-- A text that begins with no sign writes a number by digits alone. -/
theorem writesInt_cons_iff {c : Char} (hplus : c ≠ '+') (hminus : c ≠ '-') {s : List Char}
    {n : Int} :
    WritesInt (c :: s) n ↔ IsDigits (c :: s) ∧ n = Nat.ofDigitChars 10 (c :: s) 0 := by
  constructor
  · intro h
    cases h with
    | plain hs => exact ⟨hs, rfl⟩
    | plus hs => exact absurd rfl hplus
    | minus hs => exact absurd rfl hminus
  · rintro ⟨hs, rfl⟩
    exact .plain hs

/-- The empty text writes no number. -/
theorem not_writesInt_nil (n : Int) : ¬WritesInt [] n := by
  intro h
  cases h with
  | plain hs => exact hs.ne_nil rfl

/-- **A text writes one number at most.** -/
theorem WritesInt.unique {s : List Char} {m n : Int} (hm : WritesInt s m) (hn : WritesInt s n) :
    m = n := by
  cases hm with
  | plain hs =>
    cases hn with
    | plain => rfl
    | plus => exact absurd rfl (hs.ne_cons (by decide))
    | minus => exact absurd rfl (hs.ne_cons (by decide))
  | plus hs => exact (writesInt_plus_iff.1 hn).2.symm
  | minus hs => exact (writesInt_minus_iff.1 hn).2.symm

/-- Digits are read exactly as long as the number stays below the bound. -/
theorem readDigits_eq_ok_iff {bound value n : Nat} (hvalue : value < bound) (e : NumeralFault)
    (s : List Char) :
    readDigits bound e value s = .ok n ↔
      (∀ c ∈ s, c.isDigit) ∧ Nat.ofDigitChars 10 s value = n ∧ n < bound := by
  induction s generalizing value with
  | nil =>
    rw [readDigits, Except.ok.injEq]
    constructor
    · rintro rfl
      exact ⟨by simp, rfl, hvalue⟩
    · rintro ⟨-, hn, -⟩
      exact hn
  | cons c s ih =>
    rw [readDigits, List.forall_mem_cons, ofDigitChars_cons]
    cases hc : c.isDigit with
    | false => simp [digit?_of_not_isDigit hc]
    | true =>
      rw [digit?_of_isDigit hc]
      dsimp only
      by_cases hnext : value * 10 + (c.toNat - 48) < bound
      · rw [if_pos hnext, ih hnext]
        simp
      · -- the number only grows with the digits that are left
        have hle := le_ofDigitChars (value * 10 + (c.toNat - 48)) s
        rw [if_neg hnext]
        constructor
        · intro h
          cases h
        · rintro ⟨-, rfl, hn⟩
          omega

/-- Digits are read exactly if there are some and their number stays below the bound, whatever the
error for one beyond it. -/
theorem readUnsignedPart_eq_ok_iff {bound n : Nat} (hbound : 0 < bound) (e : NumeralFault)
    (s : List Char) :
    readUnsignedPart bound e s = .ok n ↔
      IsDigits s ∧ Nat.ofDigitChars 10 s 0 = n ∧ n < bound := by
  cases s with
  | nil =>
    constructor
    · intro h
      cases h
    · rintro ⟨hs, -⟩
      exact absurd rfl hs.ne_nil
  | cons c s =>
    rw [readUnsignedPart, readDigits_eq_ok_iff hbound]
    exact and_congr_left fun _ => ⟨fun h => ⟨by simp, h⟩, IsDigits.digits⟩

/-- The text is digits, with or without a plus sign in front, and this is the number. -/
inductive WritesNat : List Char → Nat → Prop where
  | plain {s : List Char} (hs : IsDigits s) : WritesNat s (Nat.ofDigitChars 10 s 0)
  | plus {s : List Char} (hs : IsDigits s) : WritesNat ('+' :: s) (Nat.ofDigitChars 10 s 0)

/-- Behind a plus sign stand digits, and they give the number. -/
theorem writesNat_plus_iff {s : List Char} {n : Nat} :
    WritesNat ('+' :: s) n ↔ IsDigits s ∧ Nat.ofDigitChars 10 s 0 = n := by
  constructor
  · intro h
    cases h with
    | plain hs => exact absurd rfl (hs.ne_cons (by decide))
    | plus hs => exact ⟨hs, rfl⟩
  · rintro ⟨hs, rfl⟩
    exact .plus hs

/-- A text that does not begin with a plus sign writes a number by digits alone. -/
theorem writesNat_cons_iff {c : Char} (hplus : c ≠ '+') {s : List Char} {n : Nat} :
    WritesNat (c :: s) n ↔ IsDigits (c :: s) ∧ Nat.ofDigitChars 10 (c :: s) 0 = n := by
  constructor
  · intro h
    cases h with
    | plain hs => exact ⟨hs, rfl⟩
    | plus hs => exact absurd rfl hplus
  · rintro ⟨hs, rfl⟩
    exact .plain hs

/-- The empty text writes no number. -/
theorem not_writesNat_nil (n : Nat) : ¬WritesNat [] n := by
  intro h
  cases h with
  | plain hs => exact hs.ne_nil rfl

/-- **A number is read exactly when the text writes it and it is in range.** -/
theorem readNat_eq_ok_iff {bound : Nat} (hbound : 0 < bound) {s : List Char} {n : Nat} :
    readNat bound s = .ok n ↔ WritesNat s n ∧ n < bound := by
  fun_cases readNat bound s with
  | case1 => simp [not_writesNat_nil]
  | case2 s => rw [readUnsignedPart_eq_ok_iff hbound, writesNat_plus_iff, and_assoc]
  | case3 c s hplus =>
    rw [readUnsignedPart_eq_ok_iff hbound, writesNat_cons_iff hplus, and_assoc]

/-- A number without its sign is read exactly when the digits write it and it is in range. -/
theorem map_readUnsignedPart_eq_ok_iff {bound : Nat} (hbound : 0 < bound) (e : NumeralFault)
    (s : List Char) (f : Nat → Int) (n : Int) :
    f <$> readUnsignedPart bound e s = .ok n ↔
      IsDigits s ∧ n = f (Nat.ofDigitChars 10 s 0) ∧ Nat.ofDigitChars 10 s 0 < bound := by
  have hmap : f <$> readUnsignedPart bound e s = .ok n ↔
      ∃ m, readUnsignedPart bound e s = .ok m ∧ f m = n := by
    cases readUnsignedPart bound e s <;> simp [Functor.map, Except.map]
  rw [hmap]
  constructor
  · rintro ⟨m, hm, rfl⟩
    obtain ⟨hs, rfl, hlt⟩ := (readUnsignedPart_eq_ok_iff hbound e s).1 hm
    exact ⟨hs, rfl, hlt⟩
  · rintro ⟨hs, rfl, hlt⟩
    exact ⟨_, (readUnsignedPart_eq_ok_iff hbound e s).2 ⟨hs, rfl, hlt⟩, rfl⟩

/-- **An integer is read exactly when the text writes it and it is in range.** -/
theorem readInt_eq_ok_iff {bound : Nat} (hbound : 0 < bound) {s : List Char} {n : Int} :
    readInt bound s = .ok n ↔ WritesInt s n ∧ -bound ≤ n ∧ n < bound := by
  fun_cases readInt bound s with
  | case1 => simp [not_writesInt_nil]
  | case2 s =>
    rw [map_readUnsignedPart_eq_ok_iff hbound, writesInt_plus_iff, and_assoc]
    refine and_congr_right fun _ => and_congr_right fun hn => ?_
    rw [hn, Int.ofNat_eq_natCast]
    omega
  | case3 s =>
    rw [map_readUnsignedPart_eq_ok_iff (by omega), writesInt_minus_iff, and_assoc]
    refine and_congr_right fun _ => and_congr_right fun hn => ?_
    rw [hn, Int.ofNat_eq_natCast]
    omega
  | case4 c s hplus hminus =>
    rw [map_readUnsignedPart_eq_ok_iff hbound, writesInt_cons_iff hplus hminus, and_assoc]
    refine and_congr_right fun _ => and_congr_right fun hn => ?_
    rw [hn, Int.ofNat_eq_natCast]
    omega

end SqlBridge.Numeral

namespace SqlBridge.Value

open Numeral

/-! ## The number that a value denotes -/

/-- The value is an integer, or a text that writes one. -/
inductive DenotesInt : Value → Int → Prop where
  | integer {v : Value} {n : Int} (h : v.integer? = some n) : DenotesInt v n
  | string {s : String} {n : Int} (h : WritesInt s.toList n) : DenotesInt (.string s) n
  | text {s : String} {n : Int} (h : WritesInt s.toList n) : DenotesInt (.text s) n

/-- A string denotes the number that it writes. -/
theorem denotesInt_string {s : String} {n : Int} :
    (Value.string s).DenotesInt n ↔ WritesInt s.toList n := by
  refine ⟨fun h => ?_, .string⟩
  cases h with
  | integer h => cases h
  | string h => exact h

/-- A text denotes the number that it writes. -/
theorem denotesInt_text {s : String} {n : Int} :
    (Value.text s).DenotesInt n ↔ WritesInt s.toList n := by
  refine ⟨fun h => ?_, .text⟩
  cases h with
  | integer h => cases h
  | text h => exact h

/-- Any other value denotes the number that it holds, if it holds one. -/
theorem denotesInt_of_not_text {v : Value} (hstring : ∀ s, v ≠ .string s)
    (htext : ∀ s, v ≠ .text s) {n : Int} : v.DenotesInt n ↔ v.integer? = some n := by
  refine ⟨fun h => ?_, .integer⟩
  cases h with
  | integer h => exact h
  | string => exact absurd rfl (hstring _)
  | text => exact absurd rfl (htext _)

/-- A value denotes one number at most. -/
theorem DenotesInt.unique {v : Value} {m n : Int} (hm : v.DenotesInt m) (hn : v.DenotesInt n) :
    m = n := by
  cases hm with
  | string h => exact h.unique (denotesInt_string.1 hn)
  | text h => exact h.unique (denotesInt_text.1 hn)
  | integer h =>
    cases hn with
    | integer h' => exact Option.some.inj (h.symm.trans h')
    | string => cases h
    | text => cases h

/-! ## The signed reading -/

/-- The number in 64 bits, if it fits. -/
def signed? (n : Int) : Option Int64 :=
  if -0x8000000000000000 ≤ n ∧ n < 0x8000000000000000 then some (Int64.ofInt n) else none

/-- A number fits 64 bits with a sign exactly if it is the number of such a word. -/
theorem signed?_eq_some_iff {n : Int} {i : Int64} : signed? n = some i ↔ n = i.toInt := by
  have hlow := i.le_toInt
  have hhigh := i.toInt_lt
  rw [signed?]
  constructor
  · intro h
    split at h
    · next hn =>
      rw [← Option.some.inj h, Int64.toInt_ofInt_of_le (by omega) (by omega)]
    · cases h
  · rintro rfl
    rw [if_pos (by omega), Int64.ofInt_toInt]

/-- The signed reading of a text. -/
def signedText? (s : String) : Option Int64 :=
  match readInt 0x8000000000000000 s.toList with
  | .ok n => signed? n
  | .error _ => none

/-- A text is read as a word of 64 bits with a sign exactly if it writes the number of that word. -/
theorem signedText?_eq_some_iff {s : String} {i : Int64} :
    signedText? s = some i ↔ WritesInt s.toList i.toInt := by
  have hlow := i.le_toInt
  have hhigh := i.toInt_lt
  have hread : ∀ n, readInt 0x8000000000000000 s.toList = .ok n ↔
      WritesInt s.toList n ∧ -0x8000000000000000 ≤ n ∧ n < 0x8000000000000000 := fun n =>
    readInt_eq_ok_iff (by decide)
  rw [signedText?]
  split
  · next n h =>
    have hn := ((hread n).1 h).1
    rw [signed?_eq_some_iff]
    exact ⟨fun he => he ▸ hn, hn.unique⟩
  · next e h =>
    refine ⟨fun hnone => (nomatch hnone), fun hw => ?_⟩
    have hok := (hread i.toInt).2 ⟨hw, by omega, by omega⟩
    rw [h] at hok
    cases hok

/-- A string is read by what it writes. -/
theorem toInt64?_string (s : String) : (Value.string s).toInt64? = signedText? s := rfl

/-- A text is read by what it writes. -/
theorem toInt64?_text (s : String) : (Value.text s).toInt64? = signedText? s := rfl

/-- Any other value is read by the number that it holds, if that fits. -/
theorem toInt64?_of_not_text {v : Value} (hstring : ∀ s, v ≠ .string s) (htext : ∀ s, v ≠ .text s) :
    v.toInt64? = v.integer?.bind signed? := by
  cases v <;> first | rfl | exact absurd rfl (hstring _) | exact absurd rfl (htext _)

/-- **The signed reading gives the number that is denoted**, if it fits. -/
theorem toInt64?_eq_some_iff {v : Value} {i : Int64} :
    v.toInt64? = some i ↔ v.DenotesInt i.toInt := by
  by_cases hstring : ∃ s, v = .string s
  · obtain ⟨s, rfl⟩ := hstring
    rw [toInt64?_string, signedText?_eq_some_iff, denotesInt_string]
  by_cases htext : ∃ s, v = .text s
  · obtain ⟨s, rfl⟩ := htext
    rw [toInt64?_text, signedText?_eq_some_iff, denotesInt_text]
  rw [not_exists] at hstring htext
  rw [toInt64?_of_not_text hstring htext, denotesInt_of_not_text hstring htext,
    Option.bind_eq_some_iff]
  exact ⟨fun ⟨n, hn, hi⟩ => signed?_eq_some_iff.1 hi ▸ hn,
    fun h => ⟨_, h, signed?_eq_some_iff.2 rfl⟩⟩

/-! ## The unsigned reading -/

/-- Only an unsigned integer of the widest kind goes beyond the signed range. -/
theorem integer?_lt {v : Value} (hwide : ∀ u, v ≠ .unsignedBigInt u) {n : Int}
    (h : v.integer? = some n) : n < 0x8000000000000000 := by
  cases v <;> simp only [integer?, Option.some.injEq, reduceCtorEq] at h <;> subst h
  case tinyInt n => have := n.toInt_lt; omega
  case smallInt n => have := n.toInt_lt; omega
  case int n => have := n.toInt_lt; omega
  case bigInt n => have := n.toInt_lt; omega
  case unsignedTinyInt n => have := n.toNat_lt; omega
  case unsignedSmallInt n => have := n.toNat_lt; omega
  case unsignedInt n => have := n.toNat_lt; omega
  case unsignedBigInt n => exact absurd rfl (hwide n)

/-- The signed number as an unsigned one, if it is none below zero. -/
def unsigned? (i : Int64) : Option UInt64 :=
  if 0 ≤ i.toInt then some (UInt64.ofNat i.toInt.toNat) else none

/-- A word with a sign has a counterpart without one exactly if both have the same number. -/
theorem unsigned?_eq_some_iff {i : Int64} {u : UInt64} :
    unsigned? i = some u ↔ i.toInt = u.toNat := by
  have hhigh := i.toInt_lt
  rw [unsigned?]
  constructor
  · intro h
    split at h
    · next hn =>
      rw [← Option.some.inj h, UInt64.toNat_ofNat_of_lt' (by rw [UInt64.size]; omega)]
      omega
    · cases h
  · intro h
    rw [if_pos (by omega), h, Int.toNat_natCast, UInt64.ofNat_toNat]

/-- Every value but the widest unsigned integer is read with a sign first. -/
theorem toUInt64?_of_narrow {v : Value} (hwide : ∀ u, v ≠ .unsignedBigInt u) :
    v.toUInt64? = v.toInt64?.bind unsigned? := by
  unfold toUInt64?
  split
  · exact absurd rfl (hwide _)
  · rfl

/-- **The unsigned reading gives the number that is denoted**, if it fits and a text stays in the
signed range. -/
theorem toUInt64?_eq_some_iff {v : Value} {u : UInt64} :
    v.toUInt64? = some u ↔
      v.DenotesInt u.toNat ∧ (v.integer?.isSome ∨ (u.toNat : Int) < 0x8000000000000000) := by
  by_cases hwide : ∃ k, v = .unsignedBigInt k
  · obtain ⟨k, rfl⟩ := hwide
    rw [denotesInt_of_not_text (by simp) (by simp)]
    simp only [toUInt64?, integer?, Option.some.injEq, Option.isSome_some, true_or, and_true]
    rw [Int.ofNat_inj, UInt64.toNat_inj]
  rw [not_exists] at hwide
  rw [toUInt64?_of_narrow hwide, Option.bind_eq_some_iff]
  constructor
  · rintro ⟨i, hi, hu⟩
    have hhigh := i.toInt_lt
    have hnumber := unsigned?_eq_some_iff.1 hu
    rw [toInt64?_eq_some_iff, hnumber] at hi
    exact ⟨hi, .inr (by omega)⟩
  · rintro ⟨hd, hrange⟩
    have hlt : (u.toNat : Int) < 0x8000000000000000 := by
      rcases hrange with hsome | hlt
      · cases hd with
        | integer h => exact integer?_lt hwide h
        | string => cases hsome
        | text => cases hsome
      · exact hlt
    have hi : (Int64.ofInt u.toNat).toInt = u.toNat :=
      Int64.toInt_ofInt_of_le (by omega) (by omega)
    exact ⟨_, toInt64?_eq_some_iff.2 (hi.symm ▸ hd), unsigned?_eq_some_iff.2 hi⟩

/-- A text that writes a number beyond the signed range is not read as an unsigned one. -/
theorem toUInt64?_of_text {v : Value} {n : Int} (hd : v.DenotesInt n) (htext : v.integer? = none)
    (hn : 0x8000000000000000 ≤ n) : v.toUInt64? = none := by
  rw [Option.eq_none_iff_forall_ne_some]
  intro u hu
  obtain ⟨hu, hrange⟩ := toUInt64?_eq_some_iff.1 hu
  have hnumber := hd.unique hu
  rw [htext] at hrange
  simp at hrange
  omega

/-! ## Both readings -/

/-- A reading that gives the one number there is gives it when something has it. -/
theorem map_eq_ite {α : Type} {reading : Option α} {number : α → Int} {n : Int}
    (h : ∀ a, reading = some a ↔ number a = n) {P : Prop} [Decidable P]
    (hP : P ↔ ∃ a, number a = n) : reading.map number = if P then some n else none := by
  by_cases hp : P
  · obtain ⟨a, ha⟩ := hP.1 hp
    rw [if_pos hp, (h a).2 ha, Option.map_some, ha]
  · have hnone : reading = none :=
      Option.eq_none_iff_forall_ne_some.2 fun a ha => hp (hP.2 ⟨a, (h a).1 ha⟩)
    rw [if_neg hp, hnone, Option.map_none]

section
variable {v w : Value} {n : Int}

/-- A value that denotes a number is read with a sign exactly as the word of that number. -/
theorem DenotesInt.toInt64?_eq_some_iff (hv : v.DenotesInt n) (i : Int64) :
    v.toInt64? = some i ↔ i.toInt = n := by
  rw [Value.toInt64?_eq_some_iff]
  exact ⟨fun h => h.unique hv, fun h => h ▸ hv⟩

/-- A value that denotes a number is read without a sign exactly as the word of that number, unless
it is a text that writes one of the numbers beyond those with a sign. -/
theorem DenotesInt.toUInt64?_eq_some_iff (hv : v.DenotesInt n)
    (hn : v.integer?.isSome ∨ n < 0x8000000000000000 ∨ 0x10000000000000000 ≤ n) (u : UInt64) :
    v.toUInt64? = some u ↔ (u.toNat : Int) = n := by
  have hlt := u.toNat_lt
  rw [Value.toUInt64?_eq_some_iff]
  constructor
  · exact fun h => h.1.unique hv
  · rintro rfl
    exact ⟨hv, hn.imp_right fun hn => by omega⟩

/-- The signed reading of a number that is denoted. -/
theorem DenotesInt.map_toInt64? (hv : v.DenotesInt n) :
    v.toInt64?.map Int64.toInt =
      if -0x8000000000000000 ≤ n ∧ n < 0x8000000000000000 then some n else none := by
  refine map_eq_ite hv.toInt64?_eq_some_iff ⟨fun h => ?_, ?_⟩
  · exact ⟨Int64.ofInt n, Int64.toInt_ofInt_of_le (by omega) (by omega)⟩
  · rintro ⟨i, rfl⟩
    have hlow := i.le_toInt
    have hhigh := i.toInt_lt
    omega

/-- The unsigned reading of a number that is denoted. -/
theorem DenotesInt.map_toUInt64? (hv : v.DenotesInt n)
    (hn : v.integer?.isSome ∨ n < 0x8000000000000000 ∨ 0x10000000000000000 ≤ n) :
    v.toUInt64?.map (fun u => (u.toNat : Int)) =
      if 0 ≤ n ∧ n < 0x10000000000000000 then some n else none := by
  refine map_eq_ite (hv.toUInt64?_eq_some_iff hn) ⟨fun h => ?_, ?_⟩
  · refine ⟨UInt64.ofNat n.toNat, ?_⟩
    rw [UInt64.toNat_ofNat_of_lt' (by rw [UInt64.size]; omega)]
    omega
  · rintro ⟨u, rfl⟩
    have hlt := u.toNat_lt
    omega

/-- Values that denote one number are read alike. -/
theorem DenotesInt.readings_eq (hv : v.DenotesInt n) (hw : w.DenotesInt n) :
    v.toInt64? = w.toInt64? ∧
      (n < 0x8000000000000000 ∨ 0x10000000000000000 ≤ n → v.toUInt64? = w.toUInt64?) := by
  refine ⟨Option.ext fun i => ?_, fun hn => Option.ext fun u => ?_⟩
  · rw [hv.toInt64?_eq_some_iff, hw.toInt64?_eq_some_iff]
  · rw [hv.toUInt64?_eq_some_iff (.inr hn), hw.toUInt64?_eq_some_iff (.inr hn)]

end

/-- **Numbers are read exactly when they fit.** It does not matter whether a number came as an
integer or as a text, not for a generated id either, and what denotes no number is not read as one.
Only the texts of numbers beyond the signed range are not read as unsigned ones. -/
theorem integers_read (v : Value) :
    (∀ n, v.DenotesInt n →
      v.toInt64?.map Int64.toInt =
          (if -0x8000000000000000 ≤ n ∧ n < 0x8000000000000000 then some n else none) ∧
        (v.integer?.isSome ∨ n < 0x8000000000000000 ∨ 0x10000000000000000 ≤ n →
          v.toUInt64?.map (fun u => (u.toNat : Int)) =
            if 0 ≤ n ∧ n < 0x10000000000000000 then some n else none) ∧
        ∀ w : Value, w.DenotesInt n → v.toInt64? = w.toInt64? ∧
          (n < 0x8000000000000000 ∨ 0x10000000000000000 ≤ n → v.toUInt64? = w.toUInt64? ∧
            ∀ t u : Table, t.value? 0 Table.insertIdColumn = some v →
              u.value? 0 Table.insertIdColumn = some w → t.lastInsertId = u.lastInsertId)) ∧
    ((∀ n, ¬v.DenotesInt n) → v.toInt64? = none ∧ v.toUInt64? = none) := by
  refine ⟨fun n hv => ⟨hv.map_toInt64?, hv.map_toUInt64?, fun w hw => ?_⟩, fun hv => ⟨?_, ?_⟩⟩
  · obtain ⟨hsigned, hunsigned⟩ := hv.readings_eq hw
    refine ⟨hsigned, fun hn => ⟨hunsigned hn, fun t u ht hu => ?_⟩⟩
    rw [Table.lastInsertId, Table.lastInsertId, ht, hu]
    exact hunsigned hn
  · exact Option.eq_none_iff_forall_ne_some.2 fun i hi => hv _ (toInt64?_eq_some_iff.1 hi)
  · exact Option.eq_none_iff_forall_ne_some.2 fun u hu => hv _ (toUInt64?_eq_some_iff.1 hu).1

/-- The id of an insertion as an integer and as a text with a sign and leading zeros, the largest
integer there is, and a text just below the signed range. -/
theorem integers_read_id :
    (Table.mk [⟨Table.insertIdColumn, [.unsignedBigInt 42]⟩]).lastInsertId =
        (Table.mk [⟨Table.insertIdColumn, [.string "+0042"]⟩]).lastInsertId ∧
      (Value.unsignedBigInt 0xFFFFFFFFFFFFFFFF).toUInt64?.map (fun u => (u.toNat : Int)) =
        some 0xFFFFFFFFFFFFFFFF ∧
      (Value.text "-9223372036854775809").toInt64?.map Int64.toInt = none ∧
      (Value.bool true).toInt64? = none := by
  have hplus : (Value.string "+0042").DenotesInt 42 :=
    .string (.plus (s := ['0', '0', '4', '2']) ⟨by decide, List.all_eq_true.1 (by decide)⟩)
  have hminus : (Value.text "-9223372036854775809").DenotesInt (-9223372036854775809) :=
    .text (.minus (s := "9223372036854775809".toList)
      ⟨by decide, List.all_eq_true.1 (by decide)⟩)
  have hlargest : (Value.unsignedBigInt 0xFFFFFFFFFFFFFFFF).DenotesInt 0xFFFFFFFFFFFFFFFF :=
    .integer rfl
  have hid := ((integers_read (.unsignedBigInt 42)).1 42 (.integer rfl)).2.2 _ hplus
  refine ⟨(hid.2 (.inl (by decide))).2 _ _ rfl rfl, ?_, ?_, ?_⟩
  · exact ((integers_read _).1 _ hlargest).2.1 (.inl rfl)
  · exact ((integers_read _).1 _ hminus).1
  · exact ((integers_read _).2 fun n h => by cases h with | integer h => cases h).1

/-- **An id beyond the signed range that comes as a text is not read.** -/
theorem not_map_toUInt64? :
    ¬∀ (v : Value) n, v.DenotesInt n → v.toUInt64?.map (fun u => (u.toNat : Int)) =
      if 0 ≤ n ∧ n < 0x10000000000000000 then some n else none := by
  intro h
  have hid : (Value.string "9223372036854775808").DenotesInt 0x8000000000000000 :=
    .string (.plain (s := "9223372036854775808".toList) ⟨by decide, List.all_eq_true.1 (by decide)⟩)
  have hnone := toUInt64?_of_text hid rfl (by decide)
  have hsome := h _ _ hid
  rw [hnone, if_pos (by decide)] at hsome
  cases hsome

end SqlBridge.Value
