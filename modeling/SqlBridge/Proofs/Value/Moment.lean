import Mathlib.Algebra.Group.Nat.Defs
import SqlBridge.Proofs.Decimal.Numeral

/-!
# Dates and times in the order of their texts

Days, times of day and moments become texts once they are values, and whoever sorts these compares
them character by character. The texts are made for that: the larger part of a date or a time stands
before the smaller one, and each takes as many digits as any other of its kind (`Numeral.Fills`).
Only the fraction of a second has texts of different lengths. It is cut into groups of three digits,
and the groups behind the last one that is not zero are left out (`ClockTime.groups`). So a text
that is the beginning of a longer one is also the smaller number.

The order of days and times is that of the calendar and the clock and knows nothing of texts: days
by year and number in the year, times by the seconds since midnight and the nanoseconds. A leap
second is a second second of 59. It is shown as 60, behind all others of its minute
(`ClockTime.compare_seconds`).

`Value.texts_chronological` says that the two orders are one. It is about years of four digits,
since the others have a sign in front.
-/

namespace SqlBridge

/-! ## Texts -/

namespace Text

/-- A text that compares as less is less. -/
theorem compare_eq_lt {a b : List Char} : compare a b = .lt ↔ a < b := by
  induction a generalizing b with
  | nil => cases b <;> simp
  | cons c a ih =>
    cases b with
    | nil => simp
    | cons d b =>
      have hchar : compare c d = .lt ↔ c < d := compareOfLessAndEq_eq_lt
      rw [List.compare_cons_cons, Ordering.then_eq_lt, ih, hchar, Std.compare_eq_iff_eq,
        List.cons_lt_cons_iff]

/-- Texts are compared character by character. -/
theorem compare_toList (s t : String) : compare s t = compare s.toList t.toList := by
  have hlt (s t : String) : s < t ↔ compare s.toList t.toList = .lt := compare_eq_lt.symm
  have hcompare : compare s t = compareOfLessAndEq s t := rfl
  rw [hcompare, compareOfLessAndEq]
  cases h : compare s.toList t.toList with
  | lt => rw [if_pos ((hlt s t).2 h)]
  | eq =>
    obtain rfl := String.toList_inj.1 (Std.compare_eq_iff_eq.1 h)
    rw [if_neg (fun h => String.lt_irrefl _ h), if_pos rfl]
  | gt =>
    have hne : s ≠ t := by
      rintro rfl
      rw [Std.compare_self] at h
      cases h
    rw [if_neg (by rw [hlt, h]; nofun), if_neg hne]

/-- What stands behind beginnings of one length decides only when these are the same. -/
theorem compare_append {a b : List Char} (h : a.length = b.length) (r s : List Char) :
    compare (a ++ r) (b ++ s) = (compare a b).then (compare r s) := by
  induction a generalizing b with
  | nil =>
    obtain rfl := List.eq_nil_of_length_eq_zero h.symm
    rfl
  | cons c a ih =>
    cases b with
    | nil => cases h
    | cons d b =>
      rw [List.cons_append, List.cons_append, List.compare_cons_cons, List.compare_cons_cons,
        ih (Nat.succ.inj h), Ordering.then_assoc]

/-- A separator decides nothing. -/
theorem compare_cons (c : Char) (a b : List Char) : compare (c :: a) (c :: b) = compare a b := by
  rw [List.compare_cons_cons, Std.compare_self]
  rfl

end Text

/-! ## Digits of a fixed number -/

namespace Numeral

open Text

/-- What is added on both sides decides nothing. -/
theorem compare_add_left (k m n : Nat) : compare (k + m) (k + n) = compare m n := by
  rcases Nat.lt_trichotomy m n with h | rfl | h
  · rw [Nat.compare_eq_lt.2 h, Nat.compare_eq_lt.2 (by omega)]
  · rw [Std.compare_self, Std.compare_self]
  · rw [Nat.compare_eq_gt.2 h, Nat.compare_eq_gt.2 (by omega)]

/-- Numbers in two parts are compared by the first and then by the second one. -/
theorem compare_mul_add {k x y : Nat} (hx : x < k) (hy : y < k) (m n : Nat) :
    compare (m * k + x) (n * k + y) = (compare m n).then (compare x y) := by
  rcases Nat.lt_trichotomy m n with h | rfl | h
  · have hle : (m + 1) * k ≤ n * k := Nat.mul_le_mul_right k h
    rw [Nat.succ_mul] at hle
    rw [Nat.compare_eq_lt.2 h]
    exact Nat.compare_eq_lt.2 (by omega)
  · rw [Std.compare_self, Ordering.eq_then, compare_add_left]
  · have hle : (n + 1) * k ≤ m * k := Nat.mul_le_mul_right k h
    rw [Nat.succ_mul] at hle
    rw [Nat.compare_eq_gt.2 h]
    exact Nat.compare_eq_gt.2 (by omega)

/-- Digits compare as their values. -/
theorem compare_digit {c d : Char} (hc : c.isDigit) (hd : d.isDigit) :
    compare c d = compare (c.toNat - 48) (d.toNat - 48) := by
  have hclow := (toNat_of_isDigit hc).1
  have hdlow := (toNat_of_isDigit hd).1
  have hlt {c d : Char} (h : c.toNat < d.toNat) : compare c d = .lt :=
    compareOfLessAndEq_eq_lt.2 h
  rcases Nat.lt_trichotomy c.toNat d.toNat with h | h | h
  · rw [hlt h, Nat.compare_eq_lt.2 (by omega)]
  · obtain rfl := Char.toNat_inj.1 h
    rw [Std.compare_self, Std.compare_self]
  · rw [Std.OrientedCmp.gt_iff_lt.2 (hlt h), Nat.compare_eq_gt.2 (by omega)]

/-- The text shows the number with this many digits. -/
structure Fills (width n : Nat) (s : List Char) : Prop where
  digits : ∀ c ∈ s, c.isDigit
  length_eq : s.length = width
  value_eq : Nat.ofDigitChars 10 s 0 = n

/-- The first digit counts by the number of digits behind it. -/
theorem ofDigitChars_cons_eq (c : Char) (s : List Char) :
    Nat.ofDigitChars 10 (c :: s) 0 =
      (c.toNat - 48) * 10 ^ s.length + Nat.ofDigitChars 10 s 0 := by
  rw [ofDigitChars_cons, Nat.ofDigitChars_eq_ofDigitChars_zero, Nat.zero_mul, Nat.zero_add,
    Nat.mul_comm]

/-- A number of so many digits stays below the power of ten with that exponent. -/
theorem ofDigitChars_lt {s : List Char} (hs : ∀ c ∈ s, c.isDigit) :
    Nat.ofDigitChars 10 s 0 < 10 ^ s.length := by
  induction s with
  | nil => exact Nat.one_pos
  | cons c s ih =>
    have hrange := toNat_of_isDigit (hs c List.mem_cons_self)
    have hrest := ih fun d hd => hs d (List.mem_cons_of_mem c hd)
    have hle : (c.toNat - 48) * 10 ^ s.length ≤ 9 * 10 ^ s.length :=
      Nat.mul_le_mul_right _ (by omega)
    rw [ofDigitChars_cons_eq, List.length_cons, Nat.pow_succ]
    omega

namespace Fills

variable {v w m n : Nat} {a b : List Char}

/-- **Digits of one number compare as the numbers that they show.** -/
theorem compare_eq (ha : Fills w m a) (hb : Fills w n b) : compare a b = compare m n := by
  induction a generalizing w m n b with
  | nil =>
    obtain ⟨-, rfl, rfl⟩ := ha
    obtain ⟨-, hlength, rfl⟩ := hb
    obtain rfl := List.eq_nil_of_length_eq_zero hlength
    rfl
  | cons c a ih =>
    obtain ⟨hda, rfl, rfl⟩ := ha
    obtain ⟨hdb, hlength, rfl⟩ := hb
    cases b with
    | nil => cases hlength
    | cons d b =>
      have hresta : ∀ e ∈ a, e.isDigit := fun e he => hda e (List.mem_cons_of_mem c he)
      have hrestb : ∀ e ∈ b, e.isDigit := fun e he => hdb e (List.mem_cons_of_mem d he)
      have hsame : b.length = a.length := Nat.succ.inj hlength
      have hlt := ofDigitChars_lt hrestb
      rw [hsame] at hlt
      rw [List.compare_cons_cons, ofDigitChars_cons_eq, ofDigitChars_cons_eq, hsame,
        compare_mul_add (ofDigitChars_lt hresta) hlt,
        compare_digit (hda c List.mem_cons_self) (hdb d List.mem_cons_self),
        ih ⟨hresta, rfl, rfl⟩ ⟨hrestb, hsame, rfl⟩]

/-- There is one way only to fill a field. -/
theorem unique (ha : Fills w n a) (hb : Fills w n b) : a = b := by
  have hcompare := ha.compare_eq hb
  rw [Std.compare_self] at hcompare
  exact Std.compare_eq_iff_eq.1 hcompare

/-- Digits behind digits fill the places of both. -/
theorem append (ha : Fills v m a) (hb : Fills w n b) : Fills (v + w) (m * 10 ^ w + n) (a ++ b) := by
  obtain ⟨hda, rfl, rfl⟩ := ha
  obtain ⟨hdb, rfl, rfl⟩ := hb
  refine ⟨fun c hc => (List.mem_append.1 hc).elim (hda c) (hdb c), List.length_append, ?_⟩
  rw [Nat.ofDigitChars_append, Nat.ofDigitChars_eq_ofDigitChars_zero, Nat.mul_comm]

end Fills

/-- Padding fills a field that is wide enough. -/
theorem fills_paddedChars {w n : Nat} (hw : 0 < w) (hn : n < 10 ^ w) :
    Fills w n (paddedChars w n) := by
  have hlength := (Nat.length_toDigits_le_iff (by decide) hw).2 hn
  refine ⟨(isDigits_zeros_append (isDigits_toDigits n) _).digits, ?_, ?_⟩
  · rw [paddedChars, List.length_append, List.length_replicate]
    omega
  · rw [paddedChars, Nat.ofDigitChars_append, Nat.ofDigitChars_replicate_zero, Nat.mul_zero,
      Nat.ofDigitChars_toDigits (by decide) (by decide)]

/-- Fields decide before what stands behind them. -/
theorem compare_paddedChars_append {w m n : Nat} (hw : 0 < w) (hm : m < 10 ^ w) (hn : n < 10 ^ w)
    (r s : List Char) :
    compare (paddedChars w m ++ r) (paddedChars w n ++ s) = (compare m n).then (compare r s) := by
  have ha := fills_paddedChars hw hm
  have hb := fills_paddedChars hw hn
  rw [compare_append (ha.length_eq.trans hb.length_eq.symm), ha.compare_eq hb]

/-- A field is two fields side by side. -/
theorem paddedChars_add {v w n : Nat} (hv : 0 < v) (hw : 0 < w) (hn : n < 10 ^ (v + w)) :
    paddedChars (v + w) n = paddedChars v (n / 10 ^ w) ++ paddedChars w (n % 10 ^ w) := by
  have hpos : 0 < 10 ^ w := Nat.pow_pos (by decide)
  have hhigh : n / 10 ^ w < 10 ^ v := Nat.div_lt_of_lt_mul (by rwa [Nat.mul_comm, ← Nat.pow_add])
  have hparts := (fills_paddedChars hv hhigh).append (fills_paddedChars hw (Nat.mod_lt n hpos))
  rw [Nat.div_add_mod'] at hparts
  exact (fills_paddedChars (by omega) hn).unique hparts

end Numeral

open Text Numeral

/-! ## Times of day -/

namespace ClockTime

/-- The number of full seconds since midnight. -/
def seconds (t : ClockTime) : Nat := (t.hour * 60 + t.minute) * 60 + t.second

/-- Times are in the order of their seconds, and within a second of their nanoseconds. A leap second
belongs to the second before it. -/
instance : Ord ClockTime where
  compare a b := (compare a.seconds b.seconds).then (compare a.nanos b.nanos)

/-- Times are compared by hour, minute, second and nanosecond. -/
theorem compare_eq (a b : ClockTime) : compare a b =
    (compare a.hour b.hour).then ((compare a.minute b.minute).then
      ((compare a.second b.second).then (compare a.nanos b.nanos))) := by
  have hparts : compare a b = (compare a.seconds b.seconds).then (compare a.nanos b.nanos) := rfl
  obtain ⟨-, haminute, hasecond, -⟩ := a.valid
  obtain ⟨-, hbminute, hbsecond, -⟩ := b.valid
  rw [hparts, seconds, seconds, compare_mul_add hasecond hbsecond,
    compare_mul_add haminute hbminute, Ordering.then_assoc, Ordering.then_assoc]

instance : Std.LawfulEqOrd ClockTime where
  compare_self := by simp [compare_eq, Std.compare_self]
  eq_of_compare {a b} h := by
    obtain ⟨hour, minute, second, nanos, hvalid⟩ := a
    obtain ⟨hour', minute', second', nanos', hvalid'⟩ := b
    simp only [compare_eq, Ordering.then_eq_eq, Std.compare_eq_iff_eq] at h
    obtain ⟨rfl, rfl, rfl, rfl⟩ := h
    rfl

/-- What is shown of a number, and nothing for zero. -/
theorem compare_ite_zero {m n : Nat} {a b : List Char} (ha : a ≠ []) (hb : b ≠ [])
    (h : m ≠ 0 → n ≠ 0 → compare a b = compare m n) :
    compare (if m = 0 then [] else a) (if n = 0 then [] else b) = compare m n := by
  obtain ⟨c, a, rfl⟩ := List.exists_cons_of_ne_nil ha
  obtain ⟨d, b, rfl⟩ := List.exists_cons_of_ne_nil hb
  by_cases hm : m = 0
  · by_cases hn : n = 0
    · rw [if_pos hm, if_pos hn, hm, hn]
      rfl
    · rw [if_pos hm, if_neg hn, Nat.compare_eq_lt.2 (by omega)]
      rfl
  · by_cases hn : n = 0
    · rw [if_neg hm, if_pos hn, Nat.compare_eq_gt.2 (by omega)]
      rfl
    · rw [if_neg hm, if_neg hn, h hm hn]

/-- So many groups of three digits, without the ones behind the last that is not zero. -/
def groups : Nat → Nat → List Char
  | 0, _ => []
  | k + 1, n => if n = 0 then [] else paddedChars 3 (n / 1000 ^ k) ++ groups k (n % 1000 ^ k)

/-- Zero has no groups. -/
theorem groups_zero (k : Nat) : groups k 0 = [] := by cases k <;> rfl

/-- The first group is the quotient, and the remainder has the rest. -/
theorem groups_succ {n : Nat} (hn : n ≠ 0) (k : Nat) :
    groups (k + 1) n = paddedChars 3 (n / 1000 ^ k) ++ groups k (n % 1000 ^ k) := if_neg hn

/-- **Groups of digits compare as the fractions that they show**, although some are left out. -/
theorem compare_groups {k m n : Nat} (hm : m < 1000 ^ k) (hn : n < 1000 ^ k) :
    compare (groups k m) (groups k n) = compare m n := by
  induction k generalizing m n with
  | zero =>
    obtain rfl : m = n := by omega
    rw [Std.compare_self, Std.compare_self]
  | succ k ih =>
    have hpos : 0 < 1000 ^ k := Nat.pow_pos (by decide)
    have hfirst {n : Nat} (hn : n < 1000 ^ (k + 1)) : n / 1000 ^ k < 10 ^ 3 :=
      Nat.div_lt_of_lt_mul (by rwa [Nat.pow_succ] at hn)
    have hne {n : Nat} (hn : n < 1000 ^ (k + 1)) :
        paddedChars 3 (n / 1000 ^ k) ++ groups k (n % 1000 ^ k) ≠ [] := by
      intro hnil
      have hlength := (fills_paddedChars (by decide) (hfirst hn)).length_eq
      rw [(List.append_eq_nil_iff.1 hnil).1] at hlength
      cases hlength
    refine compare_ite_zero (hne hm) (hne hn) fun _ _ => ?_
    rw [compare_paddedChars_append (by decide) (hfirst hm) (hfirst hn),
      ih (Nat.mod_lt m hpos) (Nat.mod_lt n hpos),
      ← compare_mul_add (Nat.mod_lt m hpos) (Nat.mod_lt n hpos), Nat.div_add_mod',
      Nat.div_add_mod']

/-- A fraction is shown as a point and its groups of digits. -/
theorem fractionChars_eq {n : Nat} (hn : n < 1000000000) :
    fractionChars n = if n = 0 then [] else '.' :: groups 3 n := by
  have hsix {n : Nat} (hn : n < 1000000) :
      paddedChars 6 n = paddedChars 3 (n / 1000) ++ paddedChars 3 (n % 1000) :=
    paddedChars_add (v := 3) (w := 3) (by decide) (by decide) hn
  have hnine : paddedChars 9 n = paddedChars 3 (n / 1000000) ++ paddedChars 6 (n % 1000000) :=
    paddedChars_add (v := 3) (w := 6) (by decide) (by decide) hn
  rw [fractionChars]
  by_cases hzero : n = 0
  · rw [if_pos hzero, if_pos hzero]
  rw [if_neg hzero, if_neg hzero, groups_succ hzero]
  by_cases hmilli : n % 1000000 = 0
  · rw [if_pos hmilli]
    simp [hmilli, groups_zero]
  rw [if_neg hmilli]
  have hrest : n % 1000 ^ 2 ≠ 0 := hmilli
  rw [groups_succ hrest]
  by_cases hmicro : n % 1000 = 0
  · rw [if_pos hmicro]
    have hlast : n % 1000 ^ 2 % 1000 ^ 1 = 0 := by omega
    rw [hlast, groups_zero, hsix (by omega)]
    have h₁ : n / 1000 / 1000 = n / 1000 ^ 2 := by omega
    have h₂ : n / 1000 % 1000 = n % 1000 ^ 2 / 1000 ^ 1 := by omega
    rw [h₁, h₂, List.append_nil]
  rw [if_neg hmicro]
  have hlast : n % 1000 ^ 2 % 1000 ^ 1 ≠ 0 := by omega
  rw [groups_succ hlast, hnine, hsix (by omega)]
  have h₁ : n / 1000 ^ 2 = n / 1000000 := by omega
  have h₂ : n % 1000 ^ 2 / 1000 ^ 1 = n % 1000000 / 1000 := by omega
  have h₃ : n % 1000 ^ 2 % 1000 ^ 1 / 1000 ^ 0 = n % 1000000 % 1000 := by omega
  rw [h₁, h₂, h₃, groups, List.append_nil]

/-- Fractions are compared as numbers of nanoseconds, although their texts differ in length. -/
theorem compare_fractionChars {m n : Nat} (hm : m < 1000000000) (hn : n < 1000000000) :
    compare (fractionChars m) (fractionChars n) = compare m n := by
  rw [fractionChars_eq hm, fractionChars_eq hn]
  refine compare_ite_zero (by simp) (by simp) fun _ _ => ?_
  rw [compare_cons, compare_groups hm hn]

/-- A leap second is shown as the second behind all others of its minute. -/
theorem compare_seconds {s t m n : Nat} (hs : s < 60) (hm : 1000000000 ≤ m → s = 59) (ht : t < 60)
    (hn : 1000000000 ≤ n → t = 59) :
    (compare (s + m / 1000000000) (t + n / 1000000000)).then
        (compare (m % 1000000000) (n % 1000000000)) =
      (compare s t).then (compare m n) := by
  have hshown (s m : Nat) :
      (s + m / 1000000000) * 1000000000 + m % 1000000000 = s * 1000000000 + m := by omega
  rw [← compare_mul_add (Nat.mod_lt m (by decide)) (Nat.mod_lt n (by decide)), hshown, hshown]
  -- only the last second of a minute is longer than a second
  rcases Nat.lt_trichotomy s t with h | rfl | h
  · rw [Nat.compare_eq_lt.2 h]
    exact Nat.compare_eq_lt.2 (by omega)
  · rw [Std.compare_self, Ordering.eq_then, compare_add_left]
  · rw [Nat.compare_eq_gt.2 h]
    exact Nat.compare_eq_gt.2 (by omega)

/-- **The texts of times compare as the times.** -/
theorem compare_chars (a b : ClockTime) : compare a.chars b.chars = compare a b := by
  obtain ⟨hahour, haminute, hasecond, hananos, haleap⟩ := a.valid
  obtain ⟨hbhour, hbminute, hbsecond, hbnanos, hbleap⟩ := b.valid
  rw [chars, chars,
    compare_paddedChars_append (by decide) (by omega) (by omega), compare_cons,
    compare_paddedChars_append (by decide) (by omega) (by omega), compare_cons,
    compare_paddedChars_append (by decide) (by omega) (by omega),
    compare_fractionChars (Nat.mod_lt _ (by decide)) (Nat.mod_lt _ (by decide)),
    compare_seconds hasecond haleap hbsecond hbleap, compare_eq]

end ClockTime

/-! ## Days -/

namespace Date

/-- The number of days in the first months of a year. -/
def daysBefore (year : Int) : Nat → Nat
  | 0 => 0
  | k + 1 => daysBefore year k + daysInMonth year (k + 1)

/-- The number of the day in its year. -/
def ordinal (d : Date) : Nat := daysBefore d.year (d.month - 1) + d.day

/-- Days are in the order of their years, and within a year of their numbers. -/
instance : Ord Date where
  compare a b := (compare a.year b.year).then (compare a.ordinal b.ordinal)

/-- A later month has no fewer days before it. -/
theorem daysBefore_mono (year : Int) {j k : Nat} (h : j ≤ k) :
    daysBefore year j ≤ daysBefore year k := by
  induction h with
  | refl => exact Nat.le_refl _
  | step _ ih => exact Nat.le_trans ih (Nat.le_add_right _ _)

/-- A day of an earlier month has a smaller number. -/
theorem ordinal_lt {a b : Date} (hyear : a.year = b.year) (hmonth : a.month < b.month) :
    a.ordinal < b.ordinal := by
  obtain ⟨-, -, hapos, -, -, haday⟩ := a.valid
  obtain ⟨-, -, -, -, hbday, -⟩ := b.valid
  have hfull : daysBefore a.year (a.month - 1) + daysInMonth a.year a.month =
      daysBefore a.year a.month := by
    obtain ⟨k, hk⟩ := Nat.exists_eq_add_of_le' hapos
    rw [hk]
    rfl
  have hmono := daysBefore_mono b.year (Nat.le_sub_one_of_lt hmonth)
  rw [← hyear] at hmono
  rw [ordinal, ordinal, ← hyear]
  omega

/-- Days are compared by year, month and day of the month. -/
theorem compare_eq (a b : Date) : compare a b =
    (compare a.year b.year).then ((compare a.month b.month).then (compare a.day b.day)) := by
  have hparts : compare a b = (compare a.year b.year).then (compare a.ordinal b.ordinal) := rfl
  rw [hparts]
  cases hyear : compare a.year b.year with
  | lt => rfl
  | gt => rfl
  | eq =>
    have hyear := Std.compare_eq_iff_eq.1 hyear
    rw [Ordering.eq_then, Ordering.eq_then]
    rcases Nat.lt_trichotomy a.month b.month with h | h | h
    · rw [Nat.compare_eq_lt.2 h, Nat.compare_eq_lt.2 (ordinal_lt hyear h)]
      rfl
    · rw [ordinal, ordinal, hyear, h, Numeral.compare_add_left, Std.compare_self, Ordering.eq_then]
    · rw [Nat.compare_eq_gt.2 h, Nat.compare_eq_gt.2 (ordinal_lt hyear.symm h)]
      rfl

instance : Std.LawfulEqOrd Date where
  compare_self := by simp [compare_eq, Std.compare_self]
  eq_of_compare {a b} h := by
    obtain ⟨year, month, day, hvalid⟩ := a
    obtain ⟨year', month', day', hvalid'⟩ := b
    simp only [compare_eq, Ordering.then_eq_eq, Std.compare_eq_iff_eq] at h
    obtain ⟨rfl, rfl, rfl⟩ := h
    rfl

/-- The year is written with four digits and nothing else. -/
def HasFourDigits (d : Date) : Prop := 0 ≤ d.year ∧ d.year ≤ 9999

/-- A year of four digits has no sign, and a date has two separators. -/
theorem HasFourDigits.chars_eq {d : Date} (h : d.HasFourDigits) :
    d.chars = paddedChars 4 d.year.toNat ++
      '-' :: (paddedChars 2 d.month ++ '-' :: paddedChars 2 d.day) := by
  have hyear : yearChars d.year = paddedChars 4 d.year.toNat := if_pos h
  rw [chars, hyear]

/-- A month has at most 31 days. -/
theorem bounds (d : Date) : d.month < 100 ∧ d.day < 100 := by
  obtain ⟨-, -, -, hmonth, -, hday⟩ := d.valid
  have hdays : daysInMonth d.year d.month ≤ 31 := by
    unfold daysInMonth
    split
    · split <;> decide
    · split <;> decide
  omega

/-- Dates with years of four digits are all of the same length. -/
theorem HasFourDigits.length_chars {d : Date} (h : d.HasFourDigits) : d.chars.length = 10 := by
  obtain ⟨hmonth, hday⟩ := d.bounds
  have hyear := (fills_paddedChars (w := 4) (n := d.year.toNat) (by decide)
    (by have := h.2; omega)).length_eq
  have hmonth := (fills_paddedChars (w := 2) (by decide) hmonth).length_eq
  have hday := (fills_paddedChars (w := 2) (by decide) hday).length_eq
  simp [h.chars_eq, hyear, hmonth, hday]

/-- Years that are not negative are compared as natural numbers. -/
theorem compare_toNat {m n : Int} (hm : 0 ≤ m) (hn : 0 ≤ n) :
    compare m.toNat n.toNat = compare m n := by
  rcases Int.lt_trichotomy m n with h | rfl | h
  · rw [Int.compare_eq_lt.2 h, Nat.compare_eq_lt.2 (by omega)]
  · rw [Std.compare_self, Std.compare_self]
  · rw [Int.compare_eq_gt.2 h, Nat.compare_eq_gt.2 (by omega)]

/-- **The texts of days compare as the days.** -/
theorem HasFourDigits.compare_chars {a b : Date} (ha : a.HasFourDigits) (hb : b.HasFourDigits) :
    compare a.chars b.chars = compare a b := by
  obtain ⟨hamonth, haday⟩ := a.bounds
  obtain ⟨hbmonth, hbday⟩ := b.bounds
  have hayear := ha.2
  have hbyear := hb.2
  have hdays := (fills_paddedChars (w := 2) (by decide) haday).compare_eq
    (fills_paddedChars (w := 2) (by decide) hbday)
  rw [ha.chars_eq, hb.chars_eq,
    compare_paddedChars_append (by decide) (by omega) (by omega), compare_cons,
    compare_paddedChars_append (by decide) hamonth hbmonth, compare_cons, hdays,
    compare_toNat ha.1 hb.1, compare_eq]

end Date

/-! ## Moments -/

namespace DateTime

/-- Moments are compared by day and time. -/
instance : Ord DateTime where
  compare a b := (compare a.date b.date).then (compare a.time b.time)

/-- The date decides first, and between two moments of one day the time. -/
theorem compare_eq (a b : DateTime) :
    compare a b = (compare a.date b.date).then (compare a.time b.time) := rfl

instance : Std.LawfulEqOrd DateTime where
  compare_self := by simp [compare_eq, Std.compare_self]
  eq_of_compare {a b} h := by
    obtain ⟨date, time⟩ := a
    obtain ⟨date', time'⟩ := b
    simp only [compare_eq, Ordering.then_eq_eq, Std.compare_eq_iff_eq] at h
    obtain ⟨rfl, rfl⟩ := h
    rfl

/-- The text of a moment is the date, a space and the time. -/
theorem toList_text (m : DateTime) : m.text.toList = m.date.chars ++ ' ' :: m.time.chars := by
  simp [text, Date.text, ClockTime.text]

/-- **The texts of moments compare as the moments.** -/
theorem compare_text {a b : DateTime} (ha : a.date.HasFourDigits) (hb : b.date.HasFourDigits) :
    compare a.text.toList b.text.toList = compare a b := by
  rw [toList_text, toList_text, compare_append (ha.length_chars.trans hb.length_chars.symm),
    ha.compare_chars hb, compare_cons, ClockTime.compare_chars, compare_eq]

end DateTime

/-! ## Values -/

namespace Value

/-- The values of two things are texts of one kind. These compare as the two things do, and they are
the same only if the things are. -/
def KeepsOrder {α : Type} [Ord α] (kind : String → Value) (value : α → Value) (a b : α) : Prop :=
  ∃ s t : String, value a = kind s ∧ value b = kind t ∧ compare s t = compare a b ∧ (s = t ↔ a = b)

/-- An order of the texts' characters that is the order of what they show is one of the values
too. -/
theorem keepsOrder_of_compare {α : Type} [Ord α] [Std.LawfulEqOrd α] (kind : String → Value)
    (text : α → String) {a b : α} (h : compare (text a).toList (text b).toList = compare a b) :
    KeepsOrder kind (fun a => kind (text a)) a b := by
  refine ⟨text a, text b, rfl, rfl, (compare_toList _ _).trans h, ?_⟩
  rw [← Std.compare_eq_iff_eq (a := a), ← h, Std.compare_eq_iff_eq, String.toList_inj]

/-- **Texts in the order of time.** The values of two days, of two times of day and of two moments
hold texts that compare, character by character, as the days, times and moments do, leap seconds
included; the years of days and moments lie between 0 and 9999. The text of a moment is that of its
day, a space and that of its time. -/
theorem texts_chronological :
    (∀ a b : Date, a.HasFourDigits → b.HasFourDigits → KeepsOrder .date ofDate a b) ∧
      (∀ a b : ClockTime, KeepsOrder .time ofClockTime a b) ∧
      (∀ a b : DateTime, a.date.HasFourDigits → b.date.HasFourDigits →
        KeepsOrder .dateTime ofDateTime a b) ∧
      ∀ m : DateTime, ∃ d t, ofDate m.date = .date d ∧ ofClockTime m.time = .time t ∧
        ofDateTime m = .dateTime (d ++ " " ++ t) := by
  refine ⟨fun a b ha hb => ?_, fun a b => ?_, fun a b ha hb => ?_, fun m => ⟨_, _, rfl, rfl, rfl⟩⟩
  · refine keepsOrder_of_compare .date Date.text ?_
    rw [Date.text, Date.text, String.toList_ofList, String.toList_ofList, ha.compare_chars hb]
  · refine keepsOrder_of_compare .time ClockTime.text ?_
    rw [ClockTime.text, ClockTime.text, String.toList_ofList, String.toList_ofList,
      ClockTime.compare_chars]
  · exact keepsOrder_of_compare .dateTime DateTime.text (DateTime.compare_text ha hb)

/-- Within the leap second at the end of 2016. -/
def leapSecond : DateTime := ⟨⟨2016, 12, 31, by decide⟩, ⟨23, 59, 59, 1500000000, by decide⟩⟩

/-- The first second of 2017. -/
def newYear : DateTime := ⟨⟨2017, 1, 1, by decide⟩, ⟨0, 0, 0, 0, by decide⟩⟩

/-- A leap second at the end of a year comes before the first second of the next one, as a text
too. -/
theorem texts_chronological_leapSecond :
    leapSecond.date.HasFourDigits ∧ newYear.date.HasFourDigits ∧
      ofDateTime leapSecond = .dateTime "2016-12-31 23:59:60.500" ∧
      ofDateTime newYear = .dateTime "2017-01-01 00:00:00" ∧
      KeepsOrder .dateTime ofDateTime leapSecond newYear ∧ compare leapSecond newYear = .lt := by
  have hleap : leapSecond.date.HasFourDigits := ⟨by decide, by decide⟩
  have hnew : newYear.date.HasFourDigits := ⟨by decide, by decide⟩
  exact ⟨hleap, hnew, congrArg Value.dateTime (by decide +kernel),
    congrArg Value.dateTime (by decide +kernel), texts_chronological.2.2.1 _ _ hleap hnew,
    by decide⟩

/-- Behind the year 9999 the sign decides. -/
example :
    compare (Date.text ⟨10000, 1, 1, by decide⟩) (Date.text ⟨9999, 12, 31, by decide⟩) = .lt := by
  decide +kernel

end Value

end SqlBridge
