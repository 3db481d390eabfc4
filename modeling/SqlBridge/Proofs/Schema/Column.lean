import Mathlib.Data.List.DropRight
import SqlBridge.Proofs.Setters
import SqlBridge.Proofs.Sql.Escape
import SqlBridge.Schema.Column

/-!
# What setters make of a column

The options of a column are made by a row of setters, each of which may refuse.
`ColumnOptions.build_eq` says what a row leaves: the first setter that asks for what no column can
have is refused, and without one all of them are applied. Of the setters for one part the last one
counts, so the definition of the column can be told from the setters alone
(`ColumnSetter.definition`).

A definition goes into a statement as it is, and a semicolon outside of quotes would end that one.
`ColumnSetter.inDefault_of_semicolon` shows that the only semicolons of a definition are those of a
text that was given as the default, and that they stand within the literal, where the text has them
(`ColumnSetter.InDefault`). The name must bring neither a quote nor a semicolon of its own.

The main statement is `ColumnOptions.build_definition`.
-/

namespace SqlBridge

open Sql

/-! ## Semicolons -/

/-- The character is neither a quote nor a semicolon. -/
def isInert (c : Char) : Bool := (QuoteMark.ofChar? c).isNone && c != ';'

/-- The text holds neither quotes nor semicolons. -/
def IsInert (s : List Char) : Prop := s.all isInert

instance (s : List Char) : Decidable (IsInert s) := inferInstanceAs (Decidable (_ = true))

/-- Digits are inert. -/
theorem isInert_of_isDigit {c : Char} (hc : c.isDigit) : isInert c := by
  have hsemi : c ≠ ';' := by
    rintro rfl
    cases hc
  simp [isInert, (Numeral.isDigit_ordinary hc).2.1, hsemi]

namespace IsInert

variable {a b : List Char}

/-- Inert texts put together are inert. -/
theorem append (ha : IsInert a) (hb : IsInert b) : IsInert (a ++ b) := by
  rw [IsInert, List.all_append, ha, hb, Bool.true_and]

/-- An inert text holds no semicolon. -/
theorem no_semicolon (ha : IsInert a) : ';' ∉ a := by
  intro h
  have hsemi := List.all_eq_true.1 ha _ h
  revert hsemi
  decide

/-- Inert characters leave a scan outside of quotes where it is. -/
theorem isOutside_after (ha : IsInert a) {scan : Scan} (h : scan.isOutside) :
    (scan.after a).isOutside := by
  induction a generalizing scan with
  | nil => exact h
  | cons c a ih =>
    rw [IsInert, List.all_cons, Bool.and_eq_true, isInert, Bool.and_eq_true,
      Option.isNone_iff_eq_none] at ha
    obtain ⟨⟨hc, -⟩, ha⟩ := ha
    have hnext : (scan.next c).isOutside := by
      cases scan <;> simp only [Scan.isOutside, Bool.false_eq_true] at h <;>
        by_cases hb : Text.isBlank c <;> simp [Scan.next, Scan.afterPlain, hb, hc, Scan.isOutside]
    exact ih ha hnext

end IsInert

/-- From outside of quotes an apostrophe leads between apostrophes. -/
theorem Sql.next_apostrophe {scan : Scan} (h : scan.isOutside) :
    scan.next '\'' = .quoted .apostrophe := by
  cases scan with
  | start => decide
  | word => decide
  | gap => decide
  | quoted q => cases h
  | escaped q => cases h

/-- A character that the front of a text does not have is behind it. -/
theorem exists_behind {α : Type} {front rest a b : List α} {x : α} (hfront : x ∉ front)
    (h : front ++ rest = a ++ x :: b) : ∃ s, a = front ++ s ∧ rest = s ++ x :: b := by
  rcases List.append_eq_append_iff.1 h with ⟨s, ha, hrest⟩ | ⟨s, hs, hx⟩
  · exact ⟨s, ha, hrest⟩
  · cases s with
    | nil => exact ⟨[], by simpa using hs.symm, by simpa using hx.symm⟩
    | cons y s =>
      obtain ⟨rfl, -⟩ := List.cons.inj hx
      exact absurd (by simp [hs]) hfront

/-- A character that both ends of a text do not have is in the middle of it. -/
theorem exists_middle {α : Type} {front middle back a b : List α} {x : α} (hfront : x ∉ front)
    (hback : x ∉ back) (h : front ++ (middle ++ back) = a ++ x :: b) :
    ∃ s t, middle = s ++ x :: t ∧ a = front ++ s ∧ b = t ++ back := by
  obtain ⟨s, ha, hrest⟩ := exists_behind hfront h
  rcases List.append_eq_append_iff.1 hrest with ⟨u, -, hu⟩ | ⟨u, hu, hx⟩
  · exact absurd (by simp [hu]) hback
  · cases u with
    | nil => exact absurd (by simp [← show x :: b = back from hx]) hback
    | cons y t =>
      obtain ⟨rfl, hb⟩ := List.cons.inj hx
      exact ⟨s, t, hu, ha, hb⟩

namespace Literal

/-- A semicolon stands in the escaped form of a semicolon alone. -/
theorem eq_of_mem_escapeChar {c : Char} (h : ';' ∈ escapeChar c) : c = ';' := by
  rcases escapeChar_cases c with ⟨d, hesc, hd⟩ | ⟨hesc, -, -⟩
  · rw [hesc] at h
    have hsemi : d = ';' := by simpa [eq_comm] using h
    rw [hsemi] at hd
    exact (List.singleton_inj.1 hd).symm
  · rw [hesc, List.mem_singleton] at h
    exact h.symm

/-- A semicolon of an escaped text is one of the text. -/
theorem exists_of_escapeChars_eq {l a b : List Char} (h : escapeChars l = a ++ ';' :: b) :
    ∃ s t, l = s ++ ';' :: t ∧ a = escapeChars s ∧ b = escapeChars t := by
  induction l generalizing a with
  | nil => simp [escapeChars] at h
  | cons c l ih =>
    have hsplit : escapeChars (c :: l) = escapeChar c ++ escapeChars l := by simp [escapeChars]
    rw [hsplit] at h
    have hback : ∀ s, escapeChars l = s ++ ';' :: b → a = escapeChar c ++ s →
        ∃ s t, c :: l = s ++ ';' :: t ∧ a = escapeChars s ∧ b = escapeChars t := by
      rintro s hs rfl
      obtain ⟨s, t, rfl, rfl, rfl⟩ := ih hs
      exact ⟨c :: s, t, rfl, by simp [escapeChars], rfl⟩
    by_cases hc : ';' ∈ escapeChar c
    · obtain rfl := eq_of_mem_escapeChar hc
      have hsemi : escapeChar ';' = [';'] := by decide
      rw [hsemi] at h hback
      cases a with
      | nil => exact ⟨[], l, rfl, rfl, (List.cons.inj h).2.symm⟩
      | cons d a =>
        obtain ⟨rfl, hrest⟩ := List.cons.inj h
        exact hback a hrest rfl
    · obtain ⟨s, ha, hrest⟩ := exists_behind hc h
      exact hback s hrest ha

end Literal

/-- Digits with a point among them are inert. -/
theorem Numeral.IsUnsigned.inert {u : List Char} (hu : IsUnsigned u) : IsInert u := by
  refine List.all_eq_true.2 fun c hc => ?_
  rcases hu.chars c hc with hd | rfl
  · exact isInert_of_isDigit hd
  · decide

/-- Numbers with a sign, a point and places are inert. -/
theorem Numeral.IsNumeral.inert {s : List Char} (hs : IsNumeral s) : IsInert s := by
  cases hs with
  | plus hu => exact hu.inert
  | minus hu => exact IsInert.append (a := ['-']) (by decide) hu.inert

/-- Hexadecimal digits of bytes are inert. -/
theorem Hex.inert_chars (data : List UInt8) : IsInert (chars data) := by
  have hall : ∀ k : Fin 16, isInert (digit k) := by decide
  refine List.all_eq_true.2 fun c hc => ?_
  obtain ⟨k, rfl⟩ := exists_digit_of_mem_chars hc
  exact hall k

namespace Value

/-- A number has no semicolon, and whatever is no number stands between apostrophes. -/
theorem quoted_or_display {v : Value} (hbool : ∀ b, v ≠ .bool b) {l : String}
    (hl : l = if v.isNumeric then v.display else Literal.quoted v.display) :
    l = Literal.quoted v.display ∨ ';' ∉ l.toList := by
  by_cases h : v.isNumeric
  · rw [if_pos h] at hl
    subst hl
    exact .inr (isNumeral_display h hbool).inert.no_semicolon
  · rw [if_neg h] at hl
    exact .inl hl

/-- Only a text between apostrophes can bring a semicolon. -/
theorem quoted_or_literal (v : Value) :
    v.literal = Literal.quoted v.display ∨ ';' ∉ v.literal.toList := by
  cases v with
  | null => exact .inr (by decide)
  | bool b => exact .inr (by cases b <;> decide)
  | bytes data =>
    have htext : (Value.bytes data).literal.toList = 'X' :: '\'' :: (Hex.chars data ++ ['\'']) := by
      simp [literal]
    refine .inr ?_
    rw [htext]
    simp [(Hex.inert_chars data).no_semicolon]
  | string s => exact .inl rfl
  | text s => exact .inl rfl
  | json j => exact .inl rfl
  | date s => exact .inl rfl
  | time s => exact .inl rfl
  | dateTime s => exact .inl rfl
  | tinyInt n => exact quoted_or_display (by simp) rfl
  | smallInt n => exact quoted_or_display (by simp) rfl
  | int n => exact quoted_or_display (by simp) rfl
  | bigInt n => exact quoted_or_display (by simp) rfl
  | unsignedTinyInt n => exact quoted_or_display (by simp) rfl
  | unsignedSmallInt n => exact quoted_or_display (by simp) rfl
  | unsignedInt n => exact quoted_or_display (by simp) rfl
  | unsignedBigInt n => exact quoted_or_display (by simp) rfl
  | float bits => exact quoted_or_display (by simp) rfl
  | double bits => exact quoted_or_display (by simp) rfl
  | decimal d => exact quoted_or_display (by simp) rfl

end Value

/-! ## What setters ask for -/

namespace ColumnSetter

/-- The setter asks for what no column can have. -/
def IsInvalid : ColumnSetter → Prop
  | limit n => n = 0
  | precision p s => p = 0 ∨ p < s
  | suffix s => ';' ∈ s.toList
  | default _ => False
  | notNull => False

/-- Why such a setter is refused. -/
def fault? : ColumnSetter → Option ColumnFault
  | limit n => if n = 0 then some .zeroLimit else none
  | precision p s =>
    if p = 0 then some .zeroPrecision
    else if p < s then some (.scaleExceedsPrecision s p) else none
  | suffix s => if s.toList.contains ';' then some (.suffixSeparator s) else none
  | default _ => none
  | notNull => none

/-- What a setter makes of options, when it is not refused. -/
def apply (o : ColumnOptions) : ColumnSetter → ColumnOptions
  | default v => { o with default := some v }
  | limit n => { o with size := some (.length n) }
  | precision p s => { o with size := some (.precision p s) }
  | notNull => { o with notNull := true }
  | suffix s => { o with suffix := ColumnOptions.suffixOf s }

/-- A setter has a fault exactly if it is invalid. -/
theorem isSome_fault?_iff (s : ColumnSetter) : s.fault?.isSome ↔ s.IsInvalid := by
  cases s with
  | limit n => by_cases hn : n = 0 <;> simp [fault?, IsInvalid, hn]
  | precision p s =>
    by_cases hp : p = 0
    · simp [fault?, IsInvalid, hp]
    · by_cases hs : p < s <;> simp [fault?, IsInvalid, hp, hs]
  | suffix s => by_cases hs : ';' ∈ s.toList <;> simp [fault?, IsInvalid, hs]
  | default v => simp [fault?, IsInvalid]
  | notNull => simp [fault?, IsInvalid]

/-- **A setter is refused for its fault, or it is applied.** -/
theorem set_eq (o : ColumnOptions) (s : ColumnSetter) :
    o.set s = s.fault?.elim (.ok (apply o s)) fun f => .error (.invalidColumn f) := by
  cases s with
  | limit n => by_cases hn : n = 0 <;> simp [ColumnOptions.set, fault?, apply, hn]
  | precision p s =>
    by_cases hp : p = 0
    · simp [ColumnOptions.set, fault?, hp]
    · by_cases hs : p < s <;> simp [ColumnOptions.set, fault?, apply, hp, hs]
  | suffix s =>
    by_cases hs : s.toList.contains ';' <;> simp only [ColumnOptions.set, fault?, apply, hs] <;> rfl
  | default v => rfl
  | notNull => rfl

end ColumnSetter

/-- **The first setter that is to be refused is refused**, and without one all are applied. -/
theorem ColumnOptions.build_eq (setters : List ColumnSetter) :
    build setters = (setters.findSome? ColumnSetter.fault?).elim
      (.ok (setters.foldl ColumnSetter.apply none)) fun f => .error (.invalidColumn f) :=
  Setters.foldlM_eq ColumnSetter.set_eq setters none

/-! ## What setters write -/

namespace ColumnSetter

/-- The size that a setter writes behind the keyword. -/
def sizeText? : ColumnSetter → Option String
  | limit n => some ("(" ++ toString n.toNat ++ ")")
  | precision p s => some ("(" ++ toString p.toNat ++ "," ++ toString s.toNat ++ ")")
  | _ => none

/-- The default that a setter gives. -/
def default? : ColumnSetter → Option Value
  | default v => some v
  | _ => none

/-- The setter rules the null out. -/
def isNotNull : ColumnSetter → Bool
  | notNull => true
  | _ => false

/-- The suffix that a setter writes, with the space in front of it; a blank one writes nothing. -/
def suffixText? : ColumnSetter → Option String
  | suffix s => some (if Text.isAllBlank s then "" else " " ++ Text.trim s)
  | _ => none

variable (name : String) (t : ColumnType) (setters : List ColumnSetter)

/-- The name, the keyword and the last size. -/
def head : String := name ++ " " ++ t.keyword ++ (setters.filterMap sizeText?).getLastD ""

/-- The last default. -/
def lastDefault? : Option Value := (setters.filterMap default?).getLast?

/-- What stands behind the default: the null rule, if there is one, and the last suffix. -/
def tail : String :=
  (if setters.any isNotNull then " NOT NULL" else "") ++
    (setters.filterMap suffixText?).getLastD ""

/-- The definition of a column, told from the setters. -/
def definition : String :=
  head name t setters ++
    (match lastDefault? setters with
      | some v => " DEFAULT " ++ v.literal
      | none => "") ++ tail setters

end ColumnSetter

namespace Text

/-- Nothing is left of a text by trimming exactly if all of it is blank. -/
theorem isEmpty_trim (s : String) : (trim s).isEmpty = isAllBlank s := by
  have hdrop := List.any_dropWhile (p := isBlank) (l := s.toList)
  rw [Bool.eq_iff_iff, String.isEmpty_iff, ← String.toList_eq_nil_iff, trim, String.toList_ofList]
  calc List.rdropWhile isBlank (s.toList.dropWhile isBlank) = []
      ↔ ∀ c ∈ s.toList.dropWhile isBlank, isBlank c := List.rdropWhile_eq_nil_iff
    _ ↔ (s.toList.dropWhile isBlank).any (fun c => !isBlank c) = false := by
        rw [List.any_eq_false]
        simp only [Bool.not_eq_true, Bool.not_eq_false']
    _ ↔ isAllBlank s := by rw [hdrop, isAllBlank, Bool.not_eq_false']

/-- Trimming adds no character. -/
theorem mem_of_mem_trim {s : String} {c : Char} (h : c ∈ (trim s).toList) : c ∈ s.toList := by
  rw [trim, String.toList_ofList, trimChars, List.mem_reverse] at h
  have h' := (List.dropWhile_sublist _).mem h
  exact (List.dropWhile_sublist _).mem (List.mem_reverse.1 h')

end Text

namespace ColumnOptions

open ColumnSetter

variable (o : ColumnOptions) (setters : List ColumnSetter)

/-- The text of the size, if there is one. -/
def sizeSql : String :=
  match o.size with
  | some size => size.sql
  | .none => ""

/-- A setter of the size replaces the one before; any other leaves it. -/
theorem sizeSql_apply (s : ColumnSetter) :
    sizeSql (apply o s) = s.sizeText?.getD (sizeSql o) := by
  cases s <;> simp only [sizeSql, apply] <;> rfl

/-- A setter of the default replaces the one before; any other leaves it. -/
theorem default_apply (s : ColumnSetter) :
    (apply o s).default = s.default?.or o.default := by
  cases s <;> simp only [apply] <;> rfl

/-- A setter of the suffix replaces the one before, also by none; any other leaves it. -/
theorem suffixSql_apply (s : ColumnSetter) :
    suffixSql (apply o s) = s.suffixText?.getD (suffixSql o) := by
  cases s with
  | suffix s =>
    rw [suffixSql, apply, suffixOf, suffixText?, ← Text.isEmpty_trim]
    cases (Text.trim s).isEmpty <;> rfl
  | default v => rfl
  | limit n => rfl
  | precision p s => rfl
  | notNull => rfl

/-- A column must not be null once a setter has said so, wherever that setter stands. -/
theorem notNull_foldl : (setters.foldl apply o).notNull = (o.notNull || setters.any isNotNull) := by
  induction setters generalizing o with
  | nil => simp
  | cons s setters ih =>
    rw [List.foldl_cons, ih, List.any_cons]
    cases s <;> simp [apply, isNotNull]

/-- **The definition is told from the setters.** -/
theorem columnDefinition_foldl (name : String) {tag : String} {t : ColumnType}
    (ht : ColumnType.ofTag tag = .ok t) :
    columnDefinition name tag (setters.foldl apply none) = .ok (definition name t setters) := by
  generalize ho : setters.foldl apply none = o
  have hsize : sizeSql o = (setters.filterMap sizeText?).getLastD "" :=
    ho ▸ Setters.foldl_eq_getLastD sizeSql_apply setters none
  have hdefault : o.default = lastDefault? setters := by
    rw [← ho, Setters.foldl_eq_getLast? default_apply]
    exact Option.or_none
  have hsuffix : suffixSql o = (setters.filterMap suffixText?).getLastD "" :=
    ho ▸ Setters.foldl_eq_getLastD suffixSql_apply setters none
  have hnull : o.notNull = setters.any isNotNull := by
    rw [← ho, notNull_foldl]
    exact Bool.false_or _
  rw [definition, head, tail, ← hsize, ← hsuffix, ← hnull, ← hdefault]
  obtain ⟨value, size, isNotNull, suffix⟩ := o
  cases value <;> cases size <;> simp only [columnDefinition, ht, sizeSql, String.append_assoc]

end ColumnOptions

/-! ## Semicolons of a definition -/

namespace ColumnSetter

variable {name : String} {t : ColumnType} {setters : List ColumnSetter}

/-- A semicolon of a definition, between `a` and `b`, is one of the text of the last default. It
stands within the literal, where the text has it. -/
def InDefault (name : String) (t : ColumnType) (setters : List ColumnSetter) (a b : List Char) :
    Prop :=
  ∃ v, lastDefault? setters = some v ∧ v.literal = Literal.quoted v.display ∧
    Scan.start.after a = .quoted .apostrophe ∧
    ∃ before behind, v.display.toList = before ++ ';' :: behind ∧
      a = (head name t setters ++ " DEFAULT '").toList ++ Literal.escapeChars before ∧
      b = Literal.escapeChars behind ++ ("'" ++ tail setters).toList

/-- The keywords of the types are inert. -/
theorem inert_keyword (t : ColumnType) : IsInert t.keyword.toList := by
  cases t <;> decide

/-- A printed number is inert. -/
theorem inert_nat (n : Nat) : IsInert (toString n).toList := by
  have htext : (toString n).toList = Nat.toDigits 10 n := Nat.toList_repr
  rw [htext]
  exact (Numeral.IsUnsigned.whole (Numeral.isDigits_toDigits n)).inert

/-- The text of a size holds digits, a comma and parentheses alone. -/
theorem inert_sizeText {s : ColumnSetter} {x : String} (h : x ∈ s.sizeText?) :
    IsInert x.toList := by
  cases s with
  | limit n =>
    obtain rfl := Option.some.inj h
    simp only [String.toList_append]
    exact .append (.append (by decide) (inert_nat _)) (by decide)
  | precision p s =>
    obtain rfl := Option.some.inj h
    simp only [String.toList_append]
    exact .append (.append (.append (.append (by decide) (inert_nat _)) (by decide))
      (inert_nat _)) (by decide)
  | default v => cases h
  | notNull => cases h
  | suffix s => cases h

/-- What holds of every text that setters write, and of none, holds of the last one. -/
theorem getLastD_of_forall {P : String → Prop} {f : ColumnSetter → Option String} (hnil : P "")
    (h : ∀ s ∈ setters, ∀ x ∈ f s, P x) : P ((setters.filterMap f).getLastD "") := by
  rw [List.getLastD_eq_getLast?]
  cases hlast : (setters.filterMap f).getLast? with
  | none => exact hnil
  | some x =>
    obtain ⟨s, hs, hx⟩ := List.mem_filterMap.1 (List.mem_of_getLast? hlast)
    exact h s hs x hx

/-- What stands in front of the default is inert if the name is. -/
theorem inert_head (hname : IsInert name.toList) : IsInert (head name t setters).toList := by
  have hsize : IsInert ((setters.filterMap sizeText?).getLastD "").toList :=
    getLastD_of_forall (P := fun x => IsInert x.toList) (by decide)
      fun s _ x hx => inert_sizeText hx
  simp only [head, String.toList_append]
  exact .append (.append (.append hname (by decide)) (inert_keyword t)) hsize

/-- A suffix that is not refused holds no semicolon. -/
theorem no_semicolon_suffixText {s : ColumnSetter} (hs : ¬s.IsInvalid) {x : String}
    (h : x ∈ s.suffixText?) : ';' ∉ x.toList := by
  cases s with
  | suffix s =>
    obtain rfl := Option.some.inj h
    split
    · decide
    · rw [String.toList_append, List.mem_append, not_or]
      exact ⟨by decide, fun hmem => hs (Text.mem_of_mem_trim hmem)⟩
  | default v => cases h
  | limit n => cases h
  | precision p s => cases h
  | notNull => cases h

/-- No semicolon stands behind the default when no setter is refused. -/
theorem no_semicolon_tail (h : ∀ s ∈ setters, ¬s.IsInvalid) : ';' ∉ (tail setters).toList := by
  have hsuffix : ';' ∉ ((setters.filterMap suffixText?).getLastD "").toList :=
    getLastD_of_forall (P := fun x => ';' ∉ x.toList) (by decide)
      fun s hs x hx => no_semicolon_suffixText (h s hs) hx
  rw [tail, String.toList_append, List.mem_append, not_or]
  refine ⟨?_, hsuffix⟩
  split <;> decide

/-- **A semicolon of a definition is one of the default.** -/
theorem inDefault_of_semicolon (h : ∀ s ∈ setters, ¬s.IsInvalid)
    (hname : IsInert name.toList) {a b : List Char}
    (hab : (definition name t setters).toList = a ++ ';' :: b) :
    InDefault name t setters a b := by
  have hhead : IsInert (head name t setters).toList := inert_head hname
  have hnone := hhead.no_semicolon
  have htail := no_semicolon_tail h
  have hmem : ';' ∈ (definition name t setters).toList := by simp [hab]
  rw [definition] at hmem hab
  cases hlast : lastDefault? setters with
  | none =>
    rw [hlast] at hmem
    simp [hnone, htail] at hmem
  | some v =>
    rw [hlast] at hmem hab
    simp only [] at hmem hab
    have hquoted := v.quoted_or_literal.resolve_right fun hlit => by
      simp [hnone, htail, hlit] at hmem
    -- the text stands between what is in front of it and what is behind
    have hparts : (head name t setters ++ " DEFAULT '").toList ++
        (Literal.escapeChars v.display.toList ++ ("'" ++ tail setters).toList) = a ++ ';' :: b := by
      rw [← hab, hquoted, Literal.quoted]
      simp
    obtain ⟨s, u, hmiddle, ha, hb⟩ := exists_middle (by simp [hnone]) (by simp [htail]) hparts
    obtain ⟨before, behind, hdisplay, rfl, rfl⟩ := Literal.exists_of_escapeChars_eq hmiddle
    refine ⟨v, hlast, hquoted, ?_, before, behind, hdisplay, ha, hb⟩
    have hfront : (Scan.start.after (head name t setters ++ " DEFAULT ").toList).isOutside := by
      rw [String.toList_append]
      exact (hhead.append (by decide)).isOutside_after rfl
    have hsplit : a = (head name t setters ++ " DEFAULT ").toList ++
        '\'' :: Literal.escapeChars before := by
      rw [ha]
      simp
    rw [hsplit, Scan.after_append, Scan.after_cons, next_apostrophe hfront]
    exact (Literal.collapseFrom_escapeChars before).2

end ColumnSetter

namespace ColumnType

/-- A tag of the list is known. -/
theorem ofTag_of_mem {tag : String} {t : ColumnType} (h : (tag, t) ∈ tags) : ofTag tag = .ok t := by
  -- no tag stands twice in the table
  have hall : ∀ p ∈ tags, tags.lookup p.1 = some p.2 := by decide
  rw [ofTag, hall _ h]

/-- A tag outside the list is refused with an error that names it. -/
theorem ofTag_of_not_mem {tag : String} (h : ∀ t, (tag, t) ∉ tags) :
    ofTag tag = .error (.unknownType tag) := by
  have hnone : tags.lookup tag = none := by
    rw [List.lookup_eq_none_iff]
    rintro ⟨other, t⟩ hmem
    rw [bne_iff_ne]
    rintro rfl
    exact h t hmem
  rw [ofTag, hnone]

end ColumnType

namespace ColumnOptions

open ColumnSetter

/-- **Setters are refused when one of them is to be, and what the others make is known.** Without
one that asks for what no column can have, the definition of the column is told from the setters,
for every name and every tag that a type has, and no semicolon of it stands outside of the literal
of the default. With a tag that no type has there is no definition. -/
theorem build_definition (setters : List ColumnSetter) :
    ((∃ fault, build setters = .error (.invalidColumn fault)) ↔ ∃ s ∈ setters, s.IsInvalid) ∧
    ((∀ s ∈ setters, ¬s.IsInvalid) → ∃ o, build setters = .ok o ∧
      ∀ name tag t, (tag, t) ∈ ColumnType.tags →
        columnDefinition name tag o = .ok (definition name t setters) ∧
        (IsInert name.toList → ∀ a b,
          (definition name t setters).toList = a ++ ';' :: b → InDefault name t setters a b)) ∧
    ∀ o name tag, (∀ t, (tag, t) ∉ ColumnType.tags) →
      columnDefinition name tag o = .error (.unknownType tag) := by
  have hvalid : (∀ s ∈ setters, ¬s.IsInvalid) ↔ setters.findSome? fault? = .none := by
    rw [List.findSome?_eq_none_iff]
    refine forall₂_congr fun s _ => ?_
    rw [← isSome_fault?_iff, Option.not_isSome_iff_eq_none]
  refine ⟨?_, fun h => ⟨setters.foldl apply none, ?_, fun name tag t ht => ⟨?_, ?_⟩⟩, ?_⟩
  · rw [build_eq, ← not_iff_not]
    push Not
    rw [hvalid]
    cases setters.findSome? fault? <;> simp
  · rw [build_eq, hvalid.1 h]
    rfl
  · exact columnDefinition_foldl setters name (ColumnType.ofTag_of_mem ht)
  · exact fun hname a b => inDefault_of_semicolon h hname
  · intro o name tag hunknown
    rw [columnDefinition, ColumnType.ofTag_of_not_mem hunknown]

/-- The precision takes the place of the limit, a blank suffix the place of the one before, and the
text of the default has an apostrophe and semicolons. -/
theorem build_definition_overwritten : ∃ setters o,
    setters = [.limit 10, .suffix "COMMENT 'x'", .default (.string "it's; so;"), .precision 12 2,
      .notNull, .suffix "  "] ∧
    build setters = .ok o ∧
    columnDefinition "note" "string" o =
      .ok "note VARCHAR(12,2) DEFAULT 'it\\'s; so;' NOT NULL" ∧
    InDefault "note" .string setters "note VARCHAR(12,2) DEFAULT 'it\\'s".toList
      " so;' NOT NULL".toList := by
  let setters : List ColumnSetter := [.limit 10, .suffix "COMMENT 'x'",
    .default (.string "it's; so;"), .precision 12 2, .notNull, .suffix "  "]
  have hvalid : ∀ s ∈ setters, ¬s.IsInvalid := by simp [setters, IsInvalid]
  have htext : definition "note" .string setters =
    "note VARCHAR(12,2) DEFAULT 'it\\'s; so;' NOT NULL" := by decide +kernel
  obtain ⟨o, ho, h⟩ := (build_definition setters).2.1 hvalid
  obtain ⟨hdef, hsemi⟩ := h "note" "string" .string (by decide)
  exact ⟨setters, o, rfl, ho, htext ▸ hdef, hsemi (by decide) _ _ (by rw [htext]; decide +kernel)⟩

end ColumnOptions

end SqlBridge
