import Mathlib.Data.List.DropRight
import SqlBridge.Proofs.Query.Pieces

/-!
# How a chain opens

A chain of conditions opens with its keyword and a space. A `TRUE AND` behind them is taken out, but
only once, so another one stays (`Condition.keepsSeed`). There are two ways to get it. The first
predicate may be `TRUE` itself, which is how the negation over an empty list is written, with an
`AND` behind it. Or the first predicate begins with raw SQL, and that reads so.

These are the only ones (`Condition.clauses_open`). No name and no value begins with a `T`
(`Expr.startsForeign_sql`), and what a predicate writes behind its first expression does not go on
with the words either (`Predicate.exists_sql_eq`), so raw SQL is not completed by it.
-/

namespace SqlBridge

open Sql

/-! ## First characters -/

/-- The text starts with a character that is no blank and begins neither `TRUE` nor `AND`. -/
def StartsForeign (s : List Char) : Prop :=
  ∃ c r, s = c :: r ∧ Text.isBlank c = false ∧ c.toUpper ≠ 'T' ∧ c.toUpper ≠ 'A'

/-- More behind a text does not change how it starts. -/
theorem StartsForeign.append {a : List Char} (ha : StartsForeign a) (b : List Char) :
    StartsForeign (a ++ b) := by
  obtain ⟨c, r, rfl, hc⟩ := ha
  exact ⟨c, r ++ b, rfl, hc⟩

/-- Such a text starts with no blank. -/
theorem StartsForeign.dark {s : List Char} (h : StartsForeign s) : StartsDark s := by
  obtain ⟨c, r, rfl, hblank, -⟩ := h
  exact ⟨c, r, rfl, hblank⟩

/-- Digits have no other case. -/
theorem toUpper_digit {c : Char} (h : c.isDigit) : c.toUpper = c := by
  simp only [Char.isDigit, ge_iff_le, Bool.and_eq_true, decide_eq_true_eq,
    UInt32.le_iff_toNat_le] at h
  have h9 : '9'.val.toNat = 57 := rfl
  have ha : 'a'.val.toNat = 97 := rfl
  unfold Char.toUpper
  rw [dif_neg]
  simp only [UInt32.le_iff_toNat_le, not_and]
  omega

/-- A digit starts neither of the words. -/
theorem startsForeign_digit {c : Char} (h : c.isDigit) (r : List Char) :
    StartsForeign (c :: r) := by
  have hne : ∀ d : Char, d.isDigit = false → c.toUpper ≠ d := by
    rintro d hd rfl
    rw [toUpper_digit h, h] at hd
    cases hd
  exact ⟨c, r, rfl, (Numeral.isDigit_ordinary h).1, hne 'T' (by decide), hne 'A' (by decide)⟩

/-- A number starts with a digit or a minus sign. -/
theorem Numeral.startsForeign {s : List Char} (h : IsNumeral s) : StartsForeign s := by
  cases h with
  | plus hu =>
    obtain ⟨c, r, rfl, hc⟩ := hu.head
    exact startsForeign_digit hc r
  | minus hu => exact ⟨'-', _, rfl, by decide⟩

/-- A literal starts with a quote, a digit, a sign, or the first letter of `NULL` or of bytes. -/
theorem Value.startsForeign_literal (v : Value) : StartsForeign v.literal.toList := by
  unfold literal
  split
  · exact ⟨'N', _, rfl, by decide⟩
  · next b =>
    cases b
    · exact ⟨'0', _, rfl, by decide⟩
    · exact ⟨'1', _, rfl, by decide⟩
  · next data => exact ⟨'X', _, by simp; rfl, by decide⟩
  · next hnull hbool hbytes =>
    split
    · next hnumeric => exact Numeral.startsForeign (isNumeral_display hnumeric hbool)
    · exact ⟨'\'', _, by simp [Literal.quoted]; rfl, by decide⟩

/-- A segment of a name starts with a backtick or is a star. -/
theorem Name.startsForeign_segment (s : List Char) : StartsForeign (escapeSegment s) := by
  unfold escapeSegment
  split
  · subst s
    exact ⟨'*', [], rfl, by decide⟩
  · exact ⟨backtick, _, rfl, by decide⟩

/-- A name starts as its first segment does. -/
theorem Name.startsForeign_escape (name : String) : StartsForeign (escape name).toList := by
  obtain ⟨s, l, hl⟩ := List.exists_cons_of_ne_nil (segments_ne_nil name.toList)
  rw [toList_escape, escapeChars, hl, List.map_cons]
  cases l with
  | nil => simpa using startsForeign_segment s
  | cons t l => simpa using (startsForeign_segment s).append _

/-- No name and no value begins like `TRUE` or `AND`. -/
theorem Expr.startsForeign_sql {e : Expr} (h : e.isRaw = false) : StartsForeign e.sql.toList := by
  cases e with
  | raw s => simp [isRaw] at h
  | name n => exact Name.startsForeign_escape n
  | value v => exact v.startsForeign_literal

namespace Condition

/-! ## What opens with the words -/

/-- The text begins with `TRUE AND`, in any case of letters and with any blanks between them. -/
def beginsTrueAnd (s : List Char) : Bool :=
  ((behindWord? ['T', 'R', 'U', 'E'] s).bind fun s =>
    (behindBlanks? s).bind (behindWord? ['A', 'N', 'D'])).isSome

/-- A clause has `TRUE AND` behind its keyword, in any case of letters. -/
def keepsSeed (keyword clause : String) : Bool :=
  ((behindWord? keyword.toList clause.toList).bind behindBlanks?).any beginsTrueAnd

/-- A word is not completed by what does not go on with one of its letters. -/
theorem behindWord?_append {word r : List Char} (hr : ∀ c ∈ r.head?, c.toUpper ∉ word)
    (s : List Char) : behindWord? word (s ++ r) = (behindWord? word s).map (· ++ r) := by
  induction word generalizing s with
  | nil => rfl
  | cons w word ih =>
    have hword : ∀ c ∈ r.head?, c.toUpper ∉ word := fun c hc hmem => hr c hc (.tail _ hmem)
    cases s with
    | nil =>
      cases r with
      | nil => rfl
      | cons c r =>
        have hne : c.toUpper ≠ w := fun heq => hr c rfl (heq ▸ .head _)
        exact if_neg hne
    | cons c s =>
      rw [List.cons_append, behindWord?, behindWord?]
      split
      · exact ih hword s
      · rfl

/-- What starts otherwise is no such text. -/
theorem beginsTrueAnd_of_foreign {s : List Char} (h : StartsForeign s) :
    beginsTrueAnd s = false := by
  obtain ⟨c, r, rfl, -, hne, -⟩ := h
  rw [beginsTrueAnd, behindWord?, if_neg hne]
  rfl

/-- One space goes and nothing else, since no other blank follows. -/
theorem dropBlanks_space {r : List Char} (hr : StartsForeign r) :
    (' ' :: r).dropWhile Text.isBlank = r := by
  rw [List.dropWhile_cons_of_pos (by decide), dropWhile_isBlank hr.dark]

/-- Behind a blank all further ones are passed over. -/
theorem behindBlanks?_cons {c : Char} (hc : Text.isBlank c = true) (s : List Char) :
    behindBlanks? (c :: s) = some (s.dropWhile Text.isBlank) := if_pos hc

/-- A blank with something else behind it does not complete the words. -/
theorem beginsTrueAnd_append {r : List Char} (hr : StartsForeign r) (s : List Char) :
    beginsTrueAnd (s ++ ' ' :: r) = beginsTrueAnd s := by
  have hspace (word : List Char) (hword : ' ' ∉ word) :
      ∀ c ∈ (' ' :: r).head?, c.toUpper ∉ word := by
    rintro c hc
    obtain rfl : ' ' = c := Option.some.inj hc
    exact hword
  have hand : behindWord? ['A', 'N', 'D'] r = none := by
    obtain ⟨c, r, rfl, -, -, hne⟩ := hr
    exact if_neg hne
  rw [beginsTrueAnd, beginsTrueAnd, behindWord?_append (hspace _ (by decide))]
  cases behindWord? ['T', 'R', 'U', 'E'] s with
  | none => rfl
  | some t =>
    rw [Option.map_some, Option.bind_some, Option.bind_some]
    cases t with
    | nil =>
      -- the text ends with `TRUE`, and the blank belongs to the rest
      rw [List.nil_append, behindBlanks?_cons (by decide), dropWhile_isBlank hr.dark,
        Option.bind_some, hand]
      rfl
    | cons d t =>
      rw [List.cons_append]
      cases hd : Text.isBlank d with
      | false => simp [behindBlanks?, hd]
      | true =>
        rw [behindBlanks?_cons hd, behindBlanks?_cons hd, Option.bind_some, Option.bind_some,
          List.dropWhile_append]
        split
        · next hall =>
          -- or it ends with blanks behind that
          rw [List.isEmpty_iff.1 hall, dropBlanks_space hr, hand]
          rfl
        · rw [behindWord?_append (hspace _ (by decide)), Option.isSome_map]

/-- The same with the blanks in front taken away. -/
theorem beginsTrueAnd_dropBlanks_append {r : List Char} (hr : StartsForeign r) (s : List Char) :
    beginsTrueAnd ((s ++ ' ' :: r).dropWhile Text.isBlank) =
      beginsTrueAnd (s.dropWhile Text.isBlank) := by
  rw [List.dropWhile_append]
  split
  · next hall =>
    rw [List.isEmpty_iff.1 hall, dropBlanks_space hr, beginsTrueAnd_of_foreign hr]
    rfl
  · exact beginsTrueAnd_append hr _

end Condition

/-! ## What a predicate begins with -/

/-- The signs of comparisons start neither of the words, and those in letters begin with another
one. -/
theorem CompareOp.startsForeign_sign (op : CompareOp) : StartsForeign op.sign.toList := by
  cases op <;> exact ⟨_, _, rfl, by decide⟩

namespace Predicate

/-- Behind its first expression a predicate goes on with a sign or with another word. -/
theorem exists_sql_eq {p : Predicate} {e : Expr} (h : p.exprs.head? = some e) :
    ∃ r, StartsForeign r ∧ p.sql.toList = e.sql.toList ++ ' ' :: r := by
  cases p with
  | raw s => simp [exprs] at h
  | compare left op right =>
    obtain rfl : left = e := Option.some.inj h
    exact ⟨_, op.startsForeign_sign.append (' ' :: right.sql.toList), by simp [sql]⟩
  | isNull e' =>
    obtain rfl : e' = e := Option.some.inj h
    exact ⟨"IS NULL".toList, ⟨'I', _, rfl, by decide⟩, by simp [sql]⟩
  | isNotNull e' =>
    obtain rfl : e' = e := Option.some.inj h
    exact ⟨"IS NOT NULL".toList, ⟨'I', _, rfl, by decide⟩, by simp [sql]⟩
  | member e' values negated =>
    cases hempty : values.isEmpty with
    | true => simp [exprs, hempty] at h
    | false =>
      simp only [exprs, hempty] at h
      obtain rfl : e' = e := Option.some.inj h
      cases negated
      · exact ⟨_, ⟨'I', _, rfl, by decide⟩, by simp [sql, hempty]; rfl⟩
      · exact ⟨_, ⟨'N', _, rfl, by decide⟩, by simp [sql, hempty]; rfl⟩
  | between e' low high =>
    obtain rfl : e' = e := Option.some.inj h
    exact ⟨_, ⟨'B', _, rfl, by decide⟩, by simp [sql]; rfl⟩

/-- Only the test of an empty list begins with no expression. -/
theorem exists_eq_member {p : Predicate} (hraw : ∀ s, p ≠ .raw s) (h : p.exprs.head? = none) :
    ∃ e negated, p = .member e [] negated := by
  cases p with
  | raw s => exact absurd rfl (hraw s)
  | compare left op right => simp [exprs] at h
  | isNull e => simp [exprs] at h
  | isNotNull e => simp [exprs] at h
  | member e values negated =>
    cases values with
    | nil => exact ⟨e, negated, rfl⟩
    | cons v values => simp [exprs] at h
  | between e low high => simp [exprs] at h

end Predicate

/-! ## Chains -/

namespace Condition

/-- A predicate that begins with an expression begins with the words when raw SQL there does. -/
theorem beginsTrueAnd_expr {p : Predicate} {e : Expr} (h : p.exprs.head? = some e)
    (behind : List Char) :
    beginsTrueAnd ((p.sql.toList ++ behind).dropWhile Text.isBlank) = true ↔
      ∃ s, e = .raw s ∧ beginsTrueAnd (s.toList.dropWhile Text.isBlank) = true := by
  obtain ⟨r, hr, hsql⟩ := Predicate.exists_sql_eq h
  rw [hsql, List.append_assoc, List.cons_append, beginsTrueAnd_dropBlanks_append (hr.append _)]
  cases hexpr : e.isRaw with
  | true =>
    cases e with
    | raw s =>
      refine ⟨fun hbegins => ⟨s, rfl, hbegins⟩, ?_⟩
      rintro ⟨_, hs, hbegins⟩
      cases hs
      exact hbegins
    | name n => cases hexpr
    | value v => cases hexpr
  | false =>
    have hforeign := Expr.startsForeign_sql hexpr
    rw [dropWhile_isBlank hforeign.dark, beginsTrueAnd_of_foreign hforeign]
    refine iff_of_false Bool.false_ne_true ?_
    rintro ⟨s, rfl, -⟩
    cases hexpr

/-- The test of an empty list begins with the words when it is negated and goes on with `AND`. -/
theorem beginsTrueAnd_empty (e : Expr) (negated : Bool) (rest : List Condition) :
    beginsTrueAnd (((Predicate.member e [] negated).sql.toList ++
        rest.flatMap fun c => c.sql.toList).dropWhile Text.isBlank) = true ↔
      negated = true ∧ ∃ c ∈ rest.head?, c.connective = .and := by
  cases negated with
  | false =>
    have hsql : (Predicate.member e [] false).sql = "FALSE" := rfl
    rw [hsql]
    exact iff_of_false Bool.false_ne_true fun h => by cases h.1
  | true =>
    have hsql : (Predicate.member e [] true).sql = "TRUE" := rfl
    rw [and_iff_right rfl, hsql]
    cases rest with
    | nil => exact iff_of_false Bool.false_ne_true fun ⟨c, hc, _⟩ => by cases hc
    | cons c rest =>
      obtain ⟨connective, q⟩ := c
      have htext : "TRUE".toList ++ ((⟨connective, q⟩ :: rest).flatMap fun c => c.sql.toList) =
          "TRUE ".toList ++ (connective.keyword.toList ++ ' ' :: (q.sql.toList ++
            rest.flatMap fun c => c.sql.toList)) := by
        simp [sql]
      rw [htext]
      cases connective with
      | and => exact iff_of_true rfl ⟨_, rfl, rfl⟩
      | or =>
        refine iff_of_false Bool.false_ne_true ?_
        rintro ⟨c, hc, hand⟩
        obtain rfl := Option.some.inj hc
        cases hand

/-- The words stand behind the keyword of a clause when what it goes on with begins so. -/
theorem keepsSeed_eq {keyword clause : String} (hkw : keyword = "WHERE" ∨ keyword = "HAVING")
    {s : List Char} (h : clause.toList = keyword.toList ++ ' ' :: s) :
    keepsSeed keyword clause = beginsTrueAnd (s.dropWhile Text.isBlank) := by
  rw [keepsSeed, h]
  rcases hkw with rfl | rfl <;> rfl

/-- Another `TRUE AND` is left behind the one of the seed: the test of an empty list with an `AND`
behind it, or raw SQL. -/
def LeavesSeed (first : Condition) (rest : List Condition) : Prop :=
  first.connective = .and ∧
    ((∃ e, first.predicate = .member e [] true) ∧ (∃ c ∈ rest.head?, c.connective = .and) ∨
      ∃ s, first.predicate.exprs.head? = some (.raw s) ∧
        beginsTrueAnd (s.toList.dropWhile Text.isBlank) = true)

/-- How the conditions begin behind the seed. -/
theorem beginsTrueAnd_conditions {p : Predicate} (hraw : ∀ s, p ≠ .raw s) (rest : List Condition) :
    beginsTrueAnd
        ((p.sql.toList ++ rest.flatMap fun c => c.sql.toList).dropWhile Text.isBlank) = true ↔
      LeavesSeed ⟨.and, p⟩ rest := by
  rw [LeavesSeed, and_iff_right rfl]
  cases hhead : p.exprs.head? with
  | some e =>
    have hexpr : ¬∃ e, p = .member e [] true := by
      rintro ⟨e', rfl⟩
      cases hhead
    rw [beginsTrueAnd_expr hhead]
    simp [hexpr]
  | none =>
    obtain ⟨e, negated, rfl⟩ := Predicate.exists_eq_member hraw hhead
    rw [beginsTrueAnd_empty]
    simp

/-- The opening of a chain under its keyword. -/
theorem keepsSeed_chain {keyword : String} (hkw : keyword = "WHERE" ∨ keyword = "HAVING")
    {first : Condition} (hraw : ∀ s, first.predicate ≠ .raw s) (rest : List Condition) :
    (keyword ++ " ").toList <+: (chain keyword (first :: rest)).toList ∧
      (keepsSeed keyword (chain keyword (first :: rest)) = true ↔ first.LeavesSeed rest) := by
  have hchain := chain_eq_dropSeed hkw first rest
  obtain ⟨connective, p⟩ := first
  cases connective with
  | and =>
    have htext : (chain keyword (⟨.and, p⟩ :: rest)).toList = keyword.toList ++
        ' ' :: (p.sql.toList ++ rest.flatMap fun c => c.sql.toList).dropWhile Text.isBlank := by
      rw [hchain]
      simp [List.flatMap_map]
    refine ⟨by rw [htext]; simp, ?_⟩
    rw [keepsSeed_eq hkw htext, List.dropWhile_idempotent]
    exact beginsTrueAnd_conditions hraw rest
  | or =>
    have htext : (chain keyword (⟨.or, p⟩ :: rest)).toList = keyword.toList ++
        ' ' :: ("FALSE OR ".toList ++ (p.sql.toList ++ rest.flatMap fun c => c.sql.toList)) := by
      rw [hchain]
      simp [List.flatMap_map]
    refine ⟨by rw [htext]; simp, ?_⟩
    rw [keepsSeed_eq hkw htext]
    exact iff_of_false Bool.false_ne_true fun h => by cases h.1

/-- **How a clause opens.** When the first predicate is not raw SQL, both clauses begin with their
keyword and a space. In no case of letters does `TRUE AND` stand behind the keyword, unless the
conditions leave one there: the first one is the test that nothing of an empty list is met, joined
with `AND` to the next, or it begins with raw SQL that reads so. -/
theorem clauses_open {first : Condition} (hraw : ∀ s, first.predicate ≠ .raw s)
    (rest : List Condition) :
    ("WHERE ".toList <+: (whereClause (first :: rest)).toList ∧
        (keepsSeed "WHERE" (whereClause (first :: rest)) = true ↔ first.LeavesSeed rest)) ∧
      "HAVING ".toList <+: (havingClause (first :: rest)).toList ∧
        (keepsSeed "HAVING" (havingClause (first :: rest)) = true ↔ first.LeavesSeed rest) :=
  ⟨keepsSeed_chain (.inl rfl) hraw rest, keepsSeed_chain (.inr rfl) hraw rest⟩

/-- Nothing of an empty list is met, and a column has a value. -/
def emptyFirst : List Condition :=
  [⟨.and, .notIn (.name "a") []⟩, ⟨.and, .eq (.name "b") (.int 1)⟩]

/-- With an empty `NOT IN` in front the words are left, and behind another condition they are
not. -/
theorem clauses_open_emptyFirst :
    let first : Condition := ⟨.and, .within (.name "c") (.int 1) (.int 5)⟩
    whereClause emptyFirst = "WHERE TRUE AND `b` = 1" ∧
      keepsSeed "WHERE" (whereClause emptyFirst) = true ∧
      "HAVING ".toList <+: (havingClause (first :: emptyFirst)).toList ∧
      keepsSeed "HAVING" (havingClause (first :: emptyFirst)) = false := by
  intro first
  have hempty (s : String) : (Predicate.notIn (.name "a") []) ≠ .raw s := by
    intro h
    cases h
  have hfirst (s : String) : first.predicate ≠ .raw s := by
    intro h
    cases h
  have hleaves : (⟨.and, .notIn (.name "a") []⟩ : Condition).LeavesSeed
      [⟨.and, .eq (.name "b") (.int 1)⟩] :=
    ⟨rfl, .inl ⟨⟨_, rfl⟩, _, rfl, rfl⟩⟩
  obtain ⟨-, hstarts, hkeeps⟩ := clauses_open hfirst emptyFirst
  refine ⟨by decide +kernel, (clauses_open hempty _).1.2.2 hleaves, hstarts, ?_⟩
  rw [Bool.eq_false_iff, Ne, hkeeps]
  rintro ⟨-, ⟨⟨e, he⟩, -⟩ | ⟨s, hs, -⟩⟩
  · cases he
  · cases hs

/-- **A `TRUE AND` can be left** although no predicate is raw SQL: the negated test of an empty list
is `TRUE` itself, and only the seed is taken out. -/
theorem not_never_keepsSeed :
    ¬∀ (first : Condition) (rest : List Condition),
      (∀ c ∈ first :: rest, ∀ s, c.predicate ≠ .raw s) →
        keepsSeed "WHERE" (whereClause (first :: rest)) = false := by
  intro h
  have hkeeps := h ⟨.and, .notIn (.name "a") []⟩ [⟨.and, .eq (.name "b") (.int 1)⟩] ?_
  · revert hkeeps
    decide +kernel
  · intro c hc s hs
    simp only [List.mem_cons, List.not_mem_nil, or_false] at hc
    rcases hc with rfl | rfl
    · cases hs
    · cases hs

end Condition

end SqlBridge
