import SqlBridge.Proofs.Sql.Escape
import SqlBridge.Query.Condition

/-!
# The tokens of predicates and chains of conditions

`Predicate.tokens` and `Condition.chainTokens` say what a predicate and a chain without raw SQL are
meant to be as tokens; `Predicate.spells_sql` and `Condition.spells_chain` say that their texts
spell them.

A chain is rendered behind a seed. The seed `TRUE` is taken out again together with the connective
behind it (`Condition.chain_eq`), which works out because the first predicate does not start with a
blank; the seed `FALSE` stays.
-/

namespace SqlBridge

open Sql

/-- Entries with commas between them. -/
def commaTokens (l : List (List Token)) : List Token := [Token.sign ","].intercalate l

/-! ## Expressions -/

/-- The tokens of an expression; raw SQL has none of its own. -/
def Expr.tokens : Expr → List Token
  | .raw _ => []
  | .name n => Name.tokens n
  | .value v => v.tokens

/-- Names and values spell their tokens. -/
theorem Expr.spells_sql {e : Expr} (h : e.isRaw = false) : Spells e.sql e.tokens := by
  cases e with
  | raw sql => simp [Expr.isRaw] at h
  | name n => exact Name.spells_escape n
  | value v => exact v.spells_literal

/-- The entries of a list of names and values spell their tokens. -/
theorem Expr.spells_list {l : List Expr} (hne : l.isEmpty = false) (h : ∀ e ∈ l, e.isRaw = false) :
    Spells (", ".intercalate (l.map Expr.sql)) (commaTokens (l.map Expr.tokens)) :=
  Spells.commaList (by simpa using hne) fun e he => Expr.spells_sql (h e he)

/-! ## Predicates -/

/-- The tokens of a comparison's sign. -/
def CompareOp.tokens : CompareOp → List Token
  | eq => [.sign "="]
  | ne => [.sign "!="]
  | lt => [.sign "<"]
  | le => [.sign "<="]
  | gt => [.sign ">"]
  | ge => [.sign ">="]
  | like => [.word "LIKE"]
  | notLike => [.word "NOT", .word "LIKE"]

/-- The tokens of a predicate. -/
def Predicate.tokens : Predicate → List Token
  | raw _ => []
  | compare left op right => left.tokens ++ op.tokens ++ right.tokens
  | isNull e => e.tokens ++ [.word "IS", .word "NULL"]
  | isNotNull e => e.tokens ++ [.word "IS", .word "NOT", .word "NULL"]
  | member e values negated =>
    if values.isEmpty then [.word (if negated then "TRUE" else "FALSE")]
    else
      e.tokens ++ (if negated then [.word "NOT", .word "IN"] else [.word "IN"]) ++
        .sign "(" :: (commaTokens (values.map Expr.tokens) ++ [.sign ")"])
  | between e low high =>
    e.tokens ++ .word "BETWEEN" :: low.tokens ++ .word "AND" :: high.tokens

/-- The sign of a comparison spells its tokens. -/
theorem CompareOp.spells_sign (op : CompareOp) : Spells op.sign op.tokens := by
  cases op with
  | eq => exact Sql.spells_sign '=' rfl ⟨rfl, rfl⟩
  | ne => exact spells_sign_pair '!' '=' rfl rfl ⟨rfl, rfl⟩ ⟨rfl, rfl⟩
  | lt => exact Sql.spells_sign '<' rfl ⟨rfl, rfl⟩
  | le => exact spells_sign_pair '<' '=' rfl rfl ⟨rfl, rfl⟩ ⟨rfl, rfl⟩
  | gt => exact Sql.spells_sign '>' rfl ⟨rfl, rfl⟩
  | ge => exact spells_sign_pair '>' '=' rfl rfl ⟨rfl, rfl⟩ ⟨rfl, rfl⟩
  | like => exact spells_word "LIKE" rfl
  | notLike => exact (spells_word "NOT" rfl).space (spells_word "LIKE" rfl)

/-- A predicate over names and values spells its tokens. -/
theorem Predicate.spells_sql {p : Predicate} (h : p.hasRaw = false) : Spells p.sql p.tokens := by
  cases p with
  | raw s => simp [hasRaw] at h
  | compare left op right =>
    simp only [hasRaw, Bool.or_eq_false_iff] at h
    exact ((Expr.spells_sql h.1).space op.spells_sign).space (Expr.spells_sql h.2)
  | isNull e =>
    have hspells := ((Expr.spells_sql h).space (spells_word "IS" rfl)).space
      (spells_word "NULL" rfl)
    simpa [sql, tokens, String.append_assoc] using hspells
  | isNotNull e =>
    have hspells := (((Expr.spells_sql h).space (spells_word "IS" rfl)).space
      (spells_word "NOT" rfl)).space (spells_word "NULL" rfl)
    simpa [sql, tokens, String.append_assoc] using hspells
  | member e values negated =>
    simp only [hasRaw, Bool.or_eq_false_iff, List.any_eq_false, Bool.not_eq_true] at h
    cases hempty : values.isEmpty with
    | true =>
      cases negated
      · simpa [sql, tokens, hempty] using spells_word "FALSE" rfl
      · simpa [sql, tokens, hempty] using spells_word "TRUE" rfl
    | false =>
      have hlist := (Expr.spells_list hempty h.2).parens
      have hin : ∀ s : String, " IN " ++ ("(" ++ s) = " IN (" ++ s := by
        simp [← String.append_assoc]
      have hnotIn : ∀ s : String, " NOT IN " ++ ("(" ++ s) = " NOT IN (" ++ s := by
        simp [← String.append_assoc]
      cases negated
      · have hspells := ((Expr.spells_sql h.1).space (spells_word "IN" rfl)).space hlist
        simpa [sql, tokens, hempty, String.append_assoc, hin] using hspells
      · have hspells := (((Expr.spells_sql h.1).space (spells_word "NOT" rfl)).space
          (spells_word "IN" rfl)).space hlist
        simpa [sql, tokens, hempty, String.append_assoc, hnotIn] using hspells
  | between e low high =>
    simp only [hasRaw, Bool.or_eq_false_iff] at h
    have hspells := ((((Expr.spells_sql h.1.1).space (spells_word "BETWEEN" rfl)).space
      (Expr.spells_sql h.1.2)).space (spells_word "AND" rfl)).space (Expr.spells_sql h.2)
    simpa [sql, tokens, String.append_assoc] using hspells

/-! ## Chains of conditions -/

namespace Condition

/-- The tokens of a condition behind others. -/
def tokens (c : Condition) : List Token := .word c.connective.keyword :: c.predicate.tokens

/-- What is left of the seed in front of the first predicate. -/
def seedTokens : Connective → List Token
  | .and => []
  | .or => [.word "FALSE", .word "OR"]

/-- The tokens of a chain under a keyword; none for no conditions. -/
def chainTokens (keyword : String) : List Condition → List Token
  | [] => []
  | first :: rest =>
    .word keyword :: seedTokens first.connective ++ first.predicate.tokens ++ rest.flatMap tokens

/-- What is left of the seed as a text, with its space. -/
def seedText : Connective → String
  | .and => " "
  | .or => " FALSE OR "

/-- Blanks behind a seed end where the first predicate begins. -/
theorem dropWhile_isBlank {s : List Char} (h : StartsDark s) : s.dropWhile Text.isBlank = s := by
  obtain ⟨c, r, rfl, hc⟩ := h
  simp [hc]

/-- The pattern finds a `TRUE` with its connective and takes the blanks behind it as well. -/
theorem dropSeed_true (s : List Char) :
    dropSeed ("WHERE TRUE AND ".toList ++ s) = "WHERE ".toList ++ s.dropWhile Text.isBlank ∧
      dropSeed ("HAVING TRUE AND ".toList ++ s) = "HAVING ".toList ++ s.dropWhile Text.isBlank :=
  ⟨rfl, rfl⟩

/-- The pattern does not find a `FALSE`. -/
theorem dropSeed_false (s : List Char) :
    dropSeed ("WHERE FALSE".toList ++ s) = "WHERE FALSE".toList ++ s ∧
      dropSeed ("HAVING FALSE".toList ++ s) = "HAVING FALSE".toList ++ s :=
  ⟨rfl, rfl⟩

/-- **A `TRUE` at the start disappears together with its connective, and a `FALSE` stays.** -/
theorem chain_eq {keyword : String} (hkw : keyword = "WHERE" ∨ keyword = "HAVING")
    {first : Condition} (hdark : StartsDark first.predicate.sql.toList) (rest : List Condition) :
    chain keyword (first :: rest) =
      keyword ++ seedText first.connective ++ first.predicate.sql ++
        String.join (rest.map sql) := by
  -- the text behind the seed and its connective
  let body := first.predicate.sql.toList ++ rest.flatMap fun c => c.sql.toList
  have hdrop : body.dropWhile Text.isBlank = body := dropWhile_isBlank (hdark.append _)
  rw [← String.toList_inj, chain, String.toList_ofList]
  cases hc : first.connective with
  | and =>
    have hseeded : (seededChain keyword first rest).toList =
        keyword.toList ++ " TRUE AND ".toList ++ body := by
      simp [seededChain, hc, Connective.seed, Connective.keyword, sql, body, List.flatMap_map]
    rw [hseeded]
    rcases hkw with rfl | rfl
    · refine (dropSeed_true body).1.trans ?_
      rw [hdrop]
      simp [seedText, body, List.flatMap_map]
    · refine (dropSeed_true body).2.trans ?_
      rw [hdrop]
      simp [seedText, body, List.flatMap_map]
  | or =>
    have hseeded : (seededChain keyword first rest).toList =
        keyword.toList ++ " FALSE".toList ++ (" OR ".toList ++ body) := by
      simp [seededChain, hc, Connective.seed, Connective.keyword, sql, body, List.flatMap_map]
    rw [hseeded]
    rcases hkw with rfl | rfl
    · refine (dropSeed_false _).1.trans ?_
      simp [seedText, body, List.flatMap_map]
    · refine (dropSeed_false _).2.trans ?_
      simp [seedText, body, List.flatMap_map]

/-- The keyword of a chain spells itself. -/
theorem spells_keyword {keyword : String} (hkw : keyword = "WHERE" ∨ keyword = "HAVING") :
    Spells keyword [.word keyword] := by
  rcases hkw with rfl | rfl
  · exact spells_word "WHERE" rfl
  · exact spells_word "HAVING" rfl

/-- The further conditions of a chain spell their tokens behind what stands before. -/
theorem spells_append {s : String} {ts : List Token} (hs : Spells s ts) {rest : List Condition}
    (h : ∀ c ∈ rest, c.predicate.hasRaw = false) :
    Spells (s ++ String.join (rest.map sql)) (ts ++ rest.flatMap tokens) := by
  induction rest generalizing s ts with
  | nil => simpa using hs
  | cons c rest ih =>
    have hkw : Spells c.connective.keyword [.word c.connective.keyword] := by
      cases c.connective
      · exact spells_word "AND" rfl
      · exact spells_word "OR" rfl
    have hc := (hs.space hkw).space (Predicate.spells_sql (h c (by simp)))
    have hrest := ih hc fun x hx => h x (by simp [hx])
    simpa [sql, tokens, String.append_assoc] using hrest

/-- **A chain of conditions spells its tokens**, the seed `TRUE` left out. -/
theorem spells_chain {keyword : String} (hkw : keyword = "WHERE" ∨ keyword = "HAVING")
    {first : Condition} {rest : List Condition}
    (h : ∀ c ∈ first :: rest, c.predicate.hasRaw = false) :
    Spells (chain keyword (first :: rest)) (chainTokens keyword (first :: rest)) := by
  have hfirst := Predicate.spells_sql (h first (by simp))
  have hword := spells_keyword hkw
  have hhead : Spells (keyword ++ seedText first.connective ++ first.predicate.sql)
      (.word keyword :: seedTokens first.connective ++ first.predicate.tokens) := by
    cases first.connective with
    | and => exact hword.space hfirst
    | or =>
      have hspells := ((hword.space (spells_word "FALSE" rfl)).space
        (spells_word "OR" rfl)).space hfirst
      simpa [seedText, seedTokens, String.append_assoc] using hspells
  rw [chain_eq hkw hfirst.dark]
  exact spells_append hhead fun c hc => h c (by simp [hc])

/-- A chain is missing when there are no conditions, and spells its tokens otherwise. -/
theorem spellsPart_chain {keyword : String} (hkw : keyword = "WHERE" ∨ keyword = "HAVING")
    {conditions : List Condition} (h : ∀ c ∈ conditions, c.predicate.hasRaw = false) :
    SpellsPart (chain keyword conditions) (chainTokens keyword conditions) := by
  cases conditions with
  | nil => exact .missing
  | cons first rest => exact .plain (spells_chain hkw h)

end Condition

end SqlBridge
