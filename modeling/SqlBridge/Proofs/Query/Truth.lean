import SqlBridge.Proofs.Query.Condition
import SqlBridge.Proofs.Sql.Truth
import SqlBridge.Query.Basic

/-!
# What a chain of conditions means

A chain is written without parentheses, so `AND` binds tighter than `OR` in it. Its alternatives
(`Condition.alternatives`) are the runs of predicates that begin at the first condition and at each
one joined by `OR`; `Condition.clause_chain` says that a row makes of the text what it makes of
these alternatives.

A condition joined by `OR` is one more alternative, and one joined by `AND` is one more predicate of
the last alternative: it does not restrict the alternatives before (`Query.satisfies_where`).
-/

namespace SqlBridge

open Sql

/-! ## Predicates are atoms -/

/-- No name has a token that means something to the reader of a condition. -/
theorem Name.isPlain_tokens (n : String) : ∀ t ∈ Name.tokens n, t.isPlain := by
  refine forall_mem_intercalate (by decide) fun ts hts => ?_
  obtain ⟨s, -, rfl⟩ := List.mem_map.1 hts
  intro t ht
  rw [List.mem_singleton.1 ht, segmentToken]
  split
  · decide
  · rfl

/-- The tokens of a number are neither parentheses nor words that join predicates. -/
theorem Numeral.isPlain_tokens (s : String) : ∀ t ∈ Numeral.tokens s, t.isPlain := by
  unfold Numeral.tokens
  split <;> simp [Token.isPlain, Token.isKeyword]

/-- The tokens of a value are neither parentheses nor words that join predicates. -/
theorem Value.isPlain_tokens (v : Value) : ∀ t ∈ v.tokens, t.isPlain := by
  cases v with
  | null => decide
  | bool | string | text | bytes | json | date | time | dateTime =>
    simp [Value.tokens, Token.isPlain, Token.isKeyword]
  | _ =>
    simp only [Value.tokens]
    split
    · exact Numeral.isPlain_tokens _
    · simp [Token.isPlain, Token.isKeyword]

/-- The tokens of an expression are neither parentheses nor words that join predicates. -/
theorem Expr.isPlain_tokens (e : Expr) : ∀ t ∈ e.tokens, t.isPlain := by
  cases e with
  | raw s => simp [Expr.tokens]
  | name n => exact Name.isPlain_tokens n
  | value v => exact v.isPlain_tokens

/-- A name has a token for each of its segments, and it has at least one. -/
theorem Name.tokens_ne_nil (n : String) : Name.tokens n ≠ [] := by
  obtain ⟨s, l, hl⟩ := List.exists_cons_of_ne_nil (segments_ne_nil n.toList)
  cases l <;> simp [Name.tokens, segmentTokens, hl]

/-- A value has a token. -/
theorem Value.tokens_ne_nil (v : Value) : v.tokens ≠ [] := by
  have hnumeral (s : String) : Numeral.tokens s ≠ [] := by
    unfold Numeral.tokens
    split <;> simp
  unfold Value.tokens
  split <;> try split
  all_goals simp [hnumeral]

/-- An expression that is not raw has a token. -/
theorem Expr.tokens_ne_nil {e : Expr} (h : e.isRaw = false) : e.tokens ≠ [] := by
  cases e with
  | raw s => simp [Expr.isRaw] at h
  | name n => exact Name.tokens_ne_nil n
  | value v => exact v.tokens_ne_nil

namespace Predicate

/-- What a row makes of a predicate; nothing is in an empty list. -/
def truth (row : Row) : Predicate → Truth
  | member _ [] negated => if negated then .yes else .no
  | p => row p.tokens

/-- **The reader takes a predicate as one atom.** -/
theorem unbroken_tokens (p : Predicate) : Unbroken p.tokens := by
  have hexpr (e : Expr) : Unbroken e.tokens := .plain e.isPlain_tokens
  cases p with
  | raw s => exact .plain (by simp [tokens])
  | compare left op right =>
    have hop : Unbroken op.tokens := .plain (by cases op <;> decide)
    exact ((hexpr left).append hop).append (hexpr right)
  | isNull e => exact (hexpr e).append (.plain (by decide))
  | isNotNull e => exact (hexpr e).append (.plain (by decide))
  | member e values negated =>
    rw [tokens]
    split
    · exact .plain (by cases negated <;> decide)
    · have hin : Unbroken (if negated then [.word "NOT", .word "IN"] else [.word "IN"]) :=
        .plain (by cases negated <;> decide)
      have hlist : ∀ t ∈ commaTokens (values.map Expr.tokens), t.isPlain := by
        refine forall_mem_intercalate (by decide) fun ts hts => ?_
        obtain ⟨e, -, rfl⟩ := List.mem_map.1 hts
        exact e.isPlain_tokens
      exact ((hexpr e).append hin).append (.parens hlist)
  | between e low high =>
    have hbetween := Unbroken.between low.isPlain_tokens high.isPlain_tokens
    have happend := (hexpr e).append hbetween
    simpa [tokens] using happend

/-- What a row makes of a predicate's text is what it makes of the predicate. -/
theorem atom_tokens (row : Row) {p : Predicate} (h : p.hasRaw = false) :
    row.atom p.tokens = p.truth row := by
  cases p with
  | raw s => simp [hasRaw] at h
  | compare left op right =>
    simp only [hasRaw, Bool.or_eq_false_iff] at h
    exact row.atom_append (by simp [Expr.tokens_ne_nil h.1]) (Expr.tokens_ne_nil h.2)
  | isNull e => exact row.atom_append (Expr.tokens_ne_nil h) (by simp)
  | isNotNull e => exact row.atom_append (Expr.tokens_ne_nil h) (by simp)
  | member e values negated =>
    cases values with
    | nil => cases negated <;> rfl
    | cons v values =>
      simp only [hasRaw, Bool.or_eq_false_iff] at h
      exact row.atom_append (by simp [Expr.tokens_ne_nil h.1]) (by simp)
  | between e low high =>
    simp only [hasRaw, Bool.or_eq_false_iff] at h
    exact row.atom_append (by simp) (by simp)

end Predicate

/-! ## Chains -/

namespace Condition

/-- The alternatives from a condition on, with the predicates of the current one so far. -/
def alternativesFrom (group : List Predicate) : List Condition → List (List Predicate)
  | [] => [group]
  | ⟨.and, p⟩ :: rest => alternativesFrom (group ++ [p]) rest
  | ⟨.or, p⟩ :: rest => group :: alternativesFrom [p] rest

/-- The alternatives of a chain: the runs of predicates that begin at the first condition and at
each one joined by `OR`. -/
def alternatives : List Condition → List (List Predicate)
  | [] => []
  | first :: rest => alternativesFrom [first.predicate] rest

/-- What a row makes of alternatives. -/
def truth (row : Row) (groups : List (List Predicate)) : Truth :=
  .any (groups.map fun group => .all (group.map (Predicate.truth row)))

/-- Conditions hold when all predicates of some group do. -/
theorem truth_eq_yes_iff {row : Row} {groups : List (List Predicate)} :
    truth row groups = .yes ↔ ∃ group ∈ groups, ∀ p ∈ group, p.truth row = .yes := by
  rw [truth, Truth.any_eq_yes_iff, List.mem_map]
  refine exists_congr fun group => and_congr_right fun _ => ?_
  rw [Truth.all_eq_yes_iff, List.forall_mem_map]

/-- Behind an atom the reader finds the alternatives of the conditions that follow. -/
theorem alternatives_tokens {r : Reading} {group : List Predicate} (hdepth : r.depth = 0)
    (hawaits : r.awaitsAnd = false) (hgroup : r.next.group = group.map Predicate.tokens)
    (rest : List Condition) :
    Sql.alternatives r (rest.flatMap tokens) =
      (alternativesFrom group rest).map (·.map Predicate.tokens) := by
  induction rest generalizing r group with
  | nil => simp [Sql.alternatives, alternativesFrom, hgroup]
  | cons c rest ih =>
    obtain ⟨connective, p⟩ := c
    cases connective with
    | and =>
      have hnext : (r.next.extend p.tokens).next.group = (group ++ [p]).map Predicate.tokens := by
        rw [List.map_append, ← hgroup]
        rfl
      rw [List.flatMap_cons, tokens, List.cons_append]
      refine (alternatives_and hdepth hawaits _).trans ?_
      rw [p.unbroken_tokens r.next _ rfl rfl, ih rfl rfl hnext]
      rfl
    | or =>
      rw [List.flatMap_cons, tokens, List.cons_append]
      refine (alternatives_or hdepth _).trans ?_
      have hrest : Sql.alternatives (Reading.start.extend p.tokens) (rest.flatMap tokens) =
          (alternativesFrom [p] rest).map (·.map Predicate.tokens) := ih rfl rfl rfl
      rw [p.unbroken_tokens .start _ rfl rfl, hrest, hgroup]
      rfl

/-- What a row makes of alternatives that the reader finds is what it makes of their predicates. -/
theorem truth_tokens (row : Row) {groups : List (List Predicate)}
    (h : ∀ group ∈ groups, ∀ p ∈ group, p.hasRaw = false) :
    .any ((groups.map (·.map Predicate.tokens)).map fun group => .all (group.map row.atom)) =
      truth row groups := by
  rw [truth, List.map_map]
  congr 1
  refine List.map_congr_left fun group hgroup => ?_
  simp only [Function.comp_apply, List.map_map]
  congr 1
  exact List.map_congr_left fun p hp => p.atom_tokens row (h group hgroup p hp)

/-- Every predicate of an alternative is one of the chain. -/
theorem mem_alternativesFrom {rest : List Condition} {group g : List Predicate} {p : Predicate}
    (hg : g ∈ alternativesFrom group rest) (hp : p ∈ g) :
    p ∈ group ∨ ∃ c ∈ rest, c.predicate = p := by
  induction rest generalizing group with
  | nil =>
    rw [List.mem_singleton.1 hg] at hp
    exact .inl hp
  | cons c rest ih =>
    obtain ⟨connective, q⟩ := c
    cases connective with
    | and =>
      rcases ih hg with hmem | ⟨c, hc, rfl⟩
      · rcases List.mem_append.1 hmem with hmem | hmem
        · exact .inl hmem
        · exact .inr ⟨_, .head _, (List.mem_singleton.1 hmem).symm⟩
      · exact .inr ⟨c, .tail _ hc, rfl⟩
    | or =>
      rcases List.mem_cons.1 hg with rfl | hg
      · exact .inl hp
      · rcases ih hg with hmem | ⟨c, hc, rfl⟩
        · exact .inr ⟨_, .head _, (List.mem_singleton.1 hmem).symm⟩
        · exact .inr ⟨c, .tail _ hc, rfl⟩

/-- What a row makes of a predicate and the conditions behind it is what it makes of their
alternatives. -/
theorem condition_tokens (row : Row) {p : Predicate} (hp : p.hasRaw = false) {rest : List Condition}
    (h : ∀ c ∈ rest, c.predicate.hasRaw = false) :
    row.condition (p.tokens ++ rest.flatMap tokens) = truth row (alternativesFrom [p] rest) := by
  have hraw : ∀ g ∈ alternativesFrom [p] rest, ∀ q ∈ g, q.hasRaw = false := by
    intro g hg q hq
    rcases mem_alternativesFrom hg hq with hmem | ⟨c, hc, rfl⟩
    · rw [List.mem_singleton.1 hmem]
      exact hp
    · exact h c hc
  have hread : Sql.alternatives .start (p.tokens ++ rest.flatMap tokens) =
      (alternativesFrom [p] rest).map (·.map Predicate.tokens) := by
    rw [p.unbroken_tokens .start _ rfl rfl]
    exact alternatives_tokens rfl rfl rfl rest
  rw [Row.condition, hread, truth_tokens row hraw]

/-- The seed in front of a connective as a predicate: nothing is in an empty list, and everything is
outside of it. -/
def seed (k : Connective) : Predicate := .member (.name "") [] (k = .and)

/-- The seed of `OR` is an alternative of its own, which no row satisfies. -/
theorem truth_seed_or (row : Row) (p : Predicate) (rest : List Condition) :
    truth row (alternativesFrom [seed .or] (⟨.or, p⟩ :: rest)) =
      truth row (alternativesFrom [p] rest) :=
  Truth.no_or _

/-- **What a row makes of a chain's text is what it makes of the chain's alternatives**, whichever
connective the first condition has. -/
theorem clause_chain {keyword : String} (hkw : keyword = "WHERE" ∨ keyword = "HAVING") (row : Row)
    {conditions : List Condition} (hne : conditions ≠ [])
    (h : ∀ c ∈ conditions, c.predicate.hasRaw = false) :
    row.clause (chain keyword conditions) = some (truth row (alternatives conditions)) := by
  obtain ⟨⟨connective, p⟩, rest, rfl⟩ := List.exists_cons_of_ne_nil hne
  have hp : p.hasRaw = false := h ⟨connective, p⟩ (by simp)
  have hrest : ∀ c ∈ rest, c.predicate.hasRaw = false := fun c hc => h c (by simp [hc])
  rw [Row.clause, (spells_chain hkw h).tokens_eq]
  simp only [chainTokens, List.cons_append, Option.some.injEq]
  cases connective with
  | and => exact condition_tokens row hp hrest
  | or => exact (condition_tokens row (p := seed .or) rfl h).trans (truth_seed_or row p rest)

/-- A condition joined by `OR` is one more alternative. -/
theorem alternativesFrom_append_or (group : List Predicate) (rest : List Condition)
    (p : Predicate) :
    alternativesFrom group (rest ++ [⟨.or, p⟩]) = alternativesFrom group rest ++ [[p]] := by
  induction rest generalizing group with
  | nil => rfl
  | cons c rest ih =>
    obtain ⟨connective, q⟩ := c
    cases connective with
    | and => exact ih _
    | or => exact congrArg (group :: ·) (ih _)

/-- A condition joined by `AND` is one more predicate of the last alternative. -/
theorem alternativesFrom_append_and (group : List Predicate) (rest : List Condition)
    (p : Predicate) :
    ∃ groups last, alternativesFrom group rest = groups ++ [last] ∧
      alternativesFrom group (rest ++ [⟨.and, p⟩]) = groups ++ [last ++ [p]] := by
  induction rest generalizing group with
  | nil => exact ⟨[], group, rfl, rfl⟩
  | cons c rest ih =>
    obtain ⟨connective, q⟩ := c
    cases connective with
    | and => exact ih _
    | or =>
      obtain ⟨groups, last, heq, happend⟩ := ih [q]
      exact ⟨group :: groups, last, congrArg (group :: ·) heq, congrArg (group :: ·) happend⟩

end Condition

/-! ## Adding a condition -/

namespace Query

/-- A row satisfies a query's `WHERE` when it satisfies one of the alternatives. -/
theorem satisfies_whereClause_iff {conditions : List Condition} (hne : conditions ≠ [])
    (h : ∀ c ∈ conditions, c.predicate.hasRaw = false) (row : Row) :
    row.Satisfies (Condition.whereClause conditions) ↔
      ∃ group ∈ Condition.alternatives conditions, ∀ p ∈ group, p.truth row = .yes := by
  rw [Row.Satisfies, Condition.whereClause, Condition.clause_chain (.inl rfl) row hne h,
    Option.some.injEq, Condition.truth_eq_yes_iff]

/-- **What a condition that is added does to the rows that a query chooses.** Joined by `OR` it adds
the rows that satisfy it. Joined by `AND` it keeps those that satisfy it and those that satisfy an
alternative before the last one, which it does not restrict; where there is only one alternative it
keeps exactly the rows that satisfy it. -/
theorem satisfies_where_added {q : Query} {p : Predicate} (hne : q.conditions ≠ [])
    (hq : ∀ c ∈ q.conditions, c.predicate.hasRaw = false) (hp : p.hasRaw = false) (row : Row) :
    (row.Satisfies (Condition.whereClause (q.orWhere p).conditions) ↔
        row.Satisfies (Condition.whereClause q.conditions) ∨ p.truth row = .yes) ∧
      (row.Satisfies (Condition.whereClause (q.andWhere p).conditions) ↔
        row.Satisfies (Condition.whereClause q.conditions) ∧
          (p.truth row = .yes ∨
            ∃ group ∈ (Condition.alternatives q.conditions).dropLast,
              ∀ x ∈ group, x.truth row = .yes)) := by
  have hraw (connective : Connective) :
      ∀ c ∈ q.conditions ++ [⟨connective, p⟩], c.predicate.hasRaw = false := by
    intro c hc
    rcases List.mem_append.1 hc with hc | hc
    · exact hq c hc
    · rw [List.mem_singleton.1 hc]
      exact hp
  rw [satisfies_whereClause_iff hne hq]
  obtain ⟨first, rest, hcons⟩ := List.exists_cons_of_ne_nil hne
  constructor
  · have hor : Condition.alternatives (q.conditions ++ [⟨.or, p⟩]) =
        Condition.alternatives q.conditions ++ [[p]] := by
      rw [hcons]
      exact Condition.alternativesFrom_append_or [first.predicate] rest p
    rw [orWhere, satisfies_whereClause_iff (by simp) (hraw .or), hor]
    simp [or_and_right, exists_or]
  · obtain ⟨groups, last, hgroups, hand⟩ :=
      Condition.alternativesFrom_append_and [first.predicate] rest p
    have hgroups : Condition.alternatives q.conditions = groups ++ [last] := by
      rw [hcons]
      exact hgroups
    have hand : Condition.alternatives (q.conditions ++ [⟨.and, p⟩]) = groups ++ [last ++ [p]] := by
      rw [hcons]
      exact hand
    rw [andWhere, satisfies_whereClause_iff (by simp) (hraw .and), hand, hgroups,
      List.dropLast_concat]
    constructor
    · rintro ⟨group, hgroup, hyes⟩
      rcases List.mem_append.1 hgroup with hgroup | hgroup
      · exact ⟨⟨group, by simp [hgroup], hyes⟩, .inr ⟨group, hgroup, hyes⟩⟩
      · rw [List.mem_singleton.1 hgroup] at hyes
        exact ⟨⟨last, by simp, fun x hx => hyes x (by simp [hx])⟩, .inl (hyes p (by simp))⟩
    · rintro ⟨⟨group, hgroup, hyes⟩, hp | ⟨earlier, hearlier, hyes'⟩⟩
      · rcases List.mem_append.1 hgroup with hgroup | hgroup
        · exact ⟨group, by simp [hgroup], hyes⟩
        · rw [List.mem_singleton.1 hgroup] at hyes
          refine ⟨last ++ [p], by simp, fun x hx => ?_⟩
          rcases List.mem_append.1 hx with hx | hx
          · exact hyes x hx
          · rw [List.mem_singleton.1 hx]
            exact hp
      · exact ⟨earlier, by simp [hearlier], hyes'⟩

/-- Two alternatives. -/
def eitherOr : Query :=
  { ofTable "t" with
    conditions := [⟨.and, .eq (.name "a") (.int 1)⟩, ⟨.or, .eq (.name "b") (.int 2)⟩] }

/-- A restriction meant for both. -/
def restriction : Predicate := .eq (.name "c") (.int 3)

/-- A row of which one predicate is true and no other. -/
def rowOnly (p : Predicate) : Row := fun ts => if ts = p.tokens then .yes else .no

/-- The last alternative is restricted: a row that satisfies only this one is lost. -/
theorem satisfies_where_added_last :
    let row := rowOnly (.eq (.name "b") (.int 2))
    row.Satisfies (Condition.whereClause eitherOr.conditions) ∧
      row.Satisfies (Condition.whereClause (eitherOr.orWhere restriction).conditions) ∧
      ¬row.Satisfies (Condition.whereClause (eitherOr.andWhere restriction).conditions) := by
  intro row
  have hboth := satisfies_where_added (q := eitherOr) (p := restriction) (by simp [eitherOr])
    (by simp [eitherOr, Predicate.eq, Predicate.hasRaw, Expr.isRaw])
    (by simp [restriction, Predicate.eq, Predicate.hasRaw, Expr.isRaw]) row
  have hrow : row.Satisfies (Condition.whereClause eitherOr.conditions) := by decide +kernel
  refine ⟨hrow, hboth.1.2 (.inl hrow), fun hand => ?_⟩
  have hneither : ¬(restriction.truth row = .yes ∨
      ∃ group ∈ (Condition.alternatives eitherOr.conditions).dropLast,
        ∀ x ∈ group, x.truth row = .yes) := by decide +kernel
  exact hneither (hboth.2.1 hand).2

/-- An alternative before the last one is not restricted: a row that satisfies it is chosen whatever
it makes of the condition that is added. -/
theorem not_satisfies_andWhere_iff :
    ¬∀ (q : Query) (p : Predicate) (row : Row), q.conditions ≠ [] →
      (∀ c ∈ q.conditions, c.predicate.hasRaw = false) → p.hasRaw = false →
      (row.Satisfies (Condition.whereClause (q.andWhere p).conditions) ↔
          row.Satisfies (Condition.whereClause q.conditions) ∧ p.truth row = .yes) ∧
        (row.Satisfies (Condition.whereClause (q.orWhere p).conditions) ↔
          row.Satisfies (Condition.whereClause q.conditions) ∨ p.truth row = .yes) := by
  intro hall
  let row := rowOnly (.eq (.name "a") (.int 1))
  have hboth := hall eitherOr restriction row (by simp [eitherOr])
    (by simp [eitherOr, Predicate.eq, Predicate.hasRaw, Expr.isRaw])
    (by simp [restriction, Predicate.eq, Predicate.hasRaw, Expr.isRaw])
  have hrow : row.Satisfies (Condition.whereClause (eitherOr.andWhere restriction).conditions) := by
    decide +kernel
  have hno : restriction.truth row = .no := by decide +kernel
  exact absurd (hno.symm.trans (hboth.1.1 hrow).2) (by decide)

end Query

end SqlBridge
