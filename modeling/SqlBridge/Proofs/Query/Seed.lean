import Mathlib.Data.List.SplitBy
import SqlBridge.Proofs.Query.Truth

/-!
# The seed of a chain

A chain is rendered behind a seed, which the first connective joins to the first predicate: `TRUE
AND` or `FALSE OR`. Of these the first is taken out of the text again and the second one stays.
Neither matters to a row. The seed reads as a predicate over an empty list (`Condition.seed`), so
the seeded text is a chain with one predicate more, and `Condition.truth_seeded` says that this one
has no effect.

`Condition.clauses_truth` puts it together: both clauses, their seeded texts, and the clauses with
another first connective all come out as the disjunction, over the runs of conditions that begin at
the first one and at each one joined by `OR`, of the conjunction of each run.
-/

namespace SqlBridge.Condition

open Sql

/-! ## Runs of conditions -/

/-- The condition goes on with the run of the one before it. -/
def continues (_ c : Condition) : Bool := c.connective = .and

/-- The alternatives from a run on are the runs of all conditions together. -/
theorem alternativesFrom_eq_splitBy {run : List Condition} (hne : run ≠ [])
    (hrun : run.IsChain (continues · ·)) (rest : List Condition) :
    alternativesFrom (run.map predicate) rest =
      ((run ++ rest).splitBy continues).map (·.map predicate) := by
  induction rest generalizing run with
  | nil =>
    rw [List.append_nil, List.splitBy_of_isChain hne hrun, alternativesFrom, List.map_singleton]
  | cons c rest ih =>
    obtain ⟨connective, p⟩ := c
    cases connective with
    | and =>
      have hlonger : (run ++ [(⟨.and, p⟩ : Condition)]).IsChain (continues · ·) :=
        hrun.append (.singleton _) (by simp [continues])
      have hrest := ih (by simp) hlonger
      simpa [alternativesFrom] using hrest
    | or =>
      have hsplit : (run ++ ⟨.or, p⟩ :: rest).splitBy continues =
          run.splitBy continues ++ ((⟨.or, p⟩ : Condition) :: rest).splitBy continues :=
        List.splitBy_append_cons rest fun x _ => rfl
      have hrest := @ih [⟨.or, p⟩] (by simp) (.singleton _)
      rw [alternativesFrom, hsplit, List.splitBy_of_isChain hne hrun]
      exact congrArg (run.map predicate :: ·) hrest

/-- **The alternatives of a chain are the runs of its conditions**, each of which begins at the
first condition or at one joined by `OR`. -/
theorem alternatives_eq_splitBy (conditions : List Condition) :
    alternatives conditions = (conditions.splitBy continues).map (·.map predicate) := by
  cases conditions with
  | nil => rfl
  | cons first rest =>
    have hrun : [first] ≠ [] := by simp
    exact alternativesFrom_eq_splitBy hrun (.singleton _) rest

/-! ## The seed as a predicate -/

/-- The seed is written as its truth value. -/
theorem seed_sql (k : Connective) : (seed k).sql = k.seed := by cases k <;> rfl

/-- What is true has no effect in an alternative. -/
theorem truth_cons_of_yes {row : Row} {p : Predicate} (hp : p.truth row = .yes)
    (group : List Predicate) (groups : List (List Predicate)) :
    truth row ((p :: group) :: groups) = truth row (group :: groups) := by
  have hall : Truth.all ((p :: group).map (Predicate.truth row)) =
      Truth.all (group.map (Predicate.truth row)) := by
    rw [List.map_cons, hp]
    exact Truth.yes_and _
  exact congrArg (Truth.or · (truth row groups)) hall

/-- What is true has no effect in front of an alternative that conditions go on with. -/
theorem truth_alternativesFrom_cons {row : Row} {p : Predicate} (hp : p.truth row = .yes)
    (group : List Predicate) (rest : List Condition) :
    truth row (alternativesFrom (p :: group) rest) = truth row (alternativesFrom group rest) := by
  induction rest generalizing group with
  | nil => exact truth_cons_of_yes hp group []
  | cons c rest ih =>
    obtain ⟨connective, q⟩ := c
    cases connective with
    | and => exact ih (group ++ [q])
    | or => exact truth_cons_of_yes hp group _

/-- **The seed has no effect**: what a row makes of conditions behind their seed is what it makes of
them alone. -/
theorem truth_seeded (row : Row) (first : Condition) (rest : List Condition) :
    truth row (alternativesFrom [seed first.connective] (first :: rest)) =
      truth row (alternatives (first :: rest)) := by
  obtain ⟨connective, p⟩ := first
  cases connective with
  | and => exact truth_alternativesFrom_cons (p := seed .and) rfl [p] rest
  | or => exact truth_seed_or row p rest

/-- The seeded text is read like the text without its seed. -/
theorem clause_seededChain {keyword : String} (hkw : keyword = "WHERE" ∨ keyword = "HAVING")
    (row : Row) {first : Condition} {rest : List Condition}
    (h : ∀ c ∈ first :: rest, c.predicate.hasRaw = false) :
    row.clause (seededChain keyword first rest) =
      some (truth row (alternatives (first :: rest))) := by
  have hseed : Spells first.connective.seed (seed first.connective).tokens :=
    seed_sql first.connective ▸ Predicate.spells_sql rfl
  have hspells := spells_append ((spells_keyword hkw).space hseed) h
  rw [Row.clause, seededChain, hspells.tokens_eq]
  exact congrArg some ((condition_tokens row rfl h).trans (truth_seeded row first rest))

/-! ## The clauses -/

/-- **What a row makes of a clause.** The text of `WHERE` and of `HAVING` comes out as the
disjunction of the runs of conditions, each the conjunction of its predicates. It does so as well
with the seed left in the text, and whatever joins the first condition. -/
theorem clauses_truth (row : Row) {first : Condition} {rest : List Condition}
    (h : ∀ c ∈ first :: rest, c.predicate.hasRaw = false) :
    let runs := (first :: rest).splitBy fun _ c => c.connective = .and
    let t : Truth := .any (runs.map fun run => .all (run.map fun c => c.predicate.truth row))
    (row.clause (whereClause (first :: rest)) = some t ∧
        row.clause (havingClause (first :: rest)) = some t) ∧
      (row.clause (seededChain "WHERE" first rest) = some t ∧
        row.clause (seededChain "HAVING" first rest) = some t) ∧
      ∀ k : Connective, row.clause (whereClause (⟨k, first.predicate⟩ :: rest)) = some t ∧
        row.clause (havingClause (⟨k, first.predicate⟩ :: rest)) = some t := by
  intro runs t
  have ht : t = truth row (alternatives (first :: rest)) := by
    rw [alternatives_eq_splitBy, truth, List.map_map]
    simp only [t, runs, Function.comp_def, List.map_map]
    rfl
  have hfirst (k : Connective) : ∀ c ∈ (⟨k, first.predicate⟩ : Condition) :: rest,
      c.predicate.hasRaw = false :=
    List.forall_mem_cons.2 ⟨h first (by simp), fun c hc => h c (by simp [hc])⟩
  rw [ht]
  exact ⟨⟨clause_chain (.inl rfl) row (by simp) h, clause_chain (.inr rfl) row (by simp) h⟩,
    ⟨clause_seededChain (.inl rfl) row h, clause_seededChain (.inr rfl) row h⟩,
    fun k => ⟨clause_chain (.inl rfl) row (by simp) (hfirst k),
      clause_chain (.inr rfl) row (by simp) (hfirst k)⟩⟩

/-- Two runs, with a `BETWEEN`, an empty list and its negation among the predicates. -/
def mixed : List Condition :=
  [⟨.or, .within (.name "a") (.int 1) (.int 5)⟩, ⟨.and, .isIn (.name "b") []⟩,
    ⟨.or, .notIn (.name "c") []⟩, ⟨.and, .eq (.name "d") (.string "x OR y")⟩]

/-- Of a row of which nothing is known, the first run is false and the second one unknown. -/
theorem clauses_truth_mixed :
    (∀ c ∈ mixed, c.predicate.hasRaw = false) ∧
      whereClause mixed = "WHERE FALSE OR `a` BETWEEN 1 AND 5 AND FALSE OR TRUE AND `d` = 'x OR y'" ∧
      Row.clause (fun _ => .unknown) (whereClause mixed) = some .unknown ∧
      Row.clause (fun _ => .unknown) (havingClause mixed) = some .unknown := by
  have hraw : ∀ c ∈ mixed, c.predicate.hasRaw = false := by decide
  obtain ⟨⟨hwhere, hhaving⟩, -⟩ := clauses_truth (fun _ => .unknown) hraw
  exact ⟨hraw, by decide +kernel, hwhere.trans (by decide), hhaving.trans (by decide)⟩

end SqlBridge.Condition
