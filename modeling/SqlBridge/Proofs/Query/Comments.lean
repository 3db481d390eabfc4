import SqlBridge.Query.Select
import SqlBridge.Write
import SqlBridge.Proofs.Sql.Comments

/-!
# Comments in raw SQL

A query, an update and a deletion are collapsed after their clauses have been joined
(`Statement.Joins`), so a comment in raw SQL is collapsed with everything behind it. The server
reads what was joined, as long as collapsing loses nothing of it (`Sql.Collapsible`): the comments
close the quotes that are opened in them and no clause stands behind the line end of a line comment.
A clause that does stands in the comment (`Statement.tokens_of_collapsible`).
-/

namespace SqlBridge.Statement

/-- The text of a statement, and its clauses as they were joined. -/
inductive Joins : String → String → Prop
  | select (q : Query) : Joins (" ".intercalate q.clauses) q.render
  | update {table : String} {f : Fields} {conditions : List Condition} {statement : Statement}
    (h : updateRows table f conditions = .ok statement) :
    Joins ("UPDATE " ++ Name.escape table ++ " SET " ++
      ", ".intercalate (f.entries.map assignment) ++ " " ++ Condition.whereClause conditions)
      statement.sql
  | delete (table : String) (conditions : List Condition) :
    Joins ("DELETE FROM " ++ Name.escape table ++ " " ++ Condition.whereClause conditions)
      (deleteRows table conditions).sql

/-- The text is what was joined, collapsed. -/
theorem Joins.eq_collapse {joined text : String} (h : Joins joined text) :
    text = Sql.collapse joined := by
  cases h with
  | select q => rfl
  | @update table f conditions statement h =>
    unfold updateRows at h
    split at h
    · cases h
    · cases h
      rfl
  | delete table conditions => rfl

/-- **The server reads a collapsed text as it was before**, and a statement as its clauses were
joined, as long as collapsing loses nothing. When the text ends in a line comment, the line end and
whatever stands behind it belong to the comment, unless a line end is kept there. -/
theorem tokens_of_collapsible {s : String} (h : Sql.Collapsible s) :
    Sql.tokens (Sql.collapse s) = Sql.tokens s ∧
      (∀ text, Joins s text → Sql.tokens text = Sql.tokens s) ∧
      ∀ rest, Sql.EndsInLine s → '\n' ∉ (Sql.collapse rest).toList →
        Sql.tokens (Sql.collapse (s ++ "\n" ++ rest)) = Sql.tokens s := by
  refine ⟨Sql.tokens_collapse h, ?_, ?_⟩
  · intro text hjoins
    rw [hjoins.eq_collapse]
    exact Sql.tokens_collapse h
  · intro rest hline hrest
    exact Sql.tokens_collapse_lineEnd h hline hrest

/-- Conditions with a comment of each kind, of which the last one is not ended. -/
def annotated : List Condition :=
  [⟨.and, .raw "a  = /* it''s  'x -- y' */ 'p -- q'"⟩, ⟨.and, .raw "b  -- why\n  # end"⟩]

/-- The clauses of their deletion, joined. -/
def annotatedDelete : String :=
  "DELETE FROM " ++ Name.escape "t" ++ " " ++ Condition.whereClause annotated

/-- Collapsing loses nothing of the deletion, and a clause behind its last comment is swallowed by
it. -/
theorem tokens_of_collapsible_annotated :
    Sql.Collapsible annotatedDelete ∧
      Sql.tokens (deleteRows "t" annotated).sql = some [.word "DELETE", .word "FROM", .name "t",
        .word "WHERE", .word "a", .sign "=", .text "p -- q", .word "AND", .word "b"] ∧
      Sql.tokens (Sql.collapse (annotatedDelete ++ "\n" ++ "ORDER BY c")) =
        Sql.tokens annotatedDelete := by
  have hsafe : Sql.Collapsible annotatedDelete := by decide +kernel
  obtain ⟨-, hjoins, hline⟩ := tokens_of_collapsible hsafe
  refine ⟨hsafe, ?_, ?_⟩
  · exact (hjoins _ (.delete "t" annotated)).trans (by decide +kernel)
  · exact hline "ORDER BY c" (by decide +kernel) (by decide)

/-- Conditions of which the first one ends in a line comment. -/
def commented : List Condition :=
  [⟨.and, .raw "a = 1 -- one\n"⟩, ⟨.and, .eq (.name "b") (.int 2)⟩]

/-- None of the three conditions can be left out: a line end behind a line comment, an apostrophe in
a comment and a blank that the server takes for a letter each make a difference, and so a condition
behind a comment is lost. -/
theorem not_tokens_collapse :
    (∀ s ∈ ["a -- x\nb", "/* it's */ 'a  b'", "a\u00a0b"],
      (Sql.tokens s).isSome ∧ Sql.tokens (Sql.collapse s) ≠ Sql.tokens s) ∧
      ¬∀ s text, Joins s text → (Sql.tokens s).isSome → Sql.tokens text = Sql.tokens s := by
  constructor
  · decide +kernel
  · intro h
    have hdelete := h _ _ (.delete "t" commented) (by decide +kernel)
    revert hdelete
    decide +kernel

end SqlBridge.Statement
