import SqlBridge.Proofs.Query.Pieces
import SqlBridge.Write

/-!
# The conditions behind a write

An update and a deletion are collapsed as a whole, conditions included, and the conditions may be
raw SQL that leaves quotes open. Whatever they are, they stand behind a text that spells its tokens,
so white space is collapsed from the outside of quotes where they begin: what stands before stays as
it is (`Sql.Spells.collapse_append`) and reads as it does alone (`Sql.Spells.tokens_append`).

`Statement.writes_eq` says this of both statements: the names and the literals stand in the text
unchanged and in order, and a `WHERE` stands behind them exactly when there is a condition.
-/

namespace SqlBridge

namespace Sql

/-! ## Behind a text that spells tokens -/

/-- A text as it is left behind another one: collapsed, and with a space in front of what is
left. -/
def behind (s : String) : String := String.ofList (spaced (collapseChars s.toList))

/-- What is left has a space in front, so it breaks the token before. -/
theorem breaks_behind (s : String) : Breaks (behind s).toList := by
  rw [behind, String.toList_ofList, spaced]
  split
  · exact breaks_nil
  · exact breaks_space _

/-- A text of blanks leaves nothing behind another one, and any other text itself behind a space. -/
theorem behind_eq (s : String) : behind s = if collapse s = "" then "" else " " ++ collapse s := by
  have hempty : collapseChars s.toList = [] ↔ collapse s = "" := by
    rw [← toList_collapse, String.toList_eq_nil_iff]
  rw [behind, spaced, ← String.toList_inj, String.toList_ofList]
  by_cases h : collapse s = ""
  · rw [if_pos (hempty.2 h), if_pos h]
    rfl
  · rw [if_neg (mt hempty.1 h), if_neg h]
    simp

namespace Spells

variable {a : String} {ts : List Token}

/-- Collapsing leaves the text in front alone, whatever stands behind it. -/
theorem collapse_append (ha : Spells a ts) (b : String) :
    collapse (a ++ " " ++ b) = a ++ behind b := by
  have htext : (a ++ " " ++ b).toList = a.toList ++ ' ' :: b.toList := by simp
  rw [← String.toList_inj, toList_collapse, htext, collapseChars_append_space ha.balanced,
    ha.collapseChars_eq, if_neg ha.ne_nil, behind]
  simp

/-- The text in front reads as it does alone, whatever stands behind it. -/
theorem tokens_append (ha : Spells a ts) (b : String) :
    tokens (a ++ behind b) = prepend ts (tokens (behind b)) := by
  rw [tokens, tokens, String.toList_append]
  exact ha.reads _ (breaks_behind b)

end Spells

end Sql

open Sql

namespace Condition

/-- A clause for conditions collapses to `WHERE` and what is left behind it; nothing in the
conditions can take the word away. -/
theorem collapse_whereClause_cons (first : Condition) (rest : List Condition) :
    ∃ s, collapse (whereClause (first :: rest)) = "WHERE" ++ behind s := by
  obtain ⟨s, hs⟩ : ∃ s, whereClause (first :: rest) = "WHERE" ++ " " ++ s := by
    rw [whereClause, chain_eq_dropSeed (.inl rfl)]
    cases first.connective with
    | and => exact ⟨_, (String.append_assoc ..).symm⟩
    | or =>
      refine ⟨"FALSE OR " ++ (first.predicate.sql ++ String.join (rest.map sql)), ?_⟩
      simp [← String.toList_inj]
  exact ⟨s, hs ▸ (spells_word "WHERE" rfl).collapse_append s⟩

end Condition

/-! ## The statements -/

namespace Statement

/-- What stands behind a write for its conditions; nothing when there are none. -/
def conditionText (conditions : List Condition) : String :=
  if conditions.isEmpty then "" else " " ++ collapse (Condition.whereClause conditions)

/-- An update in front of its conditions. -/
def updateText (table : String) (f : Fields) : String :=
  "UPDATE " ++ Name.escape table ++ " SET " ++
    ", ".intercalate (f.entries.map fun e => Name.escape e.1 ++ " = " ++ e.2.literal)

/-- A deletion in front of its conditions. -/
def deleteText (table : String) : String := "DELETE FROM " ++ Name.escape table

/-- What is left of a clause behind a write is the text for its conditions. -/
theorem behind_whereClause (conditions : List Condition) :
    behind (Condition.whereClause conditions) = conditionText conditions := by
  cases conditions with
  | nil => rfl
  | cons first rest =>
    obtain ⟨s, hs⟩ := Condition.collapse_whereClause_cons first rest
    have hne : collapse (Condition.whereClause (first :: rest)) ≠ "" := by
      rw [hs]
      simp [← String.toList_inj]
    rw [behind_eq, if_neg hne]
    rfl

/-- The tokens of an assignment. -/
def assignmentTokens (e : String × Value) : List Token :=
  Name.tokens e.1 ++ .sign "=" :: e.2.tokens

/-- The tokens of an update in front of its conditions. -/
def updateTokens (table : String) (f : Fields) : List Token :=
  .word "UPDATE" ::
    (Name.tokens table ++ .word "SET" :: commaTokens (f.entries.map assignmentTokens))

/-- The tokens of a deletion in front of its conditions. -/
def deleteTokens (table : String) : List Token :=
  .word "DELETE" :: .word "FROM" :: Name.tokens table

/-- An update of some fields spells its tokens. -/
theorem spells_update (table : String) {f : Fields} (hne : f.entries ≠ []) :
    Spells (updateText table f) (updateTokens table f) := by
  have hentry (e : String × Value) :
      Spells (Name.escape e.1 ++ " = " ++ e.2.literal) (assignmentTokens e) := by
    have hall := ((Name.spells_escape e.1).space
      (Sql.spells_sign '=' rfl ⟨rfl, rfl⟩)).space e.2.spells_literal
    have htext : Name.escape e.1 ++ " = " ++ e.2.literal =
        Name.escape e.1 ++ " " ++ String.ofList ['='] ++ " " ++ e.2.literal := by
      simp [← String.toList_inj]
    rw [htext]
    simpa [assignmentTokens] using hall
  have hall := (((spells_word "UPDATE" rfl).space (Name.spells_escape table)).space
    (spells_word "SET" rfl)).space (Spells.commaList hne fun e _ => hentry e)
  have htext : updateText table f = "UPDATE" ++ " " ++ Name.escape table ++ " " ++ "SET" ++ " " ++
      ", ".intercalate (f.entries.map fun e => Name.escape e.1 ++ " = " ++ e.2.literal) := by
    simp [updateText, ← String.toList_inj]
  rw [htext]
  simpa [updateTokens, commaTokens] using hall

/-- A deletion spells its tokens. -/
theorem spells_delete (table : String) :
    Spells (deleteText table) (deleteTokens table) := by
  have hall := ((spells_word "DELETE" rfl).space (spells_word "FROM" rfl)).space
    (Name.spells_escape table)
  have htext : deleteText table = "DELETE" ++ " " ++ "FROM" ++ " " ++ Name.escape table := by
    simp [deleteText]
  rw [htext]
  exact hall

/-- **Conditions cannot reach what stands before them.** The text of an update and of a deletion is
their own part, every name and literal as it is written alone and in order, and the collapsed
conditions behind it, even where raw SQL leaves quotes open. To the server, too, the part in front
is what it is alone. Where there are conditions they begin with `WHERE`, whatever they say; where
there are none nothing follows. -/
theorem writes_eq (table : String) {f : Fields} (hf : ¬f.isEmpty) (conditions : List Condition) :
    (updateRows table f conditions =
        .ok ⟨.update, updateText table f ++ conditionText conditions⟩ ∧
      tokens (updateText table f ++ conditionText conditions) =
        prepend (updateTokens table f) (tokens (conditionText conditions))) ∧
    (deleteRows table conditions = ⟨.delete, deleteText table ++ conditionText conditions⟩ ∧
      tokens (deleteText table ++ conditionText conditions) =
        prepend (deleteTokens table) (tokens (conditionText conditions))) ∧
    (conditions = [] → conditionText conditions = "") ∧
    (conditions ≠ [] → ∃ s, collapse (Condition.whereClause conditions) = "WHERE" ++ s ∧
      (s = "" ∨ ∃ r, s = " " ++ r) ∧
      tokens (conditionText conditions) = prepend [.word "WHERE"] (tokens s)) := by
  have hupdate := spells_update table (f := f) (by simpa [Named.isEmpty] using hf)
  have hdelete := spells_delete table
  rw [← behind_whereClause]
  refine ⟨⟨?_, hupdate.tokens_append _⟩, ⟨?_, hdelete.tokens_append _⟩, ?_, fun hne => ?_⟩
  · rw [updateRows, if_neg hf, ← hupdate.collapse_append]
    rfl
  · rw [deleteRows, ← hdelete.collapse_append]
    rfl
  · rintro rfl
    rfl
  · obtain ⟨first, rest, rfl⟩ := List.exists_cons_of_ne_nil hne
    obtain ⟨s, hs⟩ := Condition.collapse_whereClause_cons first rest
    have hwhere := (spells_word "WHERE" rfl).tokens_append s
    refine ⟨behind s, hs, ?_, ?_⟩
    · rw [behind_eq]
      split
      · exact .inl rfl
      · exact .inr ⟨_, rfl⟩
    · rw [behind_whereClause, conditionText, if_neg (by simp), hs, tokens, String.toList_append]
      rw [← hwhere, tokens]
      exact tokensFrom_between_space _

/-- A raw condition that opens a quote and does not close it, with another one behind it. -/
theorem writes_eq_unclosed :
    let conditions : List Condition := [⟨.and, .raw " a =  'b  "⟩, ⟨.or, .eq (.name "c") (.int 1)⟩]
    let f : Fields := .ofList [("n  WHERE", .string "it's\n  '"), ("m", .null)]
    updateRows "t" f conditions = .ok ⟨.update, "UPDATE `t` SET " ++
      "`n  WHERE` = 'it\\'s\\n  \\'', `m` = NULL WHERE a = 'b   OR `c` = 1"⟩ ∧
    (tokens (updateText "t" f ++ conditionText conditions)).isNone ∧
    deleteRows "t" conditions = ⟨.delete, "DELETE FROM `t` WHERE a = 'b   OR `c` = 1"⟩ := by
  intro conditions f
  obtain ⟨⟨hupdate, htokens⟩, ⟨hdelete, -⟩, -⟩ := writes_eq "t" (f := f) (by decide) conditions
  have htext : updateText "t" f ++ conditionText conditions = "UPDATE `t` SET " ++
      "`n  WHERE` = 'it\\'s\\n  \\'', `m` = NULL WHERE a = 'b   OR `c` = 1" := by
    decide +kernel
  refine ⟨by rw [hupdate, htext], ?_, hdelete.trans ?_⟩
  · rw [htokens]
    decide +kernel
  · decide +kernel

end Statement

end SqlBridge
