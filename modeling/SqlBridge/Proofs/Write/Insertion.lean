import SqlBridge.Proofs.Query.Condition
import SqlBridge.Proofs.Sql.Phrase
import SqlBridge.Write

/-!
# What an insertion says

`Insertion.read?` is what a server makes of the text of an insertion: the table, the columns, the
values, and for a duplicate key either nothing, or that the row is left alone, or which columns are
overwritten. Columns and values are written as two lists and belong together by position only.

`Statement.insertRow_read` says that the text of an insertion is read back as what it was made from,
whatever stands in its names and values. The steps are those of a query: `insertTokens` says which
tokens are meant, `spells_insertText` that the text spells them, and
`Insertion.ofTokens?_insertTokens` what is read from them.
-/

namespace SqlBridge

open Sql

/-! ## Reading an insertion -/

/-- What a server makes of an insertion. -/
structure Insertion where
  /-- A row with a duplicate key is left alone. -/
  ignores : Bool
  table : List Name.Part
  columns : List (List Name.Part)
  values : List Literal.Content
  /-- The columns that are overwritten for a duplicate key, each with the column whose new value it
  takes. -/
  updates : List (List Name.Part × List Name.Part)
  deriving DecidableEq

namespace Insertion

/-- The keywords at the start, with or without `IGNORE`. -/
def leading? (ts : List Token) : Option (Bool × List Token) :=
  match behindKeywords? ["INSERT", "IGNORE", "INTO"] ts with
  | some rest => some (true, rest)
  | none => (behindKeywords? ["INSERT", "INTO"] ts).map (false, ·)

/-- A column and the column whose new value it takes. -/
def update? (ts : List Token) : Option (List Name.Part × List Name.Part) := do
  let (column, rest) := ts.span (· ≠ .sign "=")
  let (source, rest) ← parens? (← behindKeywords? ["VALUES"] rest.tail)
  if rest = [] then return (← Name.ofTokens? column, ← Name.ofTokens? source) else none

/-- What is overwritten for a duplicate key; nothing where the text ends. -/
def updates? (ts : List Token) : Option (List (List Name.Part × List Name.Part)) :=
  if ts = [] then some []
  else (behindKeywords? ["ON", "DUPLICATE", "KEY", "UPDATE"] ts).bind (entries? update?)

/-- The insertion that the tokens say. -/
def ofTokens? (ts : List Token) : Option Insertion := do
  let (ignores, ts) ← leading? ts
  let (table, ts) := ts.span (· ≠ .sign "(")
  let (columns, ts) ← parens? ts
  let (values, ts) ← parens? (← behindKeywords? ["VALUES"] ts)
  return {
    ignores
    table := ← Name.ofTokens? table
    columns := ← entries? Name.ofTokens? columns
    values := ← entries? Literal.ofTokens? values
    updates := ← updates? ts }

/-- The insertion that a row is meant to make. -/
def ofRow (table : String) (f : Fields) (strategy : ConflictStrategy) : Insertion where
  ignores := decide (strategy = .ignore)
  table := Name.parts table
  columns := f.entries.map fun e => Name.parts e.1
  values := f.entries.map fun e => e.2.content
  updates :=
    if strategy = .update then f.entries.map fun e => (Name.parts e.1, Name.parts e.1) else []

/-- The insertion that a text says. -/
def read? (sql : String) : Option Insertion := (tokens sql).bind ofTokens?

end Insertion

/-! ## The tokens of an insertion -/

namespace Statement

/-- The keywords of an insertion. -/
def insertKeywords : ConflictStrategy → List Token
  | .ignore => [.word "INSERT", .word "IGNORE", .word "INTO"]
  | _ => [.word "INSERT", .word "INTO"]

/-- The tokens of a list in parentheses. -/
def listTokens (l : List (List Token)) : List Token := .sign "(" :: (commaTokens l ++ [.sign ")"])

/-- The tokens by which a column takes its new value. -/
def overwriteTokens (column : String) : List Token :=
  Name.tokens column ++ .sign "=" :: .word "VALUES" :: .sign "(" ::
    (Name.tokens column ++ [.sign ")"])

/-- The tokens of the clause for a duplicate key; none unless the row is to be overwritten. -/
def upsertTokens (columns : List String) : ConflictStrategy → List Token
  | .update => [.word "ON", .word "DUPLICATE", .word "KEY", .word "UPDATE"] ++
      commaTokens (columns.map overwriteTokens)
  | _ => []

/-- The tokens of an insertion. -/
def insertTokens (table : String) (f : Fields) (strategy : ConflictStrategy) : List Token :=
  insertKeywords strategy ++ (Name.tokens table ++ (listTokens (f.names.map Name.tokens) ++
    .word "VALUES" :: (listTokens (f.values.map Value.tokens) ++ upsertTokens f.names strategy)))

/-- The text of an insertion. -/
def insertText (table : String) (f : Fields) (strategy : ConflictStrategy) : String :=
  let columns := columnTexts f
  let sql := Dialect.insertKeyword strategy ++ " " ++ Name.escape table ++ " (" ++
    ", ".intercalate columns ++ ") VALUES (" ++ ", ".intercalate (valueTexts f) ++ ")"
  if strategy = .update then sql ++ " " ++ Dialect.upsertClause columns else sql

/-- A row is not inserted without fields; with any, the statement is their text. -/
theorem insertRow_eq (table : String) (f : Fields) (strategy : ConflictStrategy) :
    insertRow table f strategy =
      if f.isEmpty then .error (.invalidQuery (.noFields table))
      else .ok ⟨.insert, insertText table f strategy⟩ := by
  unfold insertRow insertText
  rfl

/-- The first words spell the keywords of the strategy. -/
theorem spells_insertKeyword (strategy : ConflictStrategy) :
    Spells (Dialect.insertKeyword strategy) (insertKeywords strategy) := by
  have hplain := (spells_word "INSERT" rfl).space (spells_word "INTO" rfl)
  cases strategy with
  | error => exact hplain
  | ignore =>
    exact ((spells_word "INSERT" rfl).space (spells_word "IGNORE" rfl)).space
      (spells_word "INTO" rfl)
  | update => exact hplain

/-- The clause for a duplicate key spells one assignment for each column. -/
theorem spells_upsertClause {columns : List String} (hne : columns ≠ []) :
    Spells (Dialect.upsertClause (columns.map Name.escape)) (upsertTokens columns .update) := by
  have hwords := (((spells_word "ON" rfl).space (spells_word "DUPLICATE" rfl)).space
    (spells_word "KEY" rfl)).space (spells_word "UPDATE" rfl)
  have hentry (c : String) : Spells (Name.escape c ++ " = VALUES(" ++ Name.escape c ++ ")")
      (overwriteTokens c) := by
    have hname := Name.spells_escape c
    have hall := (hname.space (spells_sign '=' rfl ⟨rfl, rfl⟩)).space (hname.call "VALUES" rfl)
    have htext : Name.escape c ++ " = VALUES(" ++ Name.escape c ++ ")" =
        Name.escape c ++ " " ++ String.ofList ['='] ++ " " ++
          ("VALUES" ++ "(" ++ Name.escape c ++ ")") := by
      simp [← String.toList_inj]
    rw [htext]
    simpa [overwriteTokens] using hall
  have hall := hwords.space (Spells.commaList hne fun c _ => hentry c)
  have htext : Dialect.upsertClause (columns.map Name.escape) =
      "ON" ++ " " ++ "DUPLICATE" ++ " " ++ "KEY" ++ " " ++ "UPDATE" ++ " " ++
        ", ".intercalate (columns.map fun c => Name.escape c ++ " = VALUES(" ++ Name.escape c ++
          ")") := by
    unfold Dialect.upsertClause
    rw [List.map_map]
    rfl
  rw [htext]
  exact hall

/-- **The text of an insertion spells its tokens.** -/
theorem spells_insertText (table : String) {f : Fields} (hne : f.entries ≠ [])
    (strategy : ConflictStrategy) :
    Spells (insertText table f strategy) (insertTokens table f strategy) := by
  have hcolumns :
      Spells (", ".intercalate (columnTexts f)) (commaTokens (f.names.map Name.tokens)) :=
    Spells.commaList (by simpa [Named.names] using hne) fun n _ => Name.spells_escape n
  have hvalues :
      Spells (", ".intercalate (valueTexts f)) (commaTokens (f.values.map Value.tokens)) :=
    Spells.commaList (by simpa [Named.values] using hne) fun v _ => v.spells_literal
  have hrow := ((((spells_insertKeyword strategy).space (Name.spells_escape table)).space
    hcolumns.parens).space (spells_word "VALUES" rfl)).space hvalues.parens
  have htext : Dialect.insertKeyword strategy ++ " " ++ Name.escape table ++ " (" ++
      ", ".intercalate (columnTexts f) ++ ") VALUES (" ++ ", ".intercalate (valueTexts f) ++ ")" =
      Dialect.insertKeyword strategy ++ " " ++ Name.escape table ++ " " ++
        ("(" ++ ", ".intercalate (columnTexts f) ++ ")") ++ " " ++ "VALUES" ++ " " ++
        ("(" ++ ", ".intercalate (valueTexts f) ++ ")") := by
    simp [← String.toList_inj]
  rw [← htext] at hrow
  unfold insertText insertTokens
  cases strategy with
  | error => simpa [listTokens, upsertTokens] using hrow
  | ignore => simpa [listTokens, upsertTokens] using hrow
  | update =>
    have hupsert : Spells (Dialect.upsertClause (columnTexts f)) (upsertTokens f.names .update) :=
      spells_upsertClause (by simpa [Named.names] using hne)
    simpa [listTokens] using hrow.space hupsert

end Statement

/-! ## Reading the tokens -/

namespace Insertion

open Statement

/-- The keywords are read back with whether duplicates are ignored. -/
theorem leading?_insertKeywords (strategy : ConflictStrategy) (rest : List Token) :
    leading? (insertKeywords strategy ++ rest) = some (decide (strategy = .ignore), rest) := by
  cases strategy <;> rfl

/-- A list in parentheses ends where it is meant to. -/
theorem parens?_listTokens {α : Type} {f : α → List Token} {l : List α}
    (h : ∀ x ∈ l, .sign ")" ∉ f x) (rest : List Token) :
    parens? (listTokens (l.map f) ++ rest) = some (commaTokens (l.map f), rest) := by
  have hclose : .sign ")" ∉ commaTokens (l.map f) := by
    refine fun hmem => forall_mem_intercalate (p := (· ≠ .sign ")")) (by decide) (l := l.map f)
      (fun ts hts t ht heq => ?_) _ hmem rfl
    obtain ⟨x, hx, rfl⟩ := List.mem_map.1 hts
    exact h x hx (heq ▸ ht)
  have hread := parens?_append hclose rest
  simpa [listTokens] using hread

/-- An assignment is read back as the column on both of its sides. -/
theorem update?_overwriteTokens (column : String) :
    update? (overwriteTokens column) = some (Name.parts column, Name.parts column) := by
  have hclose : Token.sign ")" ∉ Name.tokens column :=
    Name.sign_not_mem_tokens column (by decide) (by decide)
  have hsource : parens? (.sign "(" :: (Name.tokens column ++ [.sign ")"])) =
      some (Name.tokens column, []) := parens?_append hclose []
  have hvalues : behindKeywords? ["VALUES"] (.word "VALUES" :: .sign "(" ::
      (Name.tokens column ++ [.sign ")"])) =
        some (.sign "(" :: (Name.tokens column ++ [.sign ")"])) :=
    rfl
  rw [update?, overwriteTokens, Name.span_tokens column (by decide) (by decide)]
  simp [hvalues, hsource, Name.ofTokens?_tokens]

/-- The clause is read back as one assignment for each column, and as none unless the row is to be
overwritten. -/
theorem updates?_upsertTokens {columns : List String} (hne : columns ≠ [])
    (strategy : ConflictStrategy) :
    updates? (upsertTokens columns strategy) =
      some (if strategy = .update then columns.map fun c => (Name.parts c, Name.parts c)
        else []) := by
  cases strategy with
  | error => rfl
  | ignore => rfl
  | update =>
    have hcomma : ∀ c ∈ columns, Token.sign "," ∉ overwriteTokens c := fun c _ => by
      have hname : Token.sign "," ∉ Name.tokens c :=
        Name.sign_not_mem_tokens c (by decide) (by decide)
      simp [overwriteTokens, hname]
    exact entries?_intercalate hne hcomma fun c _ => update?_overwriteTokens c

/-- **The tokens of an insertion are read as what they were made from.** -/
theorem ofTokens?_insertTokens (table : String) {f : Fields} (hne : f.entries ≠ [])
    (strategy : ConflictStrategy) :
    ofTokens? (insertTokens table f strategy) = some (ofRow table f strategy) := by
  have hnames : f.names ≠ [] := by simpa [Named.names] using hne
  have hvalues : f.values ≠ [] := by simpa [Named.values] using hne
  have hname (n : String) {u : String} (hdot : u ≠ ".") (hstar : u ≠ "*") :
      Token.sign u ∉ Name.tokens n := Name.sign_not_mem_tokens n hdot hstar
  have htable (rest : List Token) :
      (Name.tokens table ++ (listTokens (f.names.map Name.tokens) ++ rest)).span (· ≠ .sign "(") =
        (Name.tokens table, listTokens (f.names.map Name.tokens) ++ rest) :=
    Name.span_tokens table (by decide) (by decide) _
  have hcolumns (rest : List Token) : parens? (listTokens (f.names.map Name.tokens) ++ rest) =
      some (commaTokens (f.names.map Name.tokens), rest) :=
    parens?_listTokens (fun n _ => hname n (by decide) (by decide)) rest
  have hkeyword (rest : List Token) :
      behindKeywords? ["VALUES"] (.word "VALUES" :: rest) = some rest := rfl
  have hliterals (rest : List Token) : parens? (listTokens (f.values.map Value.tokens) ++ rest) =
      some (commaTokens (f.values.map Value.tokens), rest) :=
    parens?_listTokens (fun v _ => v.sign_not_mem_tokens (by decide)) rest
  have hcolumnList : entries? Name.ofTokens? (commaTokens (f.names.map Name.tokens)) =
      some (f.names.map Name.parts) :=
    entries?_intercalate hnames (fun n _ => hname n (by decide) (by decide)) fun n _ =>
      Name.ofTokens?_tokens n
  have hvalueList : entries? Literal.ofTokens? (commaTokens (f.values.map Value.tokens)) =
      some (f.values.map Value.content) :=
    entries?_intercalate hvalues (fun v _ => v.sign_not_mem_tokens (by decide)) fun v _ =>
      v.ofTokens?_tokens
  rw [insertTokens, ofTokens?]
  simp only [leading?_insertKeywords, htable, hcolumns, hkeyword, hliterals, hcolumnList,
    hvalueList, Name.ofTokens?_tokens, updates?_upsertTokens hnames, Option.bind_eq_bind,
    Option.bind_some]
  simp [ofRow, Named.names, Named.values, Function.comp_def]

end Insertion

/-! ## Reading the text -/

namespace Statement

/-- **The text of an insertion is read back as the row that it is made from**, whatever stands in
its names and values: the columns and the values in the order of the fields, so that each value
stands at its column's position, and for a duplicate key what the strategy asks for. The text
stays as it is when it is collapsed. A row without fields is refused.

A name without backticks is recovered from its parts, so two of them are never the same column. -/
theorem insertRow_read (table : String) (f : Fields) (strategy : ConflictStrategy) :
    (f.isEmpty → insertRow table f strategy = .error (.invalidQuery (.noFields table))) ∧
      (¬f.isEmpty → ∃ sql, insertRow table f strategy = .ok ⟨.insert, sql⟩ ∧
        Insertion.read? sql = some (Insertion.ofRow table f strategy) ∧ collapse sql = sql) ∧
      (∀ name : String, Name.backtick ∉ name.toList → Name.ofParts (Name.parts name) = name) ∧
      (∀ a b : String, Name.backtick ∉ a.toList → Name.backtick ∉ b.toList → a ≠ b →
        Name.parts a ≠ Name.parts b) := by
  refine ⟨fun hempty => ?_, fun hfull => ?_, fun _ => Name.ofParts_parts_of_plain,
    fun a b ha hb hne heq => hne ?_⟩
  · rw [insertRow_eq, if_pos hempty]
  · have hspells := spells_insertText table (by simpa [Named.isEmpty] using hfull) strategy
    refine ⟨insertText table f strategy, ?_, ?_, ?_⟩
    · rw [insertRow_eq, if_neg hfull]
    · rw [Insertion.read?, hspells.tokens_eq, Option.bind_some]
      exact Insertion.ofTokens?_insertTokens table (by simpa [Named.isEmpty] using hfull) strategy
    · rw [collapse, hspells.collapseChars_eq, String.ofList_toList]
  · calc a = Name.ofParts (Name.parts a) := (Name.ofParts_parts_of_plain ha).symm
      _ = Name.ofParts (Name.parts b) := by rw [heq]
      _ = b := Name.ofParts_parts_of_plain hb

/-- A row whose names and values try to be more than that. -/
def hostileRow : Fields :=
  .ofList [("id) VALUES (1", .string "'), ('"), ("t.*", .null), ("a\x60, b", .int (-7))]

/-- The names and values that try to be more are read back as they are. -/
theorem insertRow_read_hostile : ∃ sql,
    insertRow "app.us\x60ers (x)" hostileRow .update = .ok ⟨.insert, sql⟩ ∧
      Insertion.read? sql = some
        { ignores := false
          table := [.named "app", .named "us-ers (x)"]
          columns := [[.named "id) VALUES (1"], [.named "t", .all], [.named "a-, b"]]
          values := [.text "'), ('", .null, .number (-7)]
          updates := [([.named "id) VALUES (1"], [.named "id) VALUES (1"]),
            ([.named "t", .all], [.named "t", .all]), ([.named "a-, b"], [.named "a-, b"])] } ∧
      collapse sql = sql := by
  obtain ⟨sql, hsql, hread, hcollapse⟩ :=
    (insertRow_read "app.us\x60ers (x)" hostileRow .update).2.1 (by decide)
  refine ⟨sql, hsql, hread.trans ?_, hcollapse⟩
  decide +kernel

end Statement

end SqlBridge
