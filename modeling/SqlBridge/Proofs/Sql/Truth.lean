import SqlBridge.Proofs.Sql.Token

/-!
# The truth of a condition in SQL text

How a server reads a condition. Outside parentheses `OR` separates alternatives, and `AND`
separates the atoms of one alternative, so `AND` binds tighter; an `AND` that a `BETWEEN` waits for
belongs to its atom (`alternatives`). What a row makes of an atom is given (`Row`), except that
`TRUE` and `FALSE` on their own mean themselves. The truth has three values: a clause chooses a row
only if its condition comes out as `yes`.

`Unbroken` holds of tokens that the reader takes into the atom it is at as a whole. It is proved for
tokens without a meaning of their own, for a list in parentheses and for `BETWEEN` with its `AND`,
and such runs are atoms together.
-/

namespace SqlBridge.Sql

/-! ## Three truth values -/

/-- What a condition can come out as. -/
inductive Truth where
  | no
  | unknown
  | yes
  deriving DecidableEq, Repr

namespace Truth

/-- Both: the lesser of the two. -/
def and : Truth → Truth → Truth
  | no, _ => no
  | _, no => no
  | yes, yes => yes
  | _, _ => unknown

/-- One or the other: the greater of the two. -/
def or : Truth → Truth → Truth
  | yes, _ => yes
  | _, yes => yes
  | no, no => no
  | _, _ => unknown

/-- All of a list. -/
def all (l : List Truth) : Truth := l.foldr and yes

/-- One of a list. -/
def any (l : List Truth) : Truth := l.foldr or no

/-- What is false has no effect beside an alternative. -/
@[simp]
theorem no_or (t : Truth) : or no t = t := by cases t <;> rfl

/-- What is true has no effect in an alternative. -/
@[simp]
theorem yes_and (t : Truth) : and yes t = t := by cases t <;> rfl

/-- Both hold when each of the two does. -/
theorem and_eq_yes_iff {a b : Truth} : and a b = yes ↔ a = yes ∧ b = yes := by
  cases a <;> cases b <;> simp [and]

/-- One of two holds when the first or the second does. -/
theorem or_eq_yes_iff {a b : Truth} : or a b = yes ↔ a = yes ∨ b = yes := by
  cases a <;> cases b <;> simp [or]

/-- All of a list hold when each one does. -/
theorem all_eq_yes_iff {l : List Truth} : all l = yes ↔ ∀ t ∈ l, t = yes := by
  induction l with
  | nil => simp [all]
  | cons t l ih =>
    rw [all, List.foldr_cons, and_eq_yes_iff, List.forall_mem_cons]
    exact and_congr_right fun _ => ih

/-- Some of a list hold when one of them does. -/
theorem any_eq_yes_iff {l : List Truth} : any l = yes ↔ yes ∈ l := by
  induction l with
  | nil => simp [any]
  | cons t l ih =>
    rw [any, List.foldr_cons, or_eq_yes_iff, List.mem_cons]
    exact or_congr eq_comm ih

end Truth

/-! ## Reading a condition -/

/-- A word in any case of letters; the word is given in capitals. -/
def Token.isKeyword (k : String) : Token → Bool
  | .word s => s.toList.map Char.toUpper == k.toList
  | _ => false

/-- Where the reader of a condition is. -/
structure Reading where
  /-- The parentheses that are open. -/
  depth : Nat
  /-- A `BETWEEN` has not met its `AND` yet. -/
  awaitsAnd : Bool
  /-- The tokens of the atom so far. -/
  atom : List Token
  /-- The complete atoms of the alternative so far. -/
  group : List (List Token)

namespace Reading

/-- At the start of an alternative. -/
def start : Reading := ⟨0, false, [], []⟩

/-- At the start of an alternative's next atom. -/
def next (r : Reading) : Reading := ⟨0, false, [], r.group ++ [r.atom]⟩

/-- With a token more in the atom. -/
def push (r : Reading) (t : Token) : Reading :=
  { r with
    depth := if t = .sign "(" then r.depth + 1 else if t = .sign ")" then r.depth - 1 else r.depth
    awaitsAnd :=
      if r.depth = 0 then t.isKeyword "BETWEEN" || (r.awaitsAnd && !t.isKeyword "AND")
      else r.awaitsAnd
    atom := r.atom ++ [t] }

/-- With more tokens in the atom. -/
def extend (r : Reading) (ts : List Token) : Reading := { r with atom := r.atom ++ ts }

end Reading

/-- The alternatives of a condition, each as its atoms in order. -/
def alternatives (r : Reading) : List Token → List (List (List Token))
  | [] => [r.next.group]
  | t :: ts =>
    if r.depth = 0 ∧ t.isKeyword "OR" then r.next.group :: alternatives .start ts
    else if r.depth = 0 ∧ t.isKeyword "AND" ∧ r.awaitsAnd = false then alternatives r.next ts
    else alternatives (r.push t) ts

/-! ## The truth of a clause -/

/-- What a row makes of each atom. -/
abbrev Row := List Token → Truth

namespace Row

/-- What a row makes of an atom, `TRUE` and `FALSE` included. -/
def atom (row : Row) : List Token → Truth
  | [t] =>
    if t.isKeyword "TRUE" then .yes else if t.isKeyword "FALSE" then .no else row [t]
  | ts => row ts

/-- What a row makes of a condition. -/
def condition (row : Row) (ts : List Token) : Truth :=
  .any ((alternatives .start ts).map fun group => .all (group.map row.atom))

/-- What a row makes of a clause's text behind the keyword; nothing of a text that is no clause. -/
def clause (row : Row) (sql : String) : Option Truth :=
  match tokens sql with
  | some (.word _ :: ts) => some (row.condition ts)
  | _ => none

/-- The clause chooses the row. -/
def Satisfies (row : Row) (sql : String) : Prop := row.clause sql = some .yes

instance (row : Row) (sql : String) : Decidable (row.Satisfies sql) :=
  inferInstanceAs (Decidable (row.clause sql = some .yes))

/-- An atom of two parts is neither `TRUE` nor `FALSE`. -/
theorem atom_append (row : Row) {a b : List Token} (ha : a ≠ []) (hb : b ≠ []) :
    row.atom (a ++ b) = row (a ++ b) := by
  obtain ⟨t, a, rfl⟩ := List.exists_cons_of_ne_nil ha
  cases a with
  | nil =>
    obtain ⟨u, b, rfl⟩ := List.exists_cons_of_ne_nil hb
    rfl
  | cons u a => rfl

end Row

/-! ## Atoms -/

/-- A token that means nothing to the reader of a condition. -/
def Token.isPlain (t : Token) : Bool :=
  t != .sign "(" && t != .sign ")" && !t.isKeyword "OR" && !t.isKeyword "AND" &&
    !t.isKeyword "BETWEEN"

/-- The reader takes the tokens into the atom as a whole. -/
def Unbroken (ts : List Token) : Prop :=
  ∀ (r : Reading) (rest : List Token), r.depth = 0 → r.awaitsAnd = false →
    alternatives r (ts ++ rest) = alternatives (r.extend ts) rest

/-- Wherever the reader is, it takes plain tokens into the atom. -/
theorem alternatives_plain {ts : List Token} (h : ∀ t ∈ ts, t.isPlain) (r : Reading)
    (rest : List Token) : alternatives r (ts ++ rest) = alternatives (r.extend ts) rest := by
  induction ts generalizing r with
  | nil => simp [Reading.extend]
  | cons t ts ih =>
    have ht := h t (by simp)
    simp only [Token.isPlain, Bool.and_eq_true, bne_iff_ne, Bool.not_eq_true'] at ht
    obtain ⟨⟨⟨⟨hopen, hclose⟩, hor⟩, hand⟩, hbetween⟩ := ht
    have hpush : r.push t = r.extend [t] := by
      simp [Reading.push, Reading.extend, hopen, hclose, hand, hbetween]
    rw [List.cons_append, alternatives, if_neg (by simp [hor]), if_neg (by simp [hand]), hpush,
      ih (fun u hu => h u (by simp [hu]))]
    simp [Reading.extend]

namespace Unbroken

variable {a b : List Token}

/-- Plain tokens go into the atom as a whole. -/
theorem plain (h : ∀ t ∈ a, t.isPlain) : Unbroken a :=
  fun r rest _ _ => alternatives_plain h r rest

/-- Runs that are taken as a whole are so together. -/
theorem append (ha : Unbroken a) (hb : Unbroken b) : Unbroken (a ++ b) := by
  intro r rest hdepth hawaits
  rw [List.append_assoc, ha r _ hdepth hawaits, hb (r.extend a) rest hdepth hawaits]
  simp [Reading.extend]

/-- A list in parentheses is taken as a whole. -/
theorem parens (ha : ∀ t ∈ a, t.isPlain) : Unbroken (.sign "(" :: (a ++ [.sign ")"])) := by
  intro r rest hdepth hawaits
  have hin : alternatives r (.sign "(" :: (a ++ [.sign ")"]) ++ rest) =
      alternatives (r.push (.sign "(")) (a ++ .sign ")" :: rest) := by
    simp [alternatives, Token.isKeyword]
  have hout : ((r.push (.sign "(")).extend a).push (.sign ")") =
      r.extend (.sign "(" :: (a ++ [.sign ")"])) := by
    simp [Reading.push, Reading.extend, Token.isKeyword, hdepth, hawaits]
  rw [hin, alternatives_plain ha, alternatives, if_neg (by simp [Token.isKeyword]),
    if_neg (by simp [Token.isKeyword]), hout]

/-- The `AND` of a `BETWEEN` belongs to the atom. -/
theorem between (ha : ∀ t ∈ a, t.isPlain) (hb : ∀ t ∈ b, t.isPlain) :
    Unbroken (.word "BETWEEN" :: a ++ .word "AND" :: b) := by
  intro r rest hdepth hawaits
  have hkw : Token.isKeyword "OR" (.word "BETWEEN") = false ∧
      Token.isKeyword "AND" (.word "BETWEEN") = false ∧
      Token.isKeyword "BETWEEN" (.word "BETWEEN") = true := by decide
  have hkw' : Token.isKeyword "OR" (.word "AND") = false ∧
      Token.isKeyword "AND" (.word "AND") = true ∧
      Token.isKeyword "BETWEEN" (.word "AND") = false := by decide
  obtain ⟨hor, hand, hbetween⟩ := hkw
  obtain ⟨hor', hand', hbetween'⟩ := hkw'
  have hin : alternatives r (.word "BETWEEN" :: a ++ .word "AND" :: b ++ rest) =
      alternatives (r.push (.word "BETWEEN")) (a ++ .word "AND" :: (b ++ rest)) := by
    simp [alternatives, hor, hand]
  have hout : ((r.push (.word "BETWEEN")).extend a).push (.word "AND") =
      r.extend (.word "BETWEEN" :: a ++ [.word "AND"]) := by
    simp [Reading.push, Reading.extend, hdepth, hawaits, hand', hbetween, hbetween']
  have hawait : ((r.push (.word "BETWEEN")).extend a).awaitsAnd = true := by
    simp [Reading.push, Reading.extend, hdepth, hbetween]
  rw [hin, alternatives_plain ha, alternatives, if_neg (by simp [hor']),
    if_neg (by simp [hawait]), hout, alternatives_plain hb]
  simp [Reading.extend]

end Unbroken

/-- The reader takes an atom and goes on at an `OR`. -/
theorem alternatives_or {r : Reading} (hdepth : r.depth = 0) (ts : List Token) :
    alternatives r (.word "OR" :: ts) = r.next.group :: alternatives .start ts := by
  have hkw : Token.isKeyword "OR" (.word "OR") = true := by decide
  rw [alternatives, if_pos ⟨hdepth, hkw⟩]

/-- The reader takes an atom and goes on at an `AND` that no `BETWEEN` waits for. -/
theorem alternatives_and {r : Reading} (hdepth : r.depth = 0) (hawaits : r.awaitsAnd = false)
    (ts : List Token) : alternatives r (.word "AND" :: ts) = alternatives r.next ts := by
  have hkw : Token.isKeyword "OR" (.word "AND") = false ∧
      Token.isKeyword "AND" (.word "AND") = true := by decide
  rw [alternatives, if_neg (by simp [hkw.1]), if_pos ⟨hdepth, hkw.2, hawaits⟩]

end SqlBridge.Sql
