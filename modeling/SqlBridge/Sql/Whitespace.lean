import SqlBridge.Text.Characters
import SqlBridge.Sql.Name

/-!
# Collapsing white space in SQL text

Runs of blanks become one space and blanks at the ends disappear, except between quotes: text
between apostrophes, double quotes or backticks is copied as it is, and between the first two
a backslash takes the next character with it.

The scan is a machine with a small state (`Scan`), one step a character: `Scan.next` is where
it goes and `Scan.emit` what it writes. A blank is written late, in front of the next
character that is none, so none is written at the end. `collapseFrom_append` says that a text
can be scanned in two pieces.
-/

namespace SqlBridge.Sql

/-- The three quotes. -/
inductive QuoteMark where
  | apostrophe
  | double
  | backtick
  deriving DecidableEq, Repr

namespace QuoteMark

/-- The character of a quote. -/
def char : QuoteMark → Char
  | apostrophe => '\''
  | double => '"'
  | backtick => Name.backtick

/-- A backslash has a meaning between these quotes. -/
def hasEscapes : QuoteMark → Bool
  | backtick => false
  | _ => true

/-- The quote that a character opens. -/
def ofChar? (c : Char) : Option QuoteMark :=
  if c = '\'' then some apostrophe
  else if c = '"' then some double
  else if c = Name.backtick then some backtick
  else none

end QuoteMark

/-- Where a scan of SQL text stands. -/
inductive Scan where
  /-- Nothing was written yet. -/
  | start
  /-- Outside of quotes, behind a character. -/
  | word
  /-- Outside of quotes, behind a character and blanks. -/
  | gap
  /-- Between quotes. -/
  | quoted (q : QuoteMark)
  /-- Between quotes, behind a backslash. -/
  | escaped (q : QuoteMark)
  deriving DecidableEq, Repr

namespace Scan

/-- Where a character outside of quotes leads. -/
def afterPlain (c : Char) : Scan :=
  match QuoteMark.ofChar? c with
  | some q => quoted q
  | none => word

/-- Where a character leads. -/
def next (s : Scan) (c : Char) : Scan :=
  match s with
  | quoted q =>
    if c = '\\' ∧ q.hasEscapes then escaped q else if c = q.char then word else quoted q
  | escaped q => quoted q
  | start => if Text.isBlank c then start else afterPlain c
  | word => if Text.isBlank c then gap else afterPlain c
  | gap => if Text.isBlank c then gap else afterPlain c

/-- What is written for a character. -/
def emit (s : Scan) (c : Char) : List Char :=
  match s with
  | quoted _ => [c]
  | escaped _ => [c]
  | start => if Text.isBlank c then [] else [c]
  | word => if Text.isBlank c then [] else [c]
  | gap => if Text.isBlank c then [] else [' ', c]

/-- Where a text leads. -/
def after (s : Scan) (text : List Char) : Scan := text.foldl next s

@[simp] theorem after_nil (s : Scan) : s.after [] = s := rfl

@[simp] theorem after_cons (s : Scan) (c : Char) (r : List Char) :
    s.after (c :: r) = (s.next c).after r := rfl

/-- The scan of two texts goes on in the second where the first one leads. -/
theorem after_append (s : Scan) (a b : List Char) :
    s.after (a ++ b) = (s.after a).after b := List.foldl_append

end Scan

/-- What a scan writes for a text. -/
def collapseFrom : Scan → List Char → List Char
  | _, [] => []
  | s, c :: rest => s.emit c ++ collapseFrom (s.next c) rest

@[simp] theorem collapseFrom_nil (s : Scan) : collapseFrom s [] = [] := by
  simp [collapseFrom]

@[simp] theorem collapseFrom_cons (s : Scan) (c : Char) (r : List Char) :
    collapseFrom s (c :: r) = s.emit c ++ collapseFrom (s.next c) r := rfl

/-- A text can be scanned in two pieces. -/
theorem collapseFrom_append (s : Scan) (a b : List Char) :
    collapseFrom s (a ++ b) = collapseFrom s a ++ collapseFrom (s.after a) b := by
  induction a generalizing s with
  | nil => simp
  | cons c r ih => simp [ih]

/-- The characters of a text without superfluous blanks. -/
def collapseChars (s : List Char) : List Char := collapseFrom .start s

/-- A text without superfluous blanks. -/
def collapse (s : String) : String := String.ofList (collapseChars s.toList)

@[simp] theorem toList_collapse (s : String) :
    (collapse s).toList = collapseChars s.toList := by simp [collapse]

example : collapse "  a \t b  'x  y\\'  z'  " = "a b 'x  y\\'  z'" := by decide +kernel

end SqlBridge.Sql
