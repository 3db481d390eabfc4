import SqlBridge.Value

/-!
# Literals in SQL text

Finite numbers stand without quotes, truth values as one and zero, the null as a word, bytes
as hexadecimal digits behind an `X`. Every other value is its plain text between apostrophes,
with a backslash in front of the characters that would end the text or be lost on the way:
NUL, line feed, carriage return, backslash, both quotes and the control Z.
-/

namespace SqlBridge.Literal

/-- One character between apostrophes. -/
def escapeChar (c : Char) : List Char :=
  if c = '\x00' then ['\\', '0']
  else if c = '\n' then ['\\', 'n']
  else if c = '\r' then ['\\', 'r']
  else if c = '\\' then ['\\', '\\']
  else if c = '\'' then ['\\', '\'']
  else if c = '"' then ['\\', '"']
  else if c = '\x1a' then ['\\', 'Z']
  else [c]

/-- The characters of a text between apostrophes. -/
def escapeChars (s : List Char) : List Char := s.flatMap escapeChar

/-- The text between apostrophes, without them. -/
def escape (s : String) : String := String.ofList (escapeChars s.toList)

@[simp] theorem toList_escape (s : String) : (escape s).toList = escapeChars s.toList := by
  simp [escape]

@[simp] theorem escapeChars_append (a b : List Char) :
    escapeChars (a ++ b) = escapeChars a ++ escapeChars b := by
  simp [escapeChars]

/-- A text with its apostrophes. -/
def quoted (s : String) : String := "'" ++ escape s ++ "'"

end SqlBridge.Literal

namespace SqlBridge.Value

/-- The value as a literal. -/
def literal (v : Value) : String :=
  match v with
  | .null => "NULL"
  | .bool b => if b then "1" else "0"
  | .bytes data => "X'" ++ Hex.encode data ++ "'"
  | v => if v.isNumeric then v.display else Literal.quoted v.display

end SqlBridge.Value
