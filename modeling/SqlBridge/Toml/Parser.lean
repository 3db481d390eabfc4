import SqlBridge.Toml.Number
import SqlBridge.Toml.Moment

/-!
# Reading TOML documents

A document is read line by line: a header opens a table, any other line that is not blank and
no comment gives a key its value. Lines end with a line feed, with or without a carriage return
in front of it, and a string of several lines keeps its line ends as they are. Other controls
than the tab stand nowhere. Arrays and tables in braces may run over several lines and end with
a comma; they lie within each other up to the depth `nesting`, and a key has no more parts than
that.

Truth values, numbers, dates and times are written without quotes, in one word or in several
with blanks between them.

Every reader takes the remaining characters and gives back a value and what it left; `none`
says that the text is no TOML.
-/

namespace SqlBridge.Toml

/-- How many arrays and tables in braces may be open at once, and how many parts a key may
have. -/
def nesting : Nat := 80

/-! ## Bare values -/

/-- The value of a text without quotes. -/
def scalar? (s : List Char) : Option Toml :=
  if s = ['t', 'r', 'u', 'e'] then some (.bool true)
  else if s = ['f', 'a', 'l', 's', 'e'] then some (.bool false)
  else
    match moment? s with
    | some text => some (.moment text)
    | none => number? s

/-! ## Lines -/

/-- What follows a line end. -/
def behindLineEnd? : List Char → Option (List Char)
  | '\n' :: rest => some rest
  | '\r' :: '\n' :: rest => some rest
  | _ => none

/-- A character that may stand in comments and strings: a tab or no control at all. -/
def isText (c : Char) : Bool := c == '\t' || (32 ≤ c.toNat && c.toNat != 127)

/-- A blank within a line. -/
def isSpace (c : Char) : Bool := c == ' ' || c == '\t'

/-- What follows blanks within a line. -/
def skipSpaces (s : List Char) : List Char := s.dropWhile isSpace

/-- What follows blanks and a comment up to the end of the line. -/
def skipComment (s : List Char) : Option (List Char) :=
  match skipSpaces s with
  | '#' :: rest =>
    match rest.dropWhile isText with
    | [] => some []
    | r => if (behindLineEnd? r).isSome then some r else none
  | r => some r

/-- What follows blanks, comments and line ends. -/
def skipLines : Nat → List Char → Option (List Char)
  | 0, s => some s
  | fuel + 1, s =>
    match skipComment s with
    | none => none
    | some r =>
      match behindLineEnd? r with
      | some rest => skipLines fuel rest
      | none => some r

/-! ## Strings -/

/-- The character with a code point, if there is one. -/
def scalarOf? (n : Nat) : Option Char :=
  if n < 0xD800 ∨ (0xE000 ≤ n ∧ n < 0x110000) then some (Char.ofNat n) else none

/-- The character of hexadecimal digits. -/
def hexChar? (ds : List Char) : Option Char :=
  (ds.mapM Numeral.hexDigit?).bind fun ds => scalarOf? (digitsValue 16 ds)

/-- Reads an escape behind its backslash. -/
def readEscape : List Char → Option (Char × List Char)
  | 'x' :: a :: b :: rest => (hexChar? [a, b]).map fun c => (c, rest)
  | 'u' :: a :: b :: c :: d :: rest => (hexChar? [a, b, c, d]).map fun x => (x, rest)
  | 'U' :: a :: b :: c :: d :: e :: f :: g :: h :: rest =>
    (hexChar? [a, b, c, d, e, f, g, h]).map fun x => (x, rest)
  | '"' :: rest => some ('"', rest)
  | '\\' :: rest => some ('\\', rest)
  | 'b' :: rest => some ('\x08', rest)
  | 'e' :: rest => some ('\x1b', rest)
  | 'f' :: rest => some ('\x0c', rest)
  | 'n' :: rest => some ('\n', rest)
  | 'r' :: rest => some ('\r', rest)
  | 't' :: rest => some ('\t', rest)
  | _ => none

/-- Puts a character in front of what was read. -/
def consRead (c : Char) (r : List Char × List Char) : List Char × List Char := (c :: r.1, r.2)

/-- Reads a string of one line behind its double quote. -/
def readBasic : Nat → List Char → Option (List Char × List Char)
  | 0, _ => none
  | fuel + 1, s =>
    match s with
    | '"' :: rest => some ([], rest)
    | '\\' :: rest =>
      match readEscape rest with
      | some (c, rest) => (readBasic fuel rest).map (consRead c)
      | none => none
    | c :: rest => if isText c then (readBasic fuel rest).map (consRead c) else none
    | [] => none

/-- What follows blanks and line ends. -/
def skipBlanks : List Char → List Char
  | '\r' :: '\n' :: rest => skipBlanks rest
  | c :: rest => if isSpace c || c == '\n' then skipBlanks rest else c :: rest
  | [] => []

/-- What follows a backslash at the end of a line: all blanks and line ends are dropped. -/
def behindJoin? (s : List Char) : Option (List Char) :=
  (behindLineEnd? (skipSpaces s)).map skipBlanks

/-- Reads a string of several lines behind its three double quotes. Up to two quotes may stand
right before the closing three. -/
def readLongBasic : Nat → List Char → Option (List Char × List Char)
  | 0, _ => none
  | fuel + 1, s =>
    match s with
    | '"' :: '"' :: '"' :: '"' :: '"' :: rest => some (['"', '"'], rest)
    | '"' :: '"' :: '"' :: '"' :: rest => some (['"'], rest)
    | '"' :: '"' :: '"' :: rest => some ([], rest)
    | '\\' :: rest =>
      match behindJoin? rest with
      | some rest => readLongBasic fuel rest
      | none =>
        match readEscape rest with
        | some (c, rest) => (readLongBasic fuel rest).map (consRead c)
        | none => none
    | '\r' :: '\n' :: rest =>
      (readLongBasic fuel rest).map fun r => consRead '\r' (consRead '\n' r)
    | c :: rest =>
      if isText c ∨ c = '\n' then (readLongBasic fuel rest).map (consRead c) else none
    | [] => none

/-- Reads a string of one line behind its apostrophe. -/
def readLiteral : List Char → Option (List Char × List Char)
  | '\x27' :: rest => some ([], rest)
  | c :: rest => if isText c then (readLiteral rest).map (consRead c) else none
  | [] => none

/-- Reads a string of several lines behind its three apostrophes. -/
def readLongLiteral : List Char → Option (List Char × List Char)
  | '\x27' :: '\x27' :: '\x27' :: '\x27' :: '\x27' :: rest => some (['\x27', '\x27'], rest)
  | '\x27' :: '\x27' :: '\x27' :: '\x27' :: rest => some (['\x27'], rest)
  | '\x27' :: '\x27' :: '\x27' :: rest => some ([], rest)
  | '\r' :: '\n' :: rest =>
    (readLongLiteral rest).map fun r => consRead '\r' (consRead '\n' r)
  | c :: rest =>
    if isText c ∨ c = '\n' then (readLongLiteral rest).map (consRead c) else none
  | [] => none

/-- Drops the line end right behind the opening quotes. -/
def dropFirstLineEnd (s : List Char) : List Char := (behindLineEnd? s).getD s

/-- Reads a string in any of the four notations. -/
def readString (fuel : Nat) (s : List Char) : Option (String × List Char) :=
  let text : Option (List Char × List Char) :=
    match s with
    | '"' :: '"' :: '"' :: rest => readLongBasic fuel (dropFirstLineEnd rest)
    | '"' :: rest => readBasic fuel rest
    | '\x27' :: '\x27' :: '\x27' :: rest => readLongLiteral (dropFirstLineEnd rest)
    | '\x27' :: rest => readLiteral rest
    | _ => none
  text.map fun r => (String.ofList r.1, r.2)

/-! ## Keys -/

/-- A character of a key without quotes. -/
def isKeyChar (c : Char) : Bool := c.isAlphanum || c == '_' || c == '-'

/-- Reads one part of a key; it has no notation of several lines. -/
def readKeyPart (fuel : Nat) (s : List Char) : Option (String × List Char) :=
  match s with
  | '"' :: rest => (readBasic fuel rest).map fun r => (String.ofList r.1, r.2)
  | '\x27' :: rest => (readLiteral rest).map fun r => (String.ofList r.1, r.2)
  | _ =>
    match s.takeWhile isKeyChar with
    | [] => none
    | cs => some (String.ofList cs, s.dropWhile isKeyChar)

/-- Reads a key: its parts before the last, the last, and what follows its blanks. -/
def readParts : Nat → List Char → Option (List String × String × List Char)
  | 0, _ => none
  | fuel + 1, s =>
    match readKeyPart fuel (skipSpaces s) with
    | none => none
    | some (part, rest) =>
      match skipSpaces rest with
      | '.' :: rest => (readParts fuel rest).map fun r => (part :: r.1, r.2)
      | rest => some ([], part, rest)

/-- Reads a key that has no more parts than it may. -/
def readKey (fuel : Nat) (s : List Char) : Option (List String × String × List Char) :=
  (readParts fuel s).filter fun r => r.1.length < nesting

/-! ## Values -/

/-- A character of a value without quotes: all but blanks, line ends and the marks of values,
keys and comments. -/
def isScalarChar (c : Char) : Bool :=
  !([' ', '\t', '\r', '\n', '#', '=', ',', '[', ']', '\x7b', '\x7d'].contains c)

/-- A character that may follow blanks within a value without quotes. -/
def startsWord (c : Char) : Bool :=
  isScalarChar c && !(['.', '"', '\x27'].contains c)

/-- The words in front and what follows them. Blanks between two words belong to them; `blanks`
are those that were just met, the last one first. -/
def readWords (blanks : List Char) : List Char → List Char × List Char
  | [] => ([], blanks.reverse)
  | c :: rest =>
    if isSpace c then readWords (c :: blanks) rest
    else if isScalarChar c && (blanks.isEmpty || startsWord c) then
      let r := readWords [] rest
      (blanks.reverseAux (c :: r.1), r.2)
    else ([], blanks.reverseAux (c :: rest))

/-- Reads a value without quotes. It may have blanks within it, as between a date and a time. -/
def readScalar (s : List Char) : Option (Toml × List Char) :=
  let (words, rest) := readWords [] s
  (scalar? words).map fun v => (v, rest)

/-- What follows the equals sign of an entry in braces; lines may end on both sides of it. -/
def behindEquals? (fuel : Nat) (s : List Char) : Option (List Char) :=
  match skipLines fuel s with
  | some ('=' :: rest) => skipLines fuel rest
  | _ => none

mutual
/-- Reads a value with `room` for arrays and tables in braces within each other. -/
def readValue : Nat → Nat → List Char → Option (Toml × List Char)
  | 0, _, _ => none
  | fuel + 1, room, s =>
    match s, room with
    | '"' :: _, _ => (readString fuel s).map fun r => (.string r.1, r.2)
    | '\x27' :: _, _ => (readString fuel s).map fun r => (.string r.1, r.2)
    | '[' :: _, 0 => none
    | '[' :: rest, room + 1 => (readItems fuel room rest).map fun r => (.array false r.1, r.2)
    | '\x7b' :: _, 0 => none
    | '\x7b' :: rest, room + 1 =>
      (readMembers fuel room .braces [] rest).map fun r => (.table .braces r.1, r.2)
    | _, _ => readScalar s

/-- Reads the items of an array and its bracket. -/
def readItems : Nat → Nat → List Char → Option (List Toml × List Char)
  | 0, _, _ => none
  | fuel + 1, room, s =>
    match skipLines fuel s with
    | some (']' :: rest) => some ([], rest)
    | some s =>
      match readValue fuel room s with
      | none => none
      | some (item, rest) =>
        match skipLines fuel rest with
        | some (',' :: rest) => (readItems fuel room rest).map fun r => (item :: r.1, r.2)
        | some (']' :: rest) => some ([item], rest)
        | _ => none
    | none => none

/-- Reads the entries of a table in braces and the brace. -/
def readMembers : Nat → Nat → TomlOrigin → Entries → List Char →
    Option (Entries × List Char)
  | 0, _, _, _, _ => none
  | fuel + 1, room, origin, entries, s =>
    match skipLines fuel s with
    | some ('\x7d' :: rest) => some (entries, rest)
    | some s =>
      match readKey fuel s with
      | none => none
      | some (path, key, rest) =>
        match (behindEquals? fuel rest).bind (readValue fuel room) with
        | none => none
        | some (value, rest) =>
          match addEntry path key value origin entries with
          | none => none
          | some (origin, entries) =>
            match skipLines fuel rest with
            | some (',' :: rest) => readMembers fuel room origin entries rest
            | some ('\x7d' :: rest) => some (entries, rest)
            | _ => none
    | none => none
end

/-! ## Documents -/

/-- What follows the end of the line behind a header or an entry. -/
def behindLine? (s : List Char) : Option (List Char) :=
  match skipComment s with
  | some [] => some []
  | some r => behindLineEnd? r
  | none => none

/-- Reads lines into the table of the document; `current` is the path of the last header. -/
def readLines : Nat → List String → Entries → List Char → Option Entries
  | 0, _, _, _ => none
  | fuel + 1, current, entries, s =>
    match skipLines (fuel + 1) s with
    | none => none
    | some [] => some entries
    | some ('[' :: '[' :: rest) =>
      match readKey fuel rest with
      | some (path, key, ']' :: ']' :: rest) =>
        match openItem path key .header entries, behindLine? rest with
        | some (_, entries), some rest => readLines fuel (path ++ [key]) entries rest
        | _, _ => none
      | _ => none
    | some ('[' :: rest) =>
      match readKey fuel rest with
      | some (path, key, ']' :: rest) =>
        match openTable path key .header entries, behindLine? rest with
        | some (_, entries), some rest => readLines fuel (path ++ [key]) entries rest
        | _, _ => none
      | _ => none
    | some s =>
      match readKey fuel s with
      | some (path, key, '=' :: rest) =>
        match readValue fuel nesting (skipSpaces rest) with
        | none => none
        | some (value, rest) =>
          match addUnder current path key value .header entries, behindLine? rest with
          | some (_, entries), some rest => readLines fuel current entries rest
          | _, _ => none
      | _ => none

/-- The byte-order mark in front of a text is dropped. -/
def dropMark : List Char → List Char
  | c :: rest => if c.toNat = 0xFEFF then rest else c :: rest
  | [] => []

/-- The entries of the table that a text spells. -/
def ofText? (s : String) : Option Entries :=
  let cs := dropMark s.toList
  readLines (2 * cs.length + 2) [] [] cs

end SqlBridge.Toml
