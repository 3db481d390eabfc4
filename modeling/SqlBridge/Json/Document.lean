import SqlBridge.Json.Number

/-!
# JSON texts as written

`JsonDocument` is what the grammar of JSON alone says about a text: members in the order they
stand in, repeated keys included, numbers as their digits, and strings that may be unreadable
because half of a surrogate pair stands alone. A reader that skips a part of the document is
satisfied with that much. `toJson` takes the whole document for its value; it gives up at a
nesting of 128 arrays and objects, counted by the budget that it is given.

An object whose first key is `textKey` stands for another text: the value of that key is the
text, and the object has no other key. The inner text is read as a whole text of its own, with a
nesting of its own.
-/

namespace SqlBridge

/-- A JSON text taken apart. -/
inductive JsonDocument where
  | null
  | bool (b : Bool)
  | number (l : JsonLexeme)
  /-- A string, or nothing where its escapes spell no text. -/
  | string (s : Option String)
  | array (items : List JsonDocument)
  | object (members : List (Option String × JsonDocument))
  deriving Repr, Inhabited

namespace JsonDocument

/-! ## Strings -/

/-- A piece of a string: a character, or a code unit that was written as an escape. -/
inductive Piece where
  | char (c : Char)
  | unit (n : Nat)
  deriving DecidableEq, Repr

/-- The characters of the pieces; a surrogate has to stand in a pair. -/
def joinPieces : List Piece → Option (List Char)
  | [] => some []
  | .char c :: rest => (joinPieces rest).map (c :: ·)
  | .unit high :: .unit low :: rest =>
    if 0xD800 ≤ high ∧ high < 0xDC00 then
      if 0xDC00 ≤ low ∧ low < 0xE000 then
        (joinPieces rest).map
          (Char.ofNat (0x10000 + (high - 0xD800) * 0x400 + (low - 0xDC00)) :: ·)
      else none
    else if 0xDC00 ≤ high ∧ high < 0xE000 then none
    else (joinPieces (.unit low :: rest)).map (Char.ofNat high :: ·)
  | .unit n :: rest =>
    if 0xD800 ≤ n ∧ n < 0xE000 then none else (joinPieces rest).map (Char.ofNat n :: ·)

/-- The character of a one-letter escape. -/
def shortEscape? (c : Char) : Option Char :=
  if c = '"' then some '"'
  else if c = '\\' then some '\\'
  else if c = '/' then some '/'
  else if c = 'b' then some '\x08'
  else if c = 'f' then some '\x0c'
  else if c = 'n' then some '\n'
  else if c = 'r' then some '\r'
  else if c = 't' then some '\t'
  else none

/-- The number that four hexadecimal digits spell. -/
def hexUnit? (a b c d : Char) : Option Nat :=
  match Numeral.hexDigit? a, Numeral.hexDigit? b, Numeral.hexDigit? c, Numeral.hexDigit? d with
  | some a, some b, some c, some d => some (((a * 16 + b) * 16 + c) * 16 + d)
  | _, _, _, _ => none

/-- Reads up to the closing quote. -/
def readPieces : List Char → Option (List Piece × List Char)
  | [] => none
  | '"' :: rest => some ([], rest)
  | '\\' :: 'u' :: a :: b :: c :: d :: rest =>
    match hexUnit? a b c d with
    | none => none
    | some n => (readPieces rest).map fun r => (.unit n :: r.1, r.2)
  | '\\' :: e :: rest =>
    match shortEscape? e with
    | none => none
    | some c => (readPieces rest).map fun r => (.char c :: r.1, r.2)
  | c :: rest =>
    if c.toNat < 32 ∨ c = '\\' then none
    else (readPieces rest).map fun r => (.char c :: r.1, r.2)

/-- Reads a string behind its opening quote. -/
def readString (s : List Char) : Option (Option String × List Char) :=
  (readPieces s).map fun r => ((joinPieces r.1).map String.ofList, r.2)

/-! ## Numbers -/

/-- The digits in front and what follows them. -/
def readDigits : List Char → List Nat × List Char
  | [] => ([], [])
  | c :: rest =>
    match Numeral.digit? c with
    | some d => let (ds, r) := readDigits rest; (d :: ds, r)
    | none => ([], c :: rest)

/-- Reads the digits behind a point, of which there is at least one. -/
def readFraction : List Char → Option (Option (List Nat) × List Char)
  | '.' :: rest =>
    match readDigits rest with
    | ([], _) => none
    | (ds, r) => some (some ds, r)
  | s => some (none, s)

/-- Reads an exponent, which has at least one digit. -/
def readExponent (s : List Char) : Option (Option (Bool × List Nat) × List Char) :=
  let signed (s : List Char) : Bool × List Char :=
    match s with
    | '-' :: rest => (true, rest)
    | '+' :: rest => (false, rest)
    | _ => (false, s)
  match s with
  | c :: rest =>
    if c = 'e' ∨ c = 'E' then
      let (negative, digits) := signed rest
      match readDigits digits with
      | ([], _) => none
      | (ds, r) => some (some (negative, ds), r)
    else some (none, s)
  | [] => some (none, s)

/-- Reads a number behind its sign; a zero stands alone before the point. -/
def readUnsigned (negative : Bool) (s : List Char) : Option (JsonLexeme × List Char) :=
  match readDigits s with
  | ([], _) => none
  | (0 :: _ :: _, _) => none
  | (whole, r) =>
    match readFraction r with
    | none => none
    | some (fraction, r) =>
      match readExponent r with
      | none => none
      | some (exponent, r) => some (⟨negative, whole, fraction, exponent⟩, r)

/-! ## Values -/

/-- The four characters that may stand between tokens. -/
def isSpace (c : Char) : Bool := c == ' ' || c == '\n' || c == '\t' || c == '\r'

/-- The text behind leading spaces. -/
def skip (s : List Char) : List Char := s.dropWhile isSpace

mutual
/-- Reads one value; `fuel` bounds the number of tokens. -/
def readValue : Nat → List Char → Option (JsonDocument × List Char)
  | 0, _ => none
  | fuel + 1, s =>
    match skip s with
    | 'n' :: 'u' :: 'l' :: 'l' :: r => some (.null, r)
    | 't' :: 'r' :: 'u' :: 'e' :: r => some (.bool true, r)
    | 'f' :: 'a' :: 'l' :: 's' :: 'e' :: r => some (.bool false, r)
    | '"' :: r => (readString r).map fun x => (.string x.1, x.2)
    | '-' :: r => (readUnsigned true r).map fun x => (.number x.1, x.2)
    | '[' :: r =>
      match skip r with
      | ']' :: r => some (.array [], r)
      | _ => (readItems fuel r).map fun x => (.array x.1, x.2)
    | '\x7b' :: r =>
      match skip r with
      | '\x7d' :: r => some (.object [], r)
      | _ => (readMembers fuel r).map fun x => (.object x.1, x.2)
    | r => (readUnsigned false r).map fun x => (.number x.1, x.2)

/-- Reads the items of an array, of which there is at least one, and the bracket. -/
def readItems : Nat → List Char → Option (List JsonDocument × List Char)
  | 0, _ => none
  | fuel + 1, s =>
    match readValue fuel s with
    | none => none
    | some (item, r) =>
      match skip r with
      | ',' :: r => (readItems fuel r).map fun x => (item :: x.1, x.2)
      | ']' :: r => some ([item], r)
      | _ => none

/-- Reads the members of an object, of which there is at least one, and the brace. -/
def readMembers : Nat → List Char → Option (List (Option String × JsonDocument) × List Char)
  | 0, _ => none
  | fuel + 1, s =>
    match skip s with
    | '"' :: r =>
      match readString r with
      | none => none
      | some (key, r) =>
        match skip r with
        | ':' :: r =>
          match readValue fuel r with
          | none => none
          | some (value, r) =>
            match skip r with
            | ',' :: r => (readMembers fuel r).map fun x => ((key, value) :: x.1, x.2)
            | '\x7d' :: r => some ([(key, value)], r)
            | _ => none
        | _ => none
    | _ => none
end

/-- Reads a whole text; only spaces may follow the value. -/
def ofText? (s : String) : Option JsonDocument :=
  let cs := s.toList
  match readValue (2 * cs.length + 2) cs with
  | some (d, r) => if skip r = [] then some d else none
  | none => none

/-! ## Values of documents -/

/-- How many arrays and objects may be open at once, and one more. -/
def nesting : Nat := 128

/-- The key under which an object gives its value as a text. -/
def textKey : String := "$serde_json::private::RawValue"

/-- The text that an object with `textKey` in front stands for, if it is well formed; nothing at
all for other objects. -/
def innerText? : List (Option String × JsonDocument) → Option (Option String)
  | (some key, value) :: rest =>
    if key = textKey then
      match value, rest with
      | .string s, [] => some s
      | _, _ => some none
    else none
  | _ => none

mutual
/-- The value of a document within a budget of nesting; `readText` reads texts within it. -/
def toJsonWith (readText : String → Option Json) (budget : Nat) : JsonDocument → Option Json
  | .null => some .null
  | .bool b => some (.bool b)
  | .number l => l.value?.map Json.number
  | .string s => s.map Json.string
  | .array items =>
    if budget ≤ 1 then none else (itemsToJson readText (budget - 1) items).map Json.array
  | .object members =>
    if budget ≤ 1 then none
    else
      match innerText? members with
      | some text => text.bind readText
      | none => (membersToJson readText (budget - 1) members).map Json.ofMembers

/-- The values of all items. -/
def itemsToJson (readText : String → Option Json) (budget : Nat) :
    List JsonDocument → Option (List Json)
  | [] => some []
  | item :: rest =>
    match item.toJsonWith readText budget, itemsToJson readText budget rest with
    | some i, some r => some (i :: r)
    | _, _ => none

/-- The values of all members. -/
def membersToJson (readText : String → Option Json) (budget : Nat) :
    List (Option String × JsonDocument) → Option (List (String × Json))
  | [] => some []
  | (key, value) :: rest =>
    match key, value.toJsonWith readText budget, membersToJson readText budget rest with
    | some k, some v, some r => some ((k, v) :: r)
    | _, _, _ => none
end

end JsonDocument

/-- The value of a text with fewer than `layers` texts within each other. -/
def Json.ofLayers? : Nat → String → Option Json
  | 0, _ => none
  | layers + 1, s =>
    (JsonDocument.ofText? s).bind
      (JsonDocument.toJsonWith (Json.ofLayers? layers) JsonDocument.nesting)

/-- The value that a JSON text spells. A text within it is shorter, so that its length bounds
the layers. -/
def Json.ofText? (s : String) : Option Json := Json.ofLayers? (s.length + 1) s

/-- The value of a document within a budget of nesting. -/
def JsonDocument.toJson (budget : Nat) (d : JsonDocument) : Option Json :=
  d.toJsonWith Json.ofText? budget

example : (Json.ofText? " [1, -0, 2.50, \"a\\u00e9\"] ").map Json.text =
    some "[1,-0.0,2.5,\"aé\"]" := by decide +kernel
example : (Json.ofText? "[01]").isNone ∧ (Json.ofText? "1e999").isNone := by decide +kernel

example : (Json.ofText? "\x7b\"$serde_json::private::RawValue\": \" [1]\"\x7d").map Json.text =
    some "[1]" := by decide +kernel

end SqlBridge
