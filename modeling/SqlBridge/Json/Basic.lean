import SqlBridge.Decimal.Layout

/-!
# JSON values and their text

A value is one of the six kinds of JSON. Whole numbers between `-2 ^ 63` and `2 ^ 64 - 1` are
kept exactly, all others are floating-point numbers. The members of an object stand in the
order of their keys' code points, each key once: `insertMember` keeps that order and lets the
last value of a key win.

The text is compact. Inside a string the quote, the backslash and the controls are escaped,
everything else stands as it is.
-/

namespace SqlBridge

/-- A whole number from `-2 ^ 63` to `2 ^ 64 - 1`: it has 64 bits, signed or unsigned. -/
abbrev JsonNumber.Fits (n : Int) : Prop := -0x8000000000000000 ≤ n ∧ n < 0x10000000000000000

/-- A number of a JSON value. -/
inductive JsonNumber where
  /-- A whole number that fits 64 bits, signed or unsigned. -/
  | integer (n : Int) (fits : JsonNumber.Fits n)
  /-- The bits of a 64-bit number. -/
  | double (bits : UInt64)
  /-- The bits of a 32-bit number, written with the digits of its own width. -/
  | single (bits : UInt32)
  deriving DecidableEq, Repr

/-- A JSON value. -/
inductive Json where
  | null
  | bool (b : Bool)
  | number (n : JsonNumber)
  | string (s : String)
  | array (items : List Json)
  | object (members : List (String × Json))
  deriving Repr, Inhabited

namespace JsonNumber

/-- A whole number as a JSON number, if it fits. -/
def ofInt? (n : Int) : Option JsonNumber :=
  if h : Fits n then some (.integer n h) else none

/-- A number is written in full; what is no number becomes `null`. -/
def text : JsonNumber → String
  | .integer n _ => toString n
  | .double bits => Binary.double.jsonText .double bits.toNat
  | .single bits => Binary.single.jsonText .single bits.toNat

end JsonNumber

namespace Json

/-- The member goes in front of the first key that is greater and replaces an equal one. -/
def insertMember (key : String) (value : Json) :
    List (String × Json) → List (String × Json)
  | [] => [(key, value)]
  | (k, v) :: rest =>
    if key < k then (key, value) :: (k, v) :: rest
    else if key = k then (key, value) :: rest
    else (k, v) :: insertMember key value rest

/-- The object with these members, a later one replacing an earlier one of the same key. -/
def ofMembers (members : List (String × Json)) : Json :=
  .object (members.foldl (fun sorted m => insertMember m.1 m.2 sorted) [])

/-- The value of a key of an object. -/
def member? (key : String) : Json → Option Json
  | .object members => members.lookup key
  | _ => none

/-! ## Text -/

/-- One character inside the quotes. -/
def escapedChar (c : Char) : List Char :=
  if c = '"' then ['\\', '"']
  else if c = '\\' then ['\\', '\\']
  else if c = '\x08' then ['\\', 'b']
  else if c = '\t' then ['\\', 't']
  else if c = '\n' then ['\\', 'n']
  else if c = '\x0c' then ['\\', 'f']
  else if c = '\r' then ['\\', 'r']
  else if c.toNat < 16 then ['\\', 'u', '0', '0', '0'] ++ Nat.toDigits 16 c.toNat
  else if c.toNat < 32 then ['\\', 'u', '0', '0'] ++ Nat.toDigits 16 c.toNat
  else [c]

/-- A string between quotes. -/
def quoted (s : String) : String :=
  String.ofList ('"' :: (s.toList.flatMap escapedChar ++ ['"']))

mutual
/-- The compact text of a value. -/
def text : Json → String
  | .null => "null"
  | .bool b => if b then "true" else "false"
  | .number n => n.text
  | .string s => quoted s
  | .array items => "[" ++ itemsText items ++ "]"
  | .object members => "\x7b" ++ membersText members ++ "\x7d"

/-- The items of an array behind one another. -/
def itemsText : List Json → String
  | [] => ""
  | [item] => item.text
  | item :: rest => item.text ++ "," ++ itemsText rest

/-- The members of an object behind one another. -/
def membersText : List (String × Json) → String
  | [] => ""
  | [(key, value)] => quoted key ++ ":" ++ value.text
  | (key, value) :: rest => quoted key ++ ":" ++ value.text ++ "," ++ membersText rest
end

/-- A whole number of up to 64 bits. -/
def ofInt (n : Int) (fits : JsonNumber.Fits n) : Json := .number (.integer n fits)

/-- A natural number; one beyond 64 bits is not representable and becomes `null`. -/
def ofNat (n : Nat) : Json :=
  match JsonNumber.ofInt? n with
  | some k => .number k
  | none => .null

end Json

example : (Json.ofMembers [("b", .null), ("a", .bool true), ("b", .string "x\n")]).text =
    "\x7b\"a\":true,\"b\":\"x\\n\"\x7d" := by decide +kernel

end SqlBridge
