import SqlBridge.Json.Basic
import SqlBridge.Decimal.Fixed
import SqlBridge.Text.Numeral
import SqlBridge.Calendar

/-!
# SQL values

A `Value` is what stands in a cell or behind a literal. Integers keep the width they were
stored with, floating-point numbers their bits, decimals their scale. Dates and times are
texts once they are values.

Besides the constructors from other types the module holds the readings of a value: its plain
text, as a number, as a truth value, and as a JSON value. A text reads as a number when it is
a decimal numeral and nothing else, so an id that comes back as text is still an id.
-/

namespace SqlBridge

/-- A value of an SQL statement or of a result cell. -/
inductive Value where
  | null
  | bool (b : Bool)
  | tinyInt (n : Int8)
  | smallInt (n : Int16)
  | int (n : Int32)
  | bigInt (n : Int64)
  | unsignedTinyInt (n : UInt8)
  | unsignedSmallInt (n : UInt16)
  | unsignedInt (n : UInt32)
  | unsignedBigInt (n : UInt64)
  /-- The bits of a 32-bit floating-point number. -/
  | float (bits : UInt32)
  /-- The bits of a 64-bit floating-point number. -/
  | double (bits : UInt64)
  | decimal (d : Fixed)
  | string (s : String)
  /-- A text of unlimited length. -/
  | text (s : String)
  | bytes (data : List UInt8)
  | json (j : Json)
  | date (s : String)
  | time (s : String)
  | dateTime (s : String)
  deriving Inhabited

namespace Value

/-! ## Values of other types -/

/-- A day as a value. -/
def ofDate (d : Date) : Value := .date d.text

/-- A time of day as a value. -/
def ofClockTime (t : ClockTime) : Value := .time t.text

/-- A moment as a value. -/
def ofDateTime (m : DateTime) : Value := .dateTime m.text

/-- A value that may be missing. -/
def ofOption : Option Value → Value
  | some v => v
  | none => .null

/-! ## Readings -/

/-- The value is the null. -/
def isNull : Value → Bool
  | .null => true
  | _ => false

/-- The number of an integer of any width. -/
def integer? : Value → Option Int
  | .tinyInt n => some n.toInt
  | .smallInt n => some n.toInt
  | .int n => some n.toInt
  | .bigInt n => some n.toInt
  | .unsignedTinyInt n => some n.toNat
  | .unsignedSmallInt n => some n.toNat
  | .unsignedInt n => some n.toNat
  | .unsignedBigInt n => some n.toNat
  | _ => none

/-- The number of an integer fits 64 bits, signed or unsigned. -/
theorem integer?_fits {v : Value} {n : Int} (h : v.integer? = some n) :
    JsonNumber.Fits n := by
  cases v <;> simp only [integer?, Option.some.injEq, reduceCtorEq] at h <;> subst h
  case tinyInt n => have := n.le_toInt; have := n.toInt_lt; omega
  case smallInt n => have := n.le_toInt; have := n.toInt_lt; omega
  case int n => have := n.le_toInt; have := n.toInt_lt; omega
  case bigInt n => have := n.le_toInt; have := n.toInt_lt; omega
  case unsignedTinyInt n => have := n.toNat_lt; omega
  case unsignedSmallInt n => have := n.toNat_lt; omega
  case unsignedInt n => have := n.toNat_lt; omega
  case unsignedBigInt n => have := n.toNat_lt; omega

/-- Numbers stand in SQL without quotes; what is no finite number does not count. -/
def isNumeric : Value → Bool
  | .bool _ => true
  | .decimal _ => true
  | .float bits => Binary.single.isFinite bits.toNat
  | .double bits => Binary.double.isFinite bits.toNat
  | v => v.integer?.isSome

/-- The plain text of a value. Bytes are only counted. -/
def display (v : Value) : String :=
  match v with
  | .null => "NULL"
  | .bool b => if b then "true" else "false"
  | .float bits => Binary.single.plainText bits.toNat
  | .double bits => Binary.double.plainText bits.toNat
  | .decimal d => d.text
  | .string s => s
  | .text s => s
  | .bytes data => "<binary:" ++ toString data.length ++ " bytes>"
  | .json j => j.text
  | .date s => s
  | .time s => s
  | .dateTime s => s
  | _ => toString (v.integer?.getD 0)

/-- The value as a text; the null and bytes have none. -/
def toText? : Value → Option String
  | .null => none
  | .bytes _ => none
  | v => some v.display

/-- The value as a signed 64-bit number: an integer in range, or its numeral. -/
def toInt64? (v : Value) : Option Int64 :=
  let ofInt (n : Int) : Option Int64 :=
    if -0x8000000000000000 ≤ n ∧ n < 0x8000000000000000 then some (Int64.ofInt n) else none
  let ofNumeral (s : String) : Option Int64 :=
    match Numeral.readInt 0x8000000000000000 s.toList with
    | .ok n => ofInt n
    | .error _ => none
  match v with
  | .string s => ofNumeral s
  | .text s => ofNumeral s
  | v => v.integer?.bind ofInt

/-- The value as an unsigned 64-bit number: the widest integers as they are, all others by
way of the signed one. -/
def toUInt64? : Value → Option UInt64
  | .unsignedBigInt n => some n
  | v => v.toInt64?.bind fun n => if 0 ≤ n.toInt then some (UInt64.ofNat n.toInt.toNat) else none

/-- The words for true, in lower case. -/
def trueWords : List String := ["true", "t", "yes", "y", "1"]

/-- The words for false, in lower case. -/
def falseWords : List String := ["false", "f", "no", "n", "0"]

/-- The truth value that a word names in any case. Lowering the ASCII letters is enough: no
other character has one of the words' letters as its lower case. -/
def wordToBool? (s : String) : Option Bool :=
  let word := String.ofList (s.toList.map Char.toLower)
  if trueWords.contains word then some true
  else if falseWords.contains word then some false
  else none

/-- The value as a truth value: a word for one, or a number that is zero or not. -/
def toBool? : Value → Option Bool
  | .bool b => some b
  | .string s => wordToBool? s
  | .text s => wordToBool? s
  | v => v.toInt64?.map fun n => n.toInt != 0

/-- The value as JSON. Numbers stay numbers, decimals and bytes become strings, and a 32-bit
number is widened first. -/
def toJson (v : Value) : Json :=
  match v with
  | .null => .null
  | .bool b => .bool b
  | .float bits =>
    if Binary.single.isFinite bits.toNat then
      .number (.double (UInt64.ofNat (Binary.single.convert Binary.double bits.toNat)))
    else .null
  | .double bits => if Binary.double.isFinite bits.toNat then .number (.double bits) else .null
  | .decimal d => .string d.text
  | .string s => .string s
  | .text s => .string s
  | .bytes data => .string (Hex.encode data)
  | .json j => j
  | .date s => .string s
  | .time s => .string s
  | .dateTime s => .string s
  | v =>
    match h : v.integer? with
    | some n => Json.ofInt n (integer?_fits h)
    | none => .null

end Value

end SqlBridge
