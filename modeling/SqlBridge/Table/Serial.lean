import SqlBridge.Json.Fields
import SqlBridge.Table
import SqlBridge.Value

/-!
# The stored form of values and tables

A value is stored as JSON under the name of its kind: an object with that name as its only
key, or for the null the bare name. Bytes are a list of numbers, a decimal is its text, and
JSON values are stored as they are. `Value.toSerial` writes the form and `Value.ofDocument?`
reads it; the reader also takes the null as an object, whole numbers for floating-point ones,
and numbers for decimals.

A table is stored as an object with its columns, a column as an object with its name and its
values in their stored form.
-/

namespace SqlBridge.Value

/-- An object with one key. -/
def tagged (tag : String) (content : Json) : Json := .object [(tag, content)]

/-- A small number as JSON. -/
def byteJson (b : UInt8) : Json :=
  Json.ofInt b.toNat ⟨by omega, by have := b.toNat_lt; omega⟩

/-- The name of an integer's kind. -/
def integerTag : Value → String
  | .tinyInt _ => "TinyInt"
  | .smallInt _ => "SmallInt"
  | .int _ => "Int"
  | .bigInt _ => "BigInt"
  | .unsignedTinyInt _ => "UnsignedTinyInt"
  | .unsignedSmallInt _ => "UnsignedSmallInt"
  | .unsignedInt _ => "UnsignedInt"
  | _ => "UnsignedBigInt"

/-- The stored form of a value. -/
def toSerial (v : Value) : Json :=
  match v with
  | .null => .string "Null"
  | .bool b => tagged "Bool" (.bool b)
  | .float bits => tagged "Float" (.number (.single bits))
  | .double bits => tagged "Double" (.number (.double bits))
  | .decimal d => tagged "Decimal" (.string d.text)
  | .string s => tagged "String" (.string s)
  | .text s => tagged "Text" (.string s)
  | .bytes data => tagged "Bytes" (.array (data.map byteJson))
  | .json j => tagged "Json" j
  | .date s => tagged "Date" (.string s)
  | .time s => tagged "Time" (.string s)
  | .dateTime s => tagged "DateTime" (.string s)
  | v => tagged v.integerTag v.toJson

/-! ## Reading -/

/-- The bits of a number in the 32-bit format. -/
def floatBits? (d : JsonDocument) : Option UInt32 :=
  match d with
  | .number l =>
    l.value?.map fun
      | .integer n _ => UInt32.ofNat (Binary.single.ofInt n)
      | .double bits => UInt32.ofNat (Binary.double.convert Binary.single bits.toNat)
      | .single bits => bits
  | _ => none

/-- The bits of a number in the 64-bit format. -/
def doubleBits? (d : JsonDocument) : Option UInt64 :=
  match d with
  | .number l =>
    l.value?.map fun
      | .integer n _ => UInt64.ofNat (Binary.double.ofInt n)
      | .double bits => bits
      | .single bits => UInt64.ofNat (Binary.single.convert Binary.double bits.toNat)
  | _ => none

/-- A decimal from its text, a whole number, or the plain text of another number. -/
def decimal? (d : JsonDocument) : Option Fixed :=
  match d with
  | .string s => s.bind Fixed.ofText?
  | .number l =>
    l.value?.bind fun
      | .integer n _ => Fixed.ofParts? n 0
      | .double bits => Fixed.ofPlainChars? (Binary.double.plainText bits.toNat).toList
      | .single bits => Fixed.ofPlainChars? (Binary.single.plainText bits.toNat).toList
  | _ => none

/-- The bytes of a list of small numbers. -/
def bytes? (d : JsonDocument) (budget : Nat) : Option (List UInt8) :=
  match d with
  | .array items =>
    (JsonDocument.enter budget).bind fun _ =>
      items.mapM fun item => (item.intBetween? 0 255).map fun n => UInt8.ofNat n.toNat
  | _ => none

/-- The value of the kind with this name and content. -/
def ofTagged? (tag : String) (d : JsonDocument) (budget : Nat) : Option Value :=
  match tag with
  | "Null" => if d.isNull then some .null else none
  | "Bool" => d.bool?.map .bool
  | "TinyInt" => (d.intBetween? (-0x80) 0x7F).map fun n => .tinyInt (Int8.ofInt n)
  | "SmallInt" => (d.intBetween? (-0x8000) 0x7FFF).map fun n => .smallInt (Int16.ofInt n)
  | "Int" => (d.intBetween? (-0x80000000) 0x7FFFFFFF).map fun n => .int (Int32.ofInt n)
  | "BigInt" =>
    (d.intBetween? (-0x8000000000000000) 0x7FFFFFFFFFFFFFFF).map fun n => .bigInt (Int64.ofInt n)
  | "UnsignedTinyInt" =>
    (d.intBetween? 0 0xFF).map fun n => .unsignedTinyInt (UInt8.ofNat n.toNat)
  | "UnsignedSmallInt" =>
    (d.intBetween? 0 0xFFFF).map fun n => .unsignedSmallInt (UInt16.ofNat n.toNat)
  | "UnsignedInt" =>
    (d.intBetween? 0 0xFFFFFFFF).map fun n => .unsignedInt (UInt32.ofNat n.toNat)
  | "UnsignedBigInt" =>
    (d.intBetween? 0 0xFFFFFFFFFFFFFFFF).map fun n => .unsignedBigInt (UInt64.ofNat n.toNat)
  | "Float" => (floatBits? d).map .float
  | "Double" => (doubleBits? d).map .double
  | "Decimal" => (decimal? d).map .decimal
  | "String" => d.string?.map .string
  | "Text" => d.string?.map .text
  | "Bytes" => (bytes? d budget).map .bytes
  | "Json" => (d.toJson budget).map .json
  | "Date" => d.string?.map .date
  | "Time" => d.string?.map .time
  | "DateTime" => d.string?.map .dateTime
  | _ => none

/-- The value that a document stores, within a budget of nesting. -/
def ofDocument? (budget : Nat) (d : JsonDocument) : Option Value :=
  match d with
  | .string (some "Null") => some .null
  | .object [(some tag, content)] =>
    (JsonDocument.enter budget).bind fun inner => ofTagged? tag content inner
  | _ => none

/-- The value that a text stores. -/
def ofSerialText? (s : String) : Option Value :=
  (JsonDocument.ofText? s).bind (ofDocument? JsonDocument.nesting)

example : (ofSerialText? "\x7b\"Int\":5\x7d").map Value.toInt64? = some (some 5) := by
  decide +kernel

end SqlBridge.Value

/-! ## Columns and tables -/

namespace SqlBridge

/-- The stored form of a column. -/
def Column.toSerial (c : Column) : Json :=
  .object [("name", .string c.name), ("values", .array (c.values.map Value.toSerial))]

/-- The stored form of a table. -/
def Table.toSerial (t : Table) : Json :=
  .object [("columns", .array (t.columns.map Column.toSerial))]

/-- The column that a document stores. -/
def Column.ofDocument? (budget : Nat) (d : JsonDocument) : Option Column :=
  match d.fieldsOf ["name", "values"] budget with
  | some ([some name, some (.array items)], inner) =>
    (JsonDocument.enter inner).bind fun inner =>
      name.string?.bind fun name =>
        (items.mapM (Value.ofDocument? inner)).map fun values => ⟨name, values⟩
  | _ => none

/-- The table that a document stores. -/
def Table.ofDocument? (budget : Nat) (d : JsonDocument) : Option Table :=
  match d.fieldsOf ["columns"] budget with
  | some ([some (.array items)], inner) =>
    (JsonDocument.enter inner).bind fun inner =>
      (items.mapM (Column.ofDocument? inner)).map fun columns => ⟨columns⟩
  | _ => none

/-- The table that a text stores. -/
def Table.ofSerialText? (s : String) : Option Table :=
  (JsonDocument.ofText? s).bind (Table.ofDocument? JsonDocument.nesting)

end SqlBridge
