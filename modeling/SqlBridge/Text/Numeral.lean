/-!
# Numerals

Integers are read from an optional sign and one or more ASCII digits, and from nothing
else: no blanks, no digit separators. A numeral is refused for one of four causes, and the
first one met from the left is the one reported. Signed numerals of a width `b` reach from
`-b` to `b - 1`, unsigned ones from `0` to `b - 1`.

Bytes are written as two upper-case hexadecimal digits each, the high half first.
-/

namespace SqlBridge

/-- Why a text is not a numeral of the wanted width. -/
inductive NumeralFault where
  /-- There is no character at all. -/
  | empty
  /-- A character that is no digit, or a sign on its own. -/
  | badDigit
  /-- The number lies above the width. -/
  | tooLarge
  /-- The number lies below the width. -/
  | tooSmall
  deriving DecidableEq, Repr

/-- The wording of the fault. -/
def NumeralFault.message : NumeralFault → String
  | .empty => "cannot parse integer from empty string"
  | .badDigit => "invalid digit found in string"
  | .tooLarge => "number too large to fit in target type"
  | .tooSmall => "number too small to fit in target type"

namespace Numeral

/-- The value of an ASCII digit. -/
def digit? (c : Char) : Option Nat :=
  if '0' ≤ c ∧ c ≤ '9' then some (c.toNat - 48) else none

/-- The value of a hexadecimal digit in either case. -/
def hexDigit? (c : Char) : Option Nat :=
  if '0' ≤ c ∧ c ≤ '9' then some (c.toNat - 48)
  else if 'a' ≤ c ∧ c ≤ 'f' then some (c.toNat - 87)
  else if 'A' ≤ c ∧ c ≤ 'F' then some (c.toNat - 55)
  else none

/-- Reads digits behind `value`, every intermediate number staying below `bound`. -/
def readDigits (bound : Nat) (overflow : NumeralFault) :
    Nat → List Char → Except NumeralFault Nat
  | value, [] => .ok value
  | value, c :: rest =>
    match digit? c with
    | none => .error .badDigit
    | some d =>
      if value * 10 + d < bound then readDigits bound overflow (value * 10 + d) rest
      else .error overflow

/-- Reads one or more digits behind a sign that has been taken off. -/
def readUnsignedPart (bound : Nat) (overflow : NumeralFault) :
    List Char → Except NumeralFault Nat
  | [] => .error .badDigit
  | c :: rest => readDigits bound overflow 0 (c :: rest)

/-- Reads a number below `bound`; a plus sign may stand in front. -/
def readNat (bound : Nat) : List Char → Except NumeralFault Nat
  | [] => .error .empty
  | '+' :: rest => readUnsignedPart bound .tooLarge rest
  | c :: rest => readUnsignedPart bound .tooLarge (c :: rest)

/-- Reads a number from `-bound` to `bound - 1`; either sign may stand in front. -/
def readInt (bound : Nat) : List Char → Except NumeralFault Int
  | [] => .error .empty
  | '+' :: rest => Int.ofNat <$> readUnsignedPart bound .tooLarge rest
  | '-' :: rest => (fun n => -Int.ofNat n) <$> readUnsignedPart (bound + 1) .tooSmall rest
  | c :: rest => Int.ofNat <$> readUnsignedPart bound .tooLarge (c :: rest)

end Numeral

/-! ## Bytes -/

namespace Hex

/-- The upper-case digit for a number below sixteen. -/
def digit (n : Nat) : Char :=
  if n < 10 then Char.ofNat (48 + n) else Char.ofNat (55 + n)

/-- The two digits of one byte. -/
def byteChars (b : UInt8) : List Char :=
  [digit (b.toNat / 16), digit (b.toNat % 16)]

/-- The digits of all bytes in order. -/
def chars (bytes : List UInt8) : List Char := bytes.flatMap byteChars

/-- The digits of all bytes as a text. -/
def encode (bytes : List UInt8) : String := String.ofList (chars bytes)

@[simp] theorem toList_encode (bytes : List UInt8) : (encode bytes).toList = chars bytes := by
  simp [encode]

/-- Every byte takes two digits. -/
theorem length_chars (bytes : List UInt8) : (chars bytes).length = 2 * bytes.length := by
  induction bytes with
  | nil => rfl
  | cons b r ih =>
    simp only [chars, List.flatMap_cons, List.length_append] at ih ⊢
    rw [ih]
    simp only [byteChars, List.length_cons, List.length_nil]
    omega

/-- The lower-case hexadecimal digits of a number, without leading zeros. -/
def lowerNat (n : Nat) : List Char := Nat.toDigits 16 n

end Hex

end SqlBridge
