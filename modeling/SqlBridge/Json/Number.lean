import SqlBridge.Json.Basic
import SqlBridge.Text.Numeral

/-!
# Numbers of JSON texts

A number is first taken apart into its digits (`JsonLexeme`) and valued when it is wanted.
Whole numbers of up to 64 bits are exact. For the others the digits are gathered in a 64-bit
integer, which drops what no longer fits, and the integer is multiplied or divided once by a
power of ten; this is fast and in the last place not always the nearest number. A number too
large for the format has no value.
-/

namespace SqlBridge

/-- The parts of a number as written. -/
structure JsonLexeme where
  /-- A minus sign stands in front. -/
  negative : Bool
  /-- The digits before the point. -/
  whole : List Nat
  /-- The digits behind the point, if there is one. -/
  fraction : Option (List Nat)
  /-- The sign and the digits of the exponent, if there is one. -/
  exponent : Option (Bool × List Nat)
  deriving DecidableEq, Repr

namespace JsonLexeme

/-- Gathers digits while they fit; what is left starts with the first that does not. -/
def gather : Nat → List Nat → Nat × List Nat
  | value, [] => (value, [])
  | value, d :: rest =>
    if value * 10 + d < UInt64.size then gather (value * 10 + d) rest else (value, d :: rest)

/-- The power of ten as a 64-bit number. -/
def powerOfTen (e : Nat) : Nat := Binary.double.round (Nat.pow 10 e) 1

/-- Scales a number by a power of ten. The table of powers ends at 308; a smaller exponent is
reached in steps, a greater one not at all. -/
def scale : Nat → Nat → Int → Option Nat
  | 0, value, _ => some value
  | fuel + 1, value, e =>
    if e.natAbs ≤ 308 then
      if 0 ≤ e then
        let product := Binary.double.mul value (powerOfTen e.toNat)
        if Binary.double.isFinite product then some product else none
      else some (Binary.double.div value (powerOfTen (-e).toNat))
    else if value = 0 then some value
    else if 0 ≤ e then none
    else scale fuel (Binary.double.div value (powerOfTen 308)) (e + 308)

/-- The magnitude from gathered digits and a power of ten; three steps reach zero. -/
def magnitude (digits : Nat) (e : Int) : Option Nat := scale 4 (Binary.double.round digits 1) e

/-- One past the greatest exponent that is counted. -/
def exponentBound : Nat := 0x80000000

/-- The exponent, or nothing when it is beyond counting. -/
def exponentValue : Nat → List Nat → Option Nat
  | value, [] => some value
  | value, d :: rest =>
    if value * 10 + d < exponentBound then exponentValue (value * 10 + d) rest else none

/-- The bits of the magnitude of a number that is not a plain whole number. -/
def magnitudeBits (l : JsonLexeme) : Option Nat :=
  let (gathered, excess) := gather 0 l.whole
  let (digits, start) : Nat × Int :=
    match l.fraction with
    | none => (gathered, excess.length)
    | some places =>
      let (digits, left) := gather gathered places
      (digits, (excess.length : Int) - (places.length - left.length : Nat))
  match l.exponent with
  | none => magnitude digits start
  | some (negative, power) =>
    match exponentValue 0 power with
    | some e => magnitude digits (if negative then start - e else start + e)
    | none => if digits ≠ 0 ∧ !negative then none else some 0

/-- The value of a number. -/
def value? (l : JsonLexeme) : Option JsonNumber :=
  let double : Option JsonNumber :=
    l.magnitudeBits.map fun m =>
      .double (UInt64.ofNat (if l.negative then Binary.double.negate m else m))
  match l.fraction, l.exponent, gather 0 l.whole with
  | none, none, (n, []) =>
    if !l.negative then JsonNumber.ofInt? n
    else if n = 0 ∨ 0x8000000000000000 < n then double
    else JsonNumber.ofInt? (-(n : Int))
  | _, _, _ => double

end JsonLexeme

end SqlBridge
