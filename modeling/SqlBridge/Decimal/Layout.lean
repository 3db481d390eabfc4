import SqlBridge.Decimal.Shortest

/-!
# Text of floating-point numbers

Two layouts are in use. The plain one never writes an exponent and drops the fraction of a
whole number; the other one is for JSON documents: it keeps at least one digit behind the
point, and far from one it writes an exponent with its sign. In the plain layout a tie between
two shortest decimals goes up, in JSON to the even digit.
-/

namespace SqlBridge.Binary

namespace Digits

/-- The digits with the decimal point in place and no exponent, no fraction when whole. -/
def positional (d : Digits) : List Char :=
  let cs := d.chars
  if 0 ≤ d.exponent then cs ++ List.replicate d.exponent.toNat '0'
  else
    let places := (-d.exponent).toNat
    if places < cs.length then
      cs.take (cs.length - places) ++ '.' :: cs.drop (cs.length - places)
    else '0' :: '.' :: (List.replicate (places - cs.length) '0' ++ cs)

/-- The first digit, the others behind a point, and the exponent of the first. -/
def scientific (d : Digits) : List Char :=
  let mantissa :=
    match d.chars with
    | [] => []
    | [c] => [c]
    | c :: rest => c :: '.' :: rest
  let e := d.leading
  mantissa ++ (if e < 0 then ['e', '-'] else ['e', '+']) ++ Nat.toDigits 10 e.natAbs

end Digits

/-- The text without exponents, as SQL and messages show numbers. -/
def Format.plainText (f : Format) (bits : Nat) : String :=
  match f.decode bits with
  | .nan => "NaN"
  | .infinite negative => if negative then "-inf" else "inf"
  | .finite negative m q =>
    let body := (Digits.ofScaled .up f m q).positional
    String.ofList (if negative then '-' :: body else body)

/-- Where JSON text changes from positional to scientific notation. -/
structure JsonRange where
  /-- The least decimal exponent of a first digit that is still written out. -/
  least : Int
  /-- The greatest one. -/
  greatest : Int
  deriving DecidableEq, Repr

/-- The range of the 64-bit format. -/
def JsonRange.double : JsonRange := ⟨-5, 15⟩

/-- The range of the 32-bit format. -/
def JsonRange.single : JsonRange := ⟨-6, 12⟩

/-- The text in a JSON document; what is no number becomes `null`. -/
def Format.jsonText (f : Format) (range : JsonRange) (bits : Nat) : String :=
  match f.decode bits with
  | .nan => "null"
  | .infinite _ => "null"
  | .finite negative m q =>
    let d := Digits.ofScaled .even f m q
    let body :=
      if range.least ≤ d.leading ∧ d.leading ≤ range.greatest then
        if 0 ≤ d.exponent then d.positional ++ ['.', '0'] else d.positional
      else d.scientific
    String.ofList (if negative then '-' :: body else body)

example : double.plainText 0x444B1AE4D6E2EF50 = "1000000000000000000000" := by decide +kernel
example : double.jsonText .double 0x444B1AE4D6E2EF50 = "1e+21" := by decide +kernel
example : single.plainText 0x49E9201A = "1909763.3" := by decide +kernel
example : single.jsonText .single 0x49E9201A = "1909763.2" := by decide +kernel

end SqlBridge.Binary
