import SqlBridge.Text.Numeral

/-!
# Fixed-point decimals

An exact decimal is a natural number below `2 ^ 96` with a sign and a scale of at most 28 places.
It is written with all its places. A zero may carry a minus sign, but only rounding leaves one.

Reading takes an optional sign, digits with underscores behind the first, and one point. The
places beyond the twenty-eighth, or beyond what the number can hold, are cut off, and the first
of them rounds the rest, a five upwards; behind it only digits and underscores may stand. A
second notation puts a power of ten behind an `e`.
-/

namespace SqlBridge

/-- One past the greatest magnitude, `2 ^ 96`. -/
abbrev Fixed.magnitudeBound : Nat := 0x1000000000000000000000000

/-- The decimal `± magnitude / 10 ^ scale`. -/
structure Fixed where
  /-- A minus sign stands in front. -/
  negative : Bool
  /-- All digits as one number. -/
  magnitude : Nat
  /-- The number of places behind the point. -/
  scale : Nat
  magnitude_lt : magnitude < Fixed.magnitudeBound := by decide
  scale_le : scale ≤ 28 := by decide
  deriving DecidableEq, Repr

namespace Fixed

/-- The magnitude with its sign. -/
def mantissa (d : Fixed) : Int := if d.negative then -(d.magnitude : Int) else d.magnitude

/-- The decimal of these parts, if they are within bounds. -/
def ofSigned? (negative : Bool) (magnitude scale : Nat) : Option Fixed :=
  if h : magnitude < magnitudeBound ∧ scale ≤ 28 then
    some ⟨negative, magnitude, scale, h.1, h.2⟩
  else none

/-- The decimal `mantissa / 10 ^ scale`, if it is within bounds. -/
def ofParts? (mantissa : Int) (scale : Nat) : Option Fixed :=
  ofSigned? (mantissa < 0) mantissa.natAbs scale

/-- The digits with the point in place; at least one digit stands before it. -/
def magnitudeChars (n scale : Nat) : List Char :=
  let cs := Nat.toDigits 10 n
  if scale = 0 then cs
  else
    let padded := List.replicate (scale + 1 - cs.length) '0' ++ cs
    padded.take (padded.length - scale) ++ '.' :: padded.drop (padded.length - scale)

/-- The text with every place of the scale. -/
def text (d : Fixed) : String :=
  let body := magnitudeChars d.magnitude d.scale
  String.ofList (if d.negative then '-' :: body else body)

/-! ## Reading -/

/-- The first place that was cut off decides: a five or more adds one, and when that fills the
number the last place goes as well. -/
def roundPlace (n scale d : Nat) (rest : List Char) : Option (Nat × Nat) :=
  if !rest.all (fun c => c.isDigit || c == '_') then none
  else if d < 5 then some (n, scale)
  else if n + 1 < magnitudeBound then some (n + 1, scale)
  else if scale = 0 then none
  else some ((n + 1 + 4) / 10, scale - 1)

/-- Below this number another digit, and a little more, fits 64 bits. -/
def shortBound : Nat := 1844674407370954906

/-- Rounds by the first character behind the last place, if there is one. An underscore is a
zero where the number before the last place was `short`, and otherwise is passed over. -/
def roundBehind (n scale : Nat) (short : Bool) : List Char → Option (Nat × Nat)
  | [] => some (n, scale)
  | c :: rest =>
    if c = '_' then
      if short then roundPlace n scale 0 rest else roundBehind n scale false rest
    else (Numeral.digit? c).bind fun d => roundPlace n scale d rest

/-- Reads digits, underscores and one point behind the number `n` of `scale` places; `started`
once a digit was read. -/
def readPlaces : Nat → Nat → Bool → Bool → List Char → Option (Nat × Nat)
  | n, scale, _, started, [] => if started then some (n, scale) else none
  | n, scale, pastPoint, started, c :: rest =>
    match Numeral.digit? c with
    | some d =>
      if n * 10 + d < magnitudeBound then
        let places := if pastPoint then scale + 1 else 0
        if places < 28 then readPlaces (n * 10 + d) places pastPoint true rest
        else roundBehind (n * 10 + d) places (n < shortBound) rest
      else if pastPoint then roundPlace n scale d rest
      else none
    | none =>
      if c = '.' ∧ !pastPoint then readPlaces n scale true started rest
      else if c = '_' ∧ started then readPlaces n scale pastPoint started rest
      else none

/-- The decimal of a number and its places as they were read: a zero has no sign. -/
def ofRead? (negative : Bool) (r : Nat × Nat) : Option Fixed :=
  ofSigned? (negative && r.1 != 0) r.1 r.2

/-- Reads a sign and digits with a point. -/
def ofPlainChars? (s : List Char) : Option Fixed :=
  match s with
  | '-' :: rest => (readPlaces 0 0 false false rest).bind (ofRead? true)
  | '+' :: rest => (readPlaces 0 0 false false rest).bind (ofRead? false)
  | _ => (readPlaces 0 0 false false s).bind (ofRead? false)

/-- The decimal times `10 ^ e`, where the number stays whole. -/
def raise? (d : Fixed) (e : Nat) : Option Fixed :=
  if e ≤ d.scale then ofSigned? d.negative d.magnitude (d.scale - e)
  else if 28 < e then none
  else ofSigned? d.negative (d.magnitude * Nat.pow 10 (e - d.scale)) 0

/-- The decimal divided by `10 ^ e`. Of the places beyond the twenty-eighth the first rounds the
rest, a five away from zero. -/
def lower? (d : Fixed) (e : Nat) : Option Fixed :=
  if 28 < e then none
  else if d.scale + e ≤ 28 then ofSigned? d.negative d.magnitude (d.scale + e)
  else
    let unit := Nat.pow 10 (d.scale + e - 28)
    ofSigned? d.negative ((d.magnitude + unit / 2) / unit) 28

/-- Reads digits with a point, an `e` of either case, and a power of ten. -/
def ofScientificChars? (s : List Char) : Option Fixed :=
  let isMark (c : Char) : Bool := c == 'e' || c == 'E'
  match s.dropWhile (fun c => !isMark c) with
  | [] => none
  | _ :: power =>
    (ofPlainChars? (s.takeWhile fun c => !isMark c)).bind fun d =>
      match power with
      | '-' :: digits =>
        match Numeral.readNat UInt32.size digits with
        | .ok e => lower? d e
        | .error _ => none
      | _ =>
        match Numeral.readNat UInt32.size power with
        | .ok e => raise? d e
        | .error _ => none

/-- Reads either notation. -/
def ofText? (s : String) : Option Fixed :=
  (ofPlainChars? s.toList).or (ofScientificChars? s.toList)

example : (ofText? "-1.50").map text = some "-1.50" := by decide +kernel
example : (ofText? "-0.00").map text = some "0.00" := by decide +kernel
example : (ofText? "1.5e3").map text = some "1500" := by decide +kernel
example : (ofText? "-0.05e-28").map text = some "-0.0000000000000000000000000000" := by
  decide +kernel
example : ofText? "." = none ∧ ofText? "" = none ∧ ofText? "1__" ≠ none := by decide +kernel

end Fixed

end SqlBridge
