import SqlBridge.Toml.Basic
import SqlBridge.Text.Numeral
import SqlBridge.Decimal.Binary

/-!
# Numbers of TOML

A number is checked twice. `number?` looks at its form and is `none` for what is no number at
all. What has the form may still spell nothing that can be held: a whole number beyond 128
bits, a fraction that rounds to the infinity, a base without digits, or letters where an
underscore has made them look like digits; these are `Toml.unreadable`.

An underscore stands between two digits. Around the underscores of a whole number any
hexadecimal digit counts as one, and further away from them whatever is no space.
-/

namespace SqlBridge.Toml

/-! ## Digits -/

/-- A hexadecimal digit. -/
def isHexDigit (c : Char) : Bool := (Numeral.hexDigit? c).isSome

/-- A character of a row of digits. -/
def isRowChar (c : Char) : Bool := c.isDigit || c == '_'

/-- Every underscore has a digit in front of it and one behind it; `afterDigit` says whether a
digit stands right before the characters. -/
def underscoresFit (isDigit : Char → Bool) (afterDigit : Bool) : List Char → Bool
  | [] => true
  | '_' :: c :: rest => afterDigit && isDigit c && underscoresFit isDigit true rest
  | ['_'] => false
  | c :: rest => underscoresFit isDigit (isDigit c) rest

/-- The characters without underscores. -/
def withoutUnderscores (s : List Char) : List Char := s.filter fun c => c != '_'

/-- The digit's value in a base up to sixteen. -/
def digitBelow? (base : Nat) (c : Char) : Option Nat :=
  (Numeral.hexDigit? c).bind fun d => if d < base then some d else none

/-- The number that digits of a base spell. -/
def digitsValue (base : Nat) (ds : List Nat) : Nat := ds.foldl (fun n d => n * base + d) 0

/-- The number that a row of at least one digit spells. -/
def rowValue? (base : Nat) (s : List Char) : Option Nat :=
  match (withoutUnderscores s).mapM (digitBelow? base) with
  | some [] => none
  | some ds => some (digitsValue base ds)
  | none => none

/-! ## Whole numbers -/

/-- A whole number that fits 128 bits, signed or unsigned. -/
def fits128 (n : Int) : Bool :=
  -0x80000000000000000000000000000000 ≤ n && n < 0x100000000000000000000000000000000

/-- A whole number, if its digits spell one that can be held. -/
def ofInteger : Option Int → Toml
  | some n => if fits128 n then .integer n else .unreadable
  | none => .unreadable

/-- A character of a row of digits of a base. -/
def isBaseChar (base : Nat) (c : Char) : Bool := c == '_' || (digitBelow? base c).isSome

/-- A number behind the letter of its base. -/
def based? (base : Nat) (s : List Char) : Option Toml :=
  if s.all (isBaseChar base) && underscoresFit isHexDigit false s then
    some (ofInteger ((rowValue? base s).map Int.ofNat))
  else none

/-- A decimal number behind its sign. -/
def whole? (negative : Bool) (s : List Char) : Option Toml :=
  if underscoresFit isHexDigit false s then
    some (ofInteger ((rowValue? 10 s).map fun n => if negative then -(n : Int) else n))
  else none

/-! ## Fractions and exponents -/

/-- A row has a digit, and its first character is a zero only where zeros may lead or it is the
only digit. -/
def isRow (zerosLead : Bool) (s : List Char) : Bool :=
  match withoutUnderscores s with
  | [] => false
  | [_] => true
  | _ => zerosLead || s.head? != some '0'

/-- The mantissa without its point and the power of ten of a number with a fraction, an
exponent or both. -/
def fractionParts? (s : List Char) : Option (List Char × Int) :=
  let whole := s.takeWhile isRowChar
  let fraction : Option (List Char × List Char) :=
    match s.dropWhile isRowChar with
    | '.' :: rest =>
      let places := rest.takeWhile isRowChar
      if isRow true places then some (places, rest.dropWhile isRowChar) else none
    | rest => some ([], rest)
  match fraction with
  | none => none
  | some (places, rest) =>
    let exponent : Option Int :=
      match rest with
      | [] => some 0
      | mark :: rest =>
        let (negative, row) : Bool × List Char :=
          match rest with
          | '-' :: row => (true, row)
          | '+' :: row => (false, row)
          | row => (false, row)
        if (mark = 'e' ∨ mark = 'E') ∧ row.all isRowChar ∧ isRow true row then
          (rowValue? 10 row).map fun n => if negative then -(n : Int) else n
        else none
    if isRow false whole then
      exponent.map fun e => (whole ++ places, e - (withoutUnderscores places).length)
    else none

/-- The number `n * 10 ^ e` does not round to the infinity. The number of its digits decides
unless it is near the limit of 309. -/
def isFiniteDecimal (n : Nat) (e : Int) : Bool :=
  let length : Int := (Nat.toDigits 10 n).length + e
  if n = 0 ∨ length < 300 then true
  else if 320 < length then false
  else
    Binary.double.isFinite
      (Binary.double.round (n * Nat.pow 10 e.toNat) (Nat.pow 10 (-e).toNat))

/-- A number with its sign, of which a plus does not show. -/
def floatText (negative : Bool) (s : List Char) : String :=
  String.ofList (if negative then '-' :: s else s)

/-- A number with a fraction, an exponent or both behind its sign. -/
def fractional? (negative : Bool) (s : List Char) : Option Toml :=
  match fractionParts? s with
  | some (digits, e) =>
    if underscoresFit Char.isDigit false s then
      match rowValue? 10 digits with
      | some n =>
        some (if isFiniteDecimal n e then .float (floatText negative s) else .unreadable)
      | none => none
    else none
  | none => none

/-- A number in decimal digits behind its sign, or one of the two special numbers. -/
def decimal? (negative : Bool) (s : List Char) : Option Toml :=
  if s = ['i', 'n', 'f'] ∨ s = ['n', 'a', 'n'] then some (.float (floatText negative s))
  else
    match s.dropWhile Char.isDigit with
    | [] => if isRow false s then whole? negative s else none
    | c :: rest =>
      if rest.contains ' ' then none
      else if (c :: rest).any fun c => c == '.' || c == 'e' || c == 'E' then
        fractional? negative s
      else if c = '_' ∧ s.head? ≠ some '0' then whole? negative s
      else none

/-- The value of a number. -/
def number? : List Char → Option Toml
  | '0' :: 'x' :: s => based? 16 s
  | '0' :: 'o' :: s => based? 8 s
  | '0' :: 'b' :: s => based? 2 s
  | '-' :: s => decimal? true s
  | '+' :: s => decimal? false s
  | s => decimal? false s

/-- The whole number of a text that spells one. -/
def integer? (s : List Char) : Option Int :=
  match number? s with
  | some (.integer n) => some n
  | _ => none

example : (integer? "0b11".toList, integer? "3_307".toList, integer? "-0".toList) =
    (some 3, some 3307, some 0) := by decide +kernel
example : (number? "03".toList).isNone ∧ (number? "1__0".toList).isNone ∧
    (number? "1.".toList).isNone ∧ (number? "6.26e-3".toList).isSome := by decide +kernel
example : ((number? "1_a".toList).map isReadable, (number? "1e309".toList).map isReadable,
    (number? "1_7.5e307".toList).map isReadable) = (some false, some false, some true) := by
  decide +kernel

end SqlBridge.Toml
