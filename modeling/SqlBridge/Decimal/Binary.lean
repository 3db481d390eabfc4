/-!
# Binary floating-point numbers as bit patterns

A floating-point number is the natural number that its bits spell: a sign bit, an exponent
field and a fraction field. `Format.decode` reads such a pattern as a sign and a magnitude
`m * 2 ^ q`, as an infinity, or as no number. `Format.round` goes the other way: it takes a
quotient of naturals to the nearest pattern, a tie to the even one, and what is too large to
the infinity.

Patterns of one sign follow each other as the magnitudes do, so the pattern of `m * 2 ^ q`
with the least possible `q` is `(q - least) * 2 ^ fractionBits + m`: a carry out of the
fraction moves into the exponent field by itself. Powers are the naturals' own `Nat.pow`, so
that every definition here computes in the kernel.
-/

namespace SqlBridge.Binary

/-- The widths of the two fields below the sign bit. -/
structure Format where
  /-- Bits of the fraction field. -/
  fractionBits : Nat
  /-- Bits of the exponent field. -/
  exponentBits : Nat
  deriving DecidableEq, Repr

/-- The 32-bit format. -/
def single : Format := ⟨23, 8⟩

/-- The 64-bit format. -/
def double : Format := ⟨52, 11⟩

/-- What a bit pattern stands for. -/
inductive Reading where
  /-- No number. -/
  | nan
  /-- An infinity of the given sign. -/
  | infinite (negative : Bool)
  /-- The number `± m * 2 ^ q`. -/
  | finite (negative : Bool) (m : Nat) (q : Int)
  deriving DecidableEq, Repr

namespace Format

/-- The exponent of the last place of the smallest numbers. -/
def leastExponent (f : Format) : Int := 2 - Nat.pow 2 (f.exponentBits - 1) - f.fractionBits

/-- The pattern of positive infinity. -/
def infinityBits (f : Format) : Nat := (Nat.pow 2 f.exponentBits - 1) * Nat.pow 2 f.fractionBits

/-- The weight of the sign bit. -/
def signBit (f : Format) : Nat := Nat.pow 2 (f.fractionBits + f.exponentBits)

/-- Reads a pattern. -/
def decode (f : Format) (bits : Nat) : Reading :=
  let negative := (bits / f.signBit) % 2 == 1
  let exponent := (bits / Nat.pow 2 f.fractionBits) % Nat.pow 2 f.exponentBits
  let fraction := bits % Nat.pow 2 f.fractionBits
  if exponent = Nat.pow 2 f.exponentBits - 1 then
    if fraction = 0 then .infinite negative else .nan
  else if exponent = 0 then .finite negative fraction f.leastExponent
  else
    .finite negative (Nat.pow 2 f.fractionBits + fraction) (f.leastExponent + (exponent - 1 : Nat))

/-- The pattern stands for a number. -/
def isFinite (f : Format) (bits : Nat) : Bool :=
  match f.decode bits with
  | .finite .. => true
  | _ => false

/-- The pattern with the opposite sign. -/
def negate (f : Format) (bits : Nat) : Nat :=
  if (bits / f.signBit) % 2 = 1 then bits - f.signBit else bits + f.signBit

/-- The quotient rounded to a whole number, a tie to the even one. -/
def roundQuotient (num den : Nat) : Nat :=
  let below := num / den
  let twice := 2 * (num % den)
  if twice < den then below
  else if den < twice then below + 1
  else below + below % 2

/-- The pattern nearest to `num / den`, for a positive `den`. -/
def round (f : Format) (num den : Nat) : Nat :=
  if num = 0 then 0
  else
    let guess : Int := (num.log2 : Int) - den.log2
    let scaled (e : Int) : Nat × Nat :=
      if 0 ≤ e then (num, den * Nat.pow 2 e.toNat) else (num * Nat.pow 2 (-e).toNat, den)
    let leading : Int :=
      let (n, d) := scaled guess
      if d ≤ n then guess else guess - 1
    let q : Int := max f.leastExponent (leading - f.fractionBits)
    let (n, d) := scaled q
    let steps := (q - f.leastExponent).toNat
    min f.infinityBits (steps * Nat.pow 2 f.fractionBits + roundQuotient n d)

/-- The pattern of `± m * 2 ^ q`, rounded. -/
def ofScaled (f : Format) (negative : Bool) (m : Nat) (q : Int) : Nat :=
  let magnitude :=
    if 0 ≤ q then f.round (m * Nat.pow 2 q.toNat) 1 else f.round m (Nat.pow 2 (-q).toNat)
  if negative then magnitude + f.signBit else magnitude

/-- The pattern of a whole number, rounded. -/
def ofInt (f : Format) (n : Int) : Nat := f.ofScaled (n < 0) n.natAbs 0

/-- The same number in another format, rounded; an infinity stays one. -/
def convert (source target : Format) (bits : Nat) : Nat :=
  match source.decode bits with
  | .nan => target.infinityBits + Nat.pow 2 (target.fractionBits - 1)
  | .infinite negative =>
    if negative then target.infinityBits + target.signBit else target.infinityBits
  | .finite negative m q => target.ofScaled negative m q

/-- The product of two numbers, rounded; what is not finite gives the infinity. -/
def mul (f : Format) (a b : Nat) : Nat :=
  match f.decode a, f.decode b with
  | .finite s m q, .finite t n r => f.ofScaled (s != t) (m * n) (q + r)
  | _, _ => f.infinityBits

/-- The quotient of two numbers, rounded; what is not finite gives the infinity. -/
def div (f : Format) (a b : Nat) : Nat :=
  match f.decode a, f.decode b with
  | .finite s m q, .finite t n r =>
    if n = 0 then f.infinityBits
    else
      let e := q - r
      let magnitude :=
        if 0 ≤ e then f.round (m * Nat.pow 2 e.toNat) n else f.round m (n * Nat.pow 2 (-e).toNat)
      if s != t then magnitude + f.signBit else magnitude
  | _, _ => f.infinityBits

end Format

example : single.decode 0x3FC00000 = .finite false 0xC00000 (-23) := by decide
example : double.round 1 10 = 0x3FB999999999999A := by decide +kernel
example : double.round (Nat.pow 10 400) 1 = double.infinityBits := by decide +kernel
example : double.round 1 (Nat.pow 2 1075) = 0 := by decide +kernel
example : double.round 3 (Nat.pow 2 1075) = 2 := by decide +kernel

end SqlBridge.Binary
