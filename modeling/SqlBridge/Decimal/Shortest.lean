import SqlBridge.Decimal.Binary

/-!
# The fewest digits that read back

Every finite pattern of a binary format owns the interval of reals that round to it: half a
step to either side, a quarter below where the steps change, the ends included when the
significand is even. `Digits.ofScaled` takes the coarsest decimal grid on which that interval
has a point, and on it the point nearest to the number. Two neighbours may be equally near;
which of them is taken is a choice of the text format (`Tie`).

A number has two neighbours on each grid, and when any point of the grid lies in the interval
then so does one of the two; so looking at the two suffices.
-/

namespace SqlBridge.Binary

/-- Which of two equally near decimals is taken. -/
inductive Tie where
  /-- The larger one. -/
  | up
  /-- The one whose last digit is even. -/
  | even
  deriving DecidableEq, Repr

/-- The decimal `coefficient * 10 ^ exponent`. -/
structure Digits where
  /-- The digits as one number. -/
  coefficient : Nat
  /-- The weight of the last digit. -/
  exponent : Int
  deriving DecidableEq, Repr

namespace Digits

/-- A positive number and the ends of its interval, over one denominator. -/
structure Interval where
  /-- Lower end. -/
  low : Nat
  /-- The number itself. -/
  value : Nat
  /-- Upper end. -/
  high : Nat
  /-- Common denominator. -/
  den : Nat
  /-- The ends belong to the interval. -/
  closed : Bool
  deriving DecidableEq, Repr

/-- The interval of `m * 2 ^ q` in the format. -/
def intervalOf (f : Format) (m : Nat) (q : Int) : Interval :=
  let quarter := m = Nat.pow 2 f.fractionBits ∧ f.leastExponent < q
  let e := q - 2
  let up := if 0 ≤ e then Nat.pow 2 e.toNat else 1
  let den := if 0 ≤ e then 1 else Nat.pow 2 (-e).toNat
  { low := (4 * m - (if quarter then 1 else 2)) * up
    value := 4 * m * up
    high := (4 * m + 2) * up
    den
    closed := m % 2 == 0 }

namespace Interval

/-- Compares `c * 10 ^ g` with `n / den`. -/
def compareAt (i : Interval) (g : Int) (c n : Nat) : Ordering :=
  if 0 ≤ g then compare (c * Nat.pow 10 g.toNat * i.den) n
  else compare (c * i.den) (n * Nat.pow 10 (-g).toNat)

/-- The grid point `c * 10 ^ g` lies in the interval. -/
def contains (i : Interval) (g : Int) (c : Nat) : Bool :=
  match i.compareAt g c i.low, i.compareAt g c i.high with
  | .gt, .lt => true
  | .eq, .lt => i.closed
  | .gt, .eq => i.closed
  | .eq, .eq => i.closed
  | _, _ => false

/-- The greatest `c` with `c * 10 ^ g` at most the number. -/
def floorAt (i : Interval) (g : Int) : Nat :=
  if 0 ≤ g then i.value / (Nat.pow 10 g.toNat * i.den)
  else i.value * Nat.pow 10 (-g).toNat / i.den

/-- The point of the grid `10 ^ g` to take, if the interval has one. -/
def pick (tie : Tie) (i : Interval) (g : Int) : Option Nat :=
  let a := i.floorAt g
  match i.contains g a, i.contains g (a + 1) with
  | false, false => none
  | true, false => some a
  | false, true => some (a + 1)
  | true, true =>
    -- the midpoint of the two, in halves of the grid
    match i.compareAt g (2 * a + 1) (2 * i.value) with
    | .lt => some (a + 1)
    | .gt => some a
    | .eq =>
      match tie with
      | .up => some (a + 1)
      | .even => some (a + a % 2)

/-- The least `k` with the number below `10 ^ k`. -/
def magnitude (i : Interval) : Int :=
  let estimate : Int := (((i.value.log2 : Int) - i.den.log2) * 1233) / 4096
  let below (k : Int) : Bool := i.floorAt k == 0
  if below (estimate - 1) then estimate - 1
  else if below estimate then estimate
  else if below (estimate + 1) then estimate + 1
  else estimate + 2

/-- Tries the grids of one digit and more, `fuel` of them, and then takes what is below. -/
def search (tie : Tie) (i : Interval) : Nat → Int → Digits
  | 0, g => ⟨i.floorAt g, g⟩
  | fuel + 1, g =>
    match i.pick tie g with
    | some c => if c % 10 = 0 then ⟨c / 10, g + 1⟩ else ⟨c, g⟩
    | none => search tie i fuel (g - 1)

end Interval

/-- The shortest decimal of `m * 2 ^ q`; zero has the digit zero. -/
def ofScaled (tie : Tie) (f : Format) (m : Nat) (q : Int) : Digits :=
  if m = 0 then ⟨0, 0⟩
  else
    let i := intervalOf f m q
    i.search tie 17 (i.magnitude - 1)

/-- The digits as characters. -/
def chars (d : Digits) : List Char := Nat.toDigits 10 d.coefficient

/-- The decimal exponent of the first digit. -/
def leading (d : Digits) : Int := d.exponent + (d.chars.length - 1 : Nat)

end Digits

example : Digits.ofScaled .up double 0x1999999999999A (-56) = ⟨1, -1⟩ := by decide +kernel
example : Digits.ofScaled .up double 1 (-1074) = ⟨5, -324⟩ := by decide +kernel
example : Digits.ofScaled .up double (Nat.pow 2 53 - 1) 971 = ⟨17976931348623157, 292⟩ := by
  decide +kernel

end SqlBridge.Binary
