import SqlBridge.Text.Numeral
import SqlBridge.Calendar

/-!
# Dates and times of TOML

A date, a time of day, or both, with or without an offset from universal time. `moment?` reads
one and gives back its normal form: a `T` stands between date and time, seconds are always
there, the fraction of a second has nine digits at most and no zero at its end, and the offset
is a `Z` or hours and minutes with a sign, which is a plus when both are zero.

A reader of a part gives back the normal form of the part and what follows it.
-/

namespace SqlBridge.Toml

/-- The number of two digits. -/
def twoDigits? (a b : Char) : Option Nat :=
  match Numeral.digit? a, Numeral.digit? b with
  | some a, some b => some (a * 10 + b)
  | _, _ => none

/-- Reads a day of the calendar. -/
def readDate? : List Char → Option (List Char × List Char)
  | a :: b :: c :: d :: '-' :: e :: f :: '-' :: g :: h :: rest =>
    match twoDigits? a b, twoDigits? c d, twoDigits? e f, twoDigits? g h with
    | some century, some year, some month, some day =>
      if 1 ≤ month ∧ month ≤ 12 ∧ 1 ≤ day ∧
          day ≤ daysInMonth ((century * 100 + year : Nat) : Int) month then
        some ([a, b, c, d, '-', e, f, '-', g, h], rest)
      else none
    | _, _, _, _ => none
  | _ => none

/-- The fraction of a second that digits spell: nine of them count, and zeros at the end do not
show. -/
def fractionChars (digits : List Char) : List Char :=
  match ((digits.take 9).reverse.dropWhile fun c => c == '0').reverse with
  | [] => []
  | shown => '.' :: shown

/-- Reads the fraction of a second, if there is one. -/
def readFraction? : List Char → Option (List Char × List Char)
  | '.' :: rest =>
    match rest.takeWhile Char.isDigit with
    | [] => none
    | digits => some (fractionChars digits, rest.dropWhile Char.isDigit)
  | s => some ([], s)

/-- Reads a time of day. The seconds may be missing; the sixtieth is a leap second. -/
def readTime? : List Char → Option (List Char × List Char)
  | a :: b :: ':' :: c :: d :: rest =>
    match twoDigits? a b, twoDigits? c d with
    | some hour, some minute =>
      if hour < 24 ∧ minute < 60 then
        match rest with
        | ':' :: e :: f :: rest =>
          match twoDigits? e f with
          | some second =>
            if second ≤ 60 then
              (readFraction? rest).map fun r => ([a, b, ':', c, d, ':', e, f] ++ r.1, r.2)
            else none
          | none => none
        | _ => some ([a, b, ':', c, d, ':', '0', '0'], rest)
      else none
    | _, _ => none
  | _ => none

/-- The normal form of an offset; there may be none. -/
def offset? : List Char → Option (List Char)
  | [] => some []
  | ['Z'] => some ['Z']
  | ['z'] => some ['Z']
  | [sign, a, b, ':', c, d] =>
    match twoDigits? a b, twoDigits? c d with
    | some hour, some minute =>
      if (sign = '+' ∨ sign = '-') ∧ hour < 24 ∧ minute < 60 then
        some ((if hour = 0 ∧ minute = 0 then '+' else sign) :: [a, b, ':', c, d])
      else none
    | _, _ => none
  | _ => none

/-- The normal form of a date, a time of day, or both. -/
def moment? (s : List Char) : Option String :=
  let chars : Option (List Char) :=
    match readDate? s with
    | some (date, []) => some date
    | some (date, c :: rest) =>
      if c = 'T' ∨ c = 't' ∨ c = ' ' then
        match readTime? rest with
        | some (time, rest) => (offset? rest).map fun offset => date ++ 'T' :: time ++ offset
        | none => none
      else none
    | none =>
      match readTime? s with
      | some (time, []) => some time
      | _ => none
  chars.map String.ofList

example : moment? "2024-02-29 10:00z".toList = some "2024-02-29T10:00:00Z" := by decide +kernel
example : moment? "07:32:00.1234567891".toList = some "07:32:00.123456789" ∧
    moment? "07:32:00.10".toList = some "07:32:00.1" := by decide +kernel
example : moment? "2023-02-29".toList = none ∧ moment? "10:00Z".toList = none := by
  decide +kernel

end SqlBridge.Toml
