import DeclSynth.Number.Double

/-!
# Shortest decimal text

The text of a finite double has the fewest digits that read back as the same number, and
of those the ones nearest to it, a tie going to the even digit. `Decimal.shortest` finds
the digits by exact arithmetic; `Double.text` decides how they are laid out.
-/

namespace DeclSynth

/-- The decimal number `0.digits` times ten to a power. -/
structure Decimal where
  digits : Nat
  point : Int
deriving DecidableEq, Repr

namespace Decimal

/-- The number of decimal digits of a number. -/
def width (n : Nat) : Nat := (Nat.toDigits 10 n).length

/-- The least number of places that bring `num / den` to one or more, up to a bound. -/
def placesToOne (num den : Nat) : (bound : Nat) → Nat
  | 0 => 0
  | bound + 1 => if num ≥ den then 0 else placesToOne (num * 10) den bound + 1

/-- The power of ten above `num / den`: the least one that is greater. -/
def magnitude (num den : Nat) : Int :=
  if num ≥ den then width (num / den) else 1 - (placesToOne num den 400 : Int)

/-- The real numbers that read back as a double, and the double itself, over one denominator. -/
structure Interval where
  low : Nat
  value : Nat
  high : Nat
  den : Nat
  /-- Whether the ends belong to it. -/
  closed : Bool

/-- What reads back as a finite double. -/
def Interval.of (x : Double) : Interval :=
  let power := x.exponent - 2
  let unit := Nat.pow 2 power.toNat
  let m := x.mantissa
  { low := (4 * m - if x.isBoundary then 1 else 2) * unit
    value := 4 * m * unit
    high := (4 * m + 2) * unit
    den := Nat.pow 2 (-power).toNat
    closed := m % 2 == 0 }

/-- Whether `n` units of a grid lie in an interval; the unit is `up / down`. -/
def Interval.contains (i : Interval) (n up down : Nat) : Bool :=
  let point := n * up * i.den
  if i.closed then i.low * down ≤ point && point ≤ i.high * down
  else i.low * down < point && point < i.high * down

/-- The point with a number of digits that reads back, the nearer of two. -/
def candidate? (i : Interval) (point : Int) (digits : Nat) : Option Nat :=
  let power := point - digits
  let up := Nat.pow 10 power.toNat
  let down := Nat.pow 10 (-power).toNat
  let below := i.value * down / (up * i.den)
  let rest := i.value * down % (up * i.den)
  let twice := 2 * rest
  let unit := up * i.den
  match i.contains below up down, i.contains (below + 1) up down with
  | true, true =>
    some (if twice < unit || (twice == unit && below % 2 == 0) then below else below + 1)
  | true, false => some below
  | false, true => some (below + 1)
  | false, false => none

/-- A number without the zeros at its end, up to a bound. -/
def trimZeros : (bound : Nat) → Nat → Nat
  | 0, n => n
  | bound + 1, n => if n % 10 = 0 && n ≠ 0 then trimZeros bound (n / 10) else n

/-- The fewest digits that read back as a finite double that is not zero. -/
def shortest (x : Double) : Decimal :=
  let i := Interval.of x
  let point := magnitude i.value i.den
  let found := (List.range 17).findSome? fun n =>
    (candidate? i point (n + 1)).map fun digits => (digits, n + 1)
  match found with
  | some (digits, n) =>
    ⟨trimZeros 20 digits, if width digits > n then point + 1 else point⟩
  | none => ⟨0, 0⟩

end Decimal

/-- How decimal digits are laid out: positionally while the exponent of the first digit lies in
`[least, beyond)`, with a point and a digit behind it in any case. -/
structure DecimalLayout where
  least : Int
  beyond : Int

namespace DecimalLayout

/-- Digits with a point inside, before or behind them. -/
def positional (digits : List Char) (point : Int) : List Char :=
  let before := point.toNat
  if point ≤ 0 then ['0', '.'] ++ List.replicate (-point).toNat '0' ++ digits
  else if before ≥ digits.length then
    digits ++ List.replicate (before - digits.length) '0' ++ ['.', '0']
  else digits.take before ++ ['.'] ++ digits.drop before

/-- Digits with a point behind the first one, and an exponent with its sign. -/
def scientific (digits : List Char) (point : Int) : List Char :=
  let exponent := point - 1
  let mantissa := match digits with
    | first :: second :: rest => first :: '.' :: second :: rest
    | short => short
  mantissa ++ ['e', if exponent < 0 then '-' else '+'] ++ Nat.toDigits 10 exponent.natAbs

/-- The text of a decimal number. -/
def text (l : DecimalLayout) (d : Decimal) : List Char :=
  let digits := Nat.toDigits 10 d.digits
  if l.least ≤ d.point - 1 && d.point - 1 < l.beyond then positional digits d.point
  else scientific digits d.point

end DecimalLayout

/-- Numbers are written positionally from a hundred-thousandth up to below ten to the sixteenth. -/
def Double.layout : DecimalLayout := ⟨-5, 16⟩

/-- The text of a finite double. -/
def Double.text (x : Double) : String :=
  let magnitude :=
    if x.mantissa = 0 then ['0', '.', '0'] else Double.layout.text (Decimal.shortest x)
  String.ofList (if x.isNegative then '-' :: magnitude else magnitude)

end DeclSynth
