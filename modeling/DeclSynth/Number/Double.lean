/-!
# Binary floating-point numbers

A `Double` is the bit pattern of a number in the 64-bit binary format. All arithmetic on
it is exact arithmetic on natural numbers: a finite double is a mantissa times a power of
two, and `Double.ofRatio` rounds a quotient to the nearest double, a tie to the even one.
-/

namespace DeclSynth

/-- A number in the 64-bit binary format. -/
structure Double where
  bits : UInt64
deriving DecidableEq, Repr, Inhabited

/-- A binary format: how many bits a mantissa has, the least exponent of two that scales one,
and the power of two that no number reaches. -/
structure BinaryFormat where
  precision : Nat
  least : Int
  limit : Nat
deriving DecidableEq, Repr

namespace BinaryFormat

/-- The 64-bit format. -/
def double : BinaryFormat := ⟨53, -1074, 1024⟩

/-- The 32-bit format. -/
def single : BinaryFormat := ⟨24, -149, 128⟩

/-- The quotient of `num / den` by a power of two, as a numerator and a denominator. -/
def scaled (num den : Nat) (power : Int) : Nat × Nat :=
  (num * Nat.pow 2 (-power).toNat, den * Nat.pow 2 power.toNat)

/-- The exponent at which `num / den` is rounded: the one at which its mantissa has the format's
precision, but not less than the least one. -/
def exponentOf (f : BinaryFormat) (num den : Nat) : Int :=
  let guess : Int := (num.log2 : Int) - den.log2 - f.precision
  let (n, d) := scaled num den guess
  max (if n / d < Nat.pow 2 f.precision then guess else guess + 1) f.least

/-- Rounds `num / den` to a mantissa and an exponent, a tie to the even mantissa; nothing if the
result is too large for the format. -/
def round (f : BinaryFormat) (num den : Nat) : Option (Nat × Int) :=
  let exponent := f.exponentOf num den
  let (n, d) := scaled num den exponent
  let q := n / d
  let r := n % d
  let mantissa := if 2 * r > d || (2 * r == d && q % 2 == 1) then q + 1 else q
  if mantissa * Nat.pow 2 exponent.toNat ≥ Nat.pow 2 f.limit * Nat.pow 2 (-exponent).toNat then
    none
  else some (mantissa, exponent)

end BinaryFormat

namespace Double

/-- Whether the sign bit is set. -/
def isNegative (x : Double) : Bool := x.bits.toNat ≥ Nat.pow 2 63

/-- The eleven bits of the exponent. -/
def exponentField (x : Double) : Nat := x.bits.toNat / Nat.pow 2 52 % Nat.pow 2 11

/-- The fifty-two bits of the fraction. -/
def fraction (x : Double) : Nat := x.bits.toNat % Nat.pow 2 52

/-- Whether the number is neither infinite nor undefined. -/
def isFinite (x : Double) : Bool := x.exponentField ≠ 2047

/-- The mantissa of a finite number's absolute value. -/
def mantissa (x : Double) : Nat :=
  if x.exponentField = 0 then x.fraction else x.fraction + Nat.pow 2 52

/-- The power of two that scales the mantissa. -/
def exponent (x : Double) : Int :=
  if x.exponentField = 0 then -1074 else (x.exponentField : Int) - 1075

/-- Whether the next smaller absolute value is nearer than the next larger one. -/
def isBoundary (x : Double) : Bool := x.fraction = 0 && x.exponentField > 1

/-- The absolute value of a finite number, as a numerator and a denominator. -/
def ratio (x : Double) : Nat × Nat :=
  (x.mantissa * Nat.pow 2 x.exponent.toNat, Nat.pow 2 (-x.exponent).toNat)

/-- The number with a sign and the bits of an absolute value. -/
def ofParts (negative : Bool) (magnitude : Nat) : Double :=
  ⟨UInt64.ofNat ((if negative then Nat.pow 2 63 else 0) + magnitude)⟩

/-- The infinite number of a sign. -/
def infinity (negative : Bool) : Double := ofParts negative (2047 * Nat.pow 2 52)

/-- The bits of a mantissa times a power of two that the format holds. -/
def encode (mantissa : Nat) (exponent : Int) : Nat :=
  if mantissa < Nat.pow 2 52 then mantissa
  else (exponent + 1075).toNat * Nat.pow 2 52 + (mantissa - Nat.pow 2 52)

/-- The number nearest to `num / den`, with a sign. -/
def ofRatio (negative : Bool) (num den : Nat) : Double :=
  if num = 0 then ofParts negative 0
  else match BinaryFormat.double.round num den with
    | some (mantissa, exponent) => ofParts negative (encode mantissa exponent)
    | none => infinity negative

/-- The number nearest to an integer. -/
def ofInt (n : Int) : Double := ofRatio (n < 0) n.natAbs 1

/-- The number in the 32-bit format nearest to `num / den`, with a sign. -/
def ofRatioSingle (negative : Bool) (num den : Nat) : Double :=
  if num = 0 then ofParts negative 0
  else match BinaryFormat.single.round num den with
    | some (mantissa, exponent) =>
      ofRatio negative (mantissa * Nat.pow 2 exponent.toNat) (Nat.pow 2 (-exponent).toNat)
    | none => infinity negative

/-- The number in the 32-bit format nearest to an integer. -/
def ofIntSingle (n : Int) : Double := ofRatioSingle (n < 0) n.natAbs 1

/-- The number rounded to the 32-bit format. One that is not finite stays as it is. -/
def toSingle (x : Double) : Double :=
  if x.isFinite then ofRatioSingle x.isNegative x.ratio.1 x.ratio.2 else x

/-- The product of two finite absolute values. -/
def mul (x y : Double) : Double :=
  ofRatio (x.isNegative != y.isNegative) (x.ratio.1 * y.ratio.1) (x.ratio.2 * y.ratio.2)

/-- The quotient of two finite absolute values, the second not zero. -/
def div (x y : Double) : Double :=
  ofRatio (x.isNegative != y.isNegative) (x.ratio.1 * y.ratio.2) (x.ratio.2 * y.ratio.1)

end Double

end DeclSynth
