/-!
# Shortest decimals

The decimal with the fewest digits among those that read back as a given float. All comparisons
are exact, in natural numbers: a float is a mantissa times a power of two, and the decimals that
read back as it are those of an interval around it, ends included iff the mantissa is even.
-/

namespace Polycore.Decimal

/-- A positive float, `mantissa * 2 ^ exponent`. `narrowBelow` says that the gap to the next float
below is half of the gap to the next one above. -/
structure Dyadic where
  mantissa : Nat
  exponent : Int
  narrowBelow : Bool
deriving Repr

/-- The absolute value of a finite float other than zero. -/
def Dyadic.ofFloat (x : Float) : Dyadic :=
  let bits := x.toBits.toNat
  let field : Nat := bits >>> 52 % 1 <<< 11
  let fraction : Nat := bits % 1 <<< 52
  if field = 0 then ⟨fraction, -1074, false⟩
  else ⟨1 <<< 52 + fraction, (field : Int) - 1075, fraction == 0 && 1 < field⟩

/-- A decimal number, `digits * 10 ^ exponent`. -/
structure Scaled where
  digits : Nat
  exponent : Int
deriving DecidableEq, Repr

/-- Compares `a * 10 ^ i` with `b * 2 ^ j`. -/
def compareScaled (a : Nat) (i : Int) (b : Nat) (j : Int) : Ordering :=
  compare ((a * Nat.pow 10 i.toNat) <<< (-j).toNat) (b <<< j.toNat * Nat.pow 10 (-i).toNat)

/-- Where to go from the middle between two decimals. -/
inductive Tie where
  | toEven
  | up
deriving DecidableEq, Repr

namespace Dyadic

/-- The decimal lies among the numbers that round to `x`. -/
def readsBack (x : Dyadic) (d : Scaled) : Bool :=
  let low := compareScaled d.digits d.exponent
    (4 * x.mantissa - if x.narrowBelow then 1 else 2) (x.exponent - 2)
  let high := compareScaled d.digits d.exponent (4 * x.mantissa + 2) (x.exponent - 2)
  let ends := x.mantissa % 2 == 0
  (low == .gt || (ends && low == .eq)) && (high == .lt || (ends && high == .eq))

/-- The value over a power of ten, as a fraction of naturals. -/
def fractionOver (x : Dyadic) (power : Int) : Nat × Nat :=
  (x.mantissa <<< x.exponent.toNat * Nat.pow 10 (-power).toNat,
    1 <<< (-x.exponent).toNat * Nat.pow 10 power.toNat)

/-- The lower of two neighbours is the nearer one: what is left above it, doubled, is less than the
whole gap, or equals it and the tie goes down. -/
def lowIsNearer (tie : Tie) (below doubledRest gap : Nat) : Bool :=
  doubledRest < gap || (doubledRest == gap && tie == .toEven && below % 2 == 0)

/-- Of the two multiples of `10 ^ power` around the value, the one that reads back; the nearer one
if both do. -/
def onGrid? (x : Dyadic) (tie : Tie) (power : Int) : Option Scaled :=
  let (numerator, denominator) := x.fractionOver power
  let below := numerator / denominator
  let rest := numerator % denominator
  let low : Scaled := ⟨below, power⟩
  let high : Scaled := ⟨below + 1, power⟩
  let lowFits := below != 0 && x.readsBack low
  let highFits := x.readsBack high
  if lowFits && highFits then
    some (if lowIsNearer tie below (2 * rest) denominator then low else high)
  else if lowFits then some low
  else if highFits then some high
  else none

/-- The value written out in full. -/
def exact (x : Dyadic) : Scaled :=
  if x.exponent < 0 then ⟨x.mantissa * Nat.pow 5 x.exponent.natAbs, x.exponent⟩
  else ⟨x.mantissa <<< x.exponent.toNat, 0⟩

/-- The decimal with the fewest digits that reads back as `x`: the coarsest grid with a hit. The
search starts above the leading digit and goes past the seventeenth, which always suffices. -/
def shortest (x : Dyadic) (tie : Tie) : Scaled :=
  let (numerator, denominator) := x.fractionOver 0
  let start : Int :=
    (Nat.toDigits 10 numerator).length - (Nat.toDigits 10 denominator).length + 1
  ((List.range 20).findSome? fun (i : Nat) => x.onGrid? tie (start - i)).getD x.exact

end Dyadic

example : (Dyadic.ofFloat 0.1).shortest .up = ⟨1, -1⟩ := by decide +kernel

/-- The float `1e23` lies just below its own decimal, which reads back all the same. -/
example : (Dyadic.ofFloat 1e23).shortest .toEven = ⟨1, 23⟩ := by decide +kernel

/-- The least positive float. -/
example : (Dyadic.ofFloat (Float.ofBits 1)).shortest .up = ⟨5, -324⟩ := by decide +kernel

/-- Two decimals of seventeen digits are equally close to `2 ^ -25`. -/
example : (Dyadic.ofFloat 2.98023223876953125e-8).shortest .up = ⟨29802322387695313, -24⟩ ∧
    (Dyadic.ofFloat 2.98023223876953125e-8).shortest .toEven = ⟨29802322387695312, -24⟩ := by
  decide +kernel

end Polycore.Decimal
