import Polycore.Text.Numeral

/-!
# Decimal literals

A literal is the written form of a decimal number in its parts: sign, whole digits, fraction
digits and exponent. `Literal.write` puts the parts together; `Literal.nearest` is the float
closest to the number that they stand for.
-/

namespace Polycore.Decimal

/-- Cuts an optional sign off; true for minus. -/
def takeSign : List Char → Bool × List Char
  | '+' :: rest => (false, rest)
  | '-' :: rest => (true, rest)
  | text => (false, text)

theorem length_takeSign (text : List Char) : (takeSign text).2.length ≤ text.length := by
  unfold takeSign
  split <;> simp

/-- The exponent of a literal: a power of ten, with its sign apart. -/
structure Exponent where
  negative : Bool
  digits : List Char
deriving DecidableEq, Repr

def Exponent.value (e : Exponent) : Int :=
  if e.negative then -(Numeral.value e.digits : Int) else Numeral.value e.digits

def Exponent.write (e : Exponent) : List Char :=
  'e' :: (if e.negative then '-' else '+') :: e.digits

/-- A decimal number in parts. An empty fraction is written without a point. -/
structure Literal where
  negative : Bool
  whole : List Char
  fraction : List Char
  exponent : Option Exponent
deriving DecidableEq, Repr

namespace Literal

def ofNat (n : Nat) : Literal :=
  { negative := false, whole := Numeral.write n, fraction := [], exponent := none }

/-- A literal without fraction and exponent stands for an integer. -/
def isWhole (l : Literal) : Bool :=
  l.fraction.isEmpty && l.exponent.isNone

def write (l : Literal) : List Char :=
  (if l.negative then ['-'] else []) ++ l.whole ++
    (if l.fraction.isEmpty then [] else '.' :: l.fraction) ++
    (l.exponent.map Exponent.write).getD []

/-- The digits before and after the point as one number. -/
def significand (l : Literal) : Nat :=
  Numeral.value (l.whole ++ l.fraction)

/-- The power of ten that the significand is multiplied by. -/
def scale (l : Literal) : Int :=
  (l.exponent.map Exponent.value).getD 0 - l.fraction.length

/-- Beyond this power of ten every float is infinite, and below its inverse every float is zero. -/
def floatRange : Int := 400

/-- The float nearest to the absolute value of the number. Far outside of the range of floats the
power of ten is not worked out. -/
def magnitude (l : Literal) : Float :=
  let size : Int := (Numeral.write l.significand).length + l.scale
  if l.significand = 0 || size < -floatRange then 0.0
  else if floatRange < size then 1.0 / 0.0
  else Float.ofScientific l.significand (l.scale < 0) l.scale.natAbs

/-- The float nearest to the number; a half goes to the even neighbour. -/
def nearest (l : Literal) : Float :=
  if l.negative then -l.magnitude else l.magnitude

end Literal

end Polycore.Decimal
