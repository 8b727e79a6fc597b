import Polycore.Decimal.Literal
import Polycore.Word

/-!
# JSON numbers

What a number in a JSON text stands for. Whole numbers are exact. A float is worked out from as
many digits as fit in a word, times or over a power of ten, each step rounded; numbers beyond the
greatest float are out of range, and numbers too close to zero are zero.
-/

namespace Polycore.Json

/-- Appends digits to a word as long as they fit. Gives the word and the number of digits left
over. -/
def absorb (word : Nat) : List Char → Nat × Nat
  | [] => (word, 0)
  | c :: rest =>
    let longer := 10 * word + Numeral.digit c
    if longer < Word.bound64 then absorb longer rest else (word, rest.length + 1)

/-- The greatest power of ten that is a float. -/
def greatestPower : Nat := 308

def tenTo (power : Nat) : Float :=
  Float.ofScientific 1 false power

/-- Divides by a power of ten, in steps if it is no float. -/
def divideByPower (x : Float) (power : Nat) : Float :=
  if power ≤ greatestPower then x / tenTo power
  else if x == 0.0 then x
  else divideByPower (x / tenTo greatestPower) (power - greatestPower)
termination_by power
decreasing_by simp only [greatestPower] at *; omega

/-- Multiplies by a power of ten, unless that goes beyond the greatest float. -/
def multiplyByPower? (x : Float) (power : Nat) : Option Float :=
  if power ≤ greatestPower then
    let product := x * tenTo power
    if product.isInf then none else some product
  else if x == 0.0 then some x
  else none

/-- Exponents from this bound on are not worked out. -/
def exponentBound : Nat := 1 <<< 31

/-- The absolute value of a number as a float; absent if it is out of range. -/
def magnitude? (literal : Decimal.Literal) : Option Float :=
  let (word, wholeLeft) := absorb 0 literal.whole
  let (word, fractionLeft) := absorb word literal.fraction
  let scale : Int := wholeLeft - (literal.fraction.length - fractionLeft : Nat)
  let x := Word.toFloat word
  let move (power : Int) : Option Float :=
    if 0 ≤ power then multiplyByPower? x power.toNat else some (divideByPower x power.natAbs)
  match literal.exponent with
  | none => move scale
  | some exponent =>
    if exponentBound ≤ Numeral.value exponent.digits then
      if word ≠ 0 && !exponent.negative then none else some 0.0
    else move (scale + exponent.value)

/-- The number as a float; absent if it is out of range. -/
def toFloat? (literal : Decimal.Literal) : Option Float :=
  (magnitude? literal).map fun x => if literal.negative then -x else x

/-- The number as a natural number below `bound`, if it is written as one. -/
def toNat? (bound : Nat) (literal : Decimal.Literal) : Option Nat :=
  if literal.isWhole && !literal.negative then
    some (Numeral.value literal.whole) |>.filter (· < bound)
  else none

end Polycore.Json
