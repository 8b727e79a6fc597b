import Polycore.Decimal.Literal

/-!
# Reading floats

The float that a text stands for: an optional sign, then `inf`, `infinity` or `nan` in any case of
letters, or digits with at most one point among them and an optional exponent. At least one digit
stands before the exponent, and nothing else is allowed, not even blanks.
-/

namespace Polycore.Decimal

/-- Reads what follows the digits: nothing, or an exponent. -/
def exponent? : List Char → Option (Option Exponent)
  | [] => some none
  | mark :: rest =>
    let (negative, digits) := takeSign rest
    if (mark == 'e' || mark == 'E') && !digits.isEmpty && digits.all Char.isDigit then
      some (some ⟨negative, digits⟩)
    else none

/-- Reads digits with an optional point and an optional exponent. -/
def unsigned? (negative : Bool) (text : List Char) : Option Literal :=
  let whole := text.takeWhile Char.isDigit
  let afterWhole := text.dropWhile Char.isDigit
  let (fraction, rest) :=
    match afterWhole with
    | '.' :: tail => (tail.takeWhile Char.isDigit, tail.dropWhile Char.isDigit)
    | _ => ([], afterWhole)
  if whole.isEmpty && fraction.isEmpty then none
  else (exponent? rest).map fun exponent => { negative, whole, fraction, exponent }

def readFloat? (text : List Char) : Option Float :=
  let (negative, unsigned) := takeSign text
  let word := unsigned.map Char.toLower
  let special : Option Float :=
    if word = "inf".toList || word = "infinity".toList then some (1.0 / 0.0)
    else if word = "nan".toList then some (0.0 / 0.0)
    else none
  match special with
  | some x => some (if negative then -x else x)
  | none => (unsigned? negative unsigned).map Literal.nearest

end Polycore.Decimal
