import Polycore.Decimal.Literal
import Polycore.Decimal.Shortest

/-!
# Layout of floats

How the shortest digits of a float are laid out as a literal: which magnitudes are written
positionally, and whether whole numbers keep a point. The two layouts in use stand with the texts
that they belong to.
-/

namespace Polycore.Decimal

/-- The decisions of one way to write floats. -/
structure Layout where
  /-- The exponents of the leading digit that are written positionally, first and last; all if
  absent. -/
  positional : Option (Int × Int)
  /-- Whole numbers end in `.0`. -/
  pointZero : Bool
  /-- Which of two equally close shortest decimals is written. -/
  tie : Tie

namespace Layout

def plain (layout : Layout) (negative : Bool) (d : Scaled) : Literal :=
  let digits := Numeral.write d.digits
  let point : Int := digits.length + d.exponent
  let (whole, fraction) :=
    if 0 ≤ d.exponent then
      (digits ++ List.replicate d.exponent.toNat '0', if layout.pointZero then ['0'] else [])
    else if 0 < point then (digits.take point.toNat, digits.drop point.toNat)
    else (['0'], List.replicate (-point).toNat '0' ++ digits)
  { negative, whole, fraction, exponent := none }

/-- A decimal as its leading digit, the other digits as a fraction, and an exponent. -/
def scientific (negative : Bool) (d : Scaled) : Literal :=
  let digits := Numeral.write d.digits
  let power : Int := digits.length + d.exponent - 1
  { negative
    whole := digits.take 1
    fraction := digits.drop 1
    exponent := some ⟨power < 0, Numeral.write power.natAbs⟩ }

/-- The literal of a finite float. Zero keeps its sign. -/
def literal (layout : Layout) (x : Float) : Literal :=
  let negative := x.toBits.toNat >>> 63 == 1
  if x == 0.0 then layout.plain negative ⟨0, 0⟩
  else
    let d := (Dyadic.ofFloat x).shortest layout.tie
    let leading : Int := (Numeral.write d.digits).length + d.exponent - 1
    match layout.positional with
    | none => layout.plain negative d
    | some (first, last) =>
      if first ≤ leading && leading ≤ last then layout.plain negative d
      else scientific negative d

end Layout

end Polycore.Decimal
