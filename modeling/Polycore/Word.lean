/-!
# Words

The bounds of machine words, and how whole numbers of one word become floats and back.
-/

namespace Polycore.Word

/-- Numbers below this bound fit in a word of 32 bits. -/
def bound32 : Nat := 1 <<< 32

/-- Numbers below this bound fit in a word of 64 bits. -/
def bound64 : Nat := 1 <<< 64

/-- The float nearest to a word; a half goes to the even neighbour. -/
def toFloat (n : Nat) : Float :=
  (UInt64.ofNat n).toFloat

/-- The whole part of a float as a word: too large a float gives the last word, a negative one and
NaN give zero. -/
def truncate (x : Float) : Nat :=
  x.toUInt64.toNat

example : truncate 300.7 = 300 ∧ truncate (-1.5) = 0 := by decide

end Polycore.Word
