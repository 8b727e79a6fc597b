/-!
# Blank characters

The Unicode property `White_Space` as a table of code point ranges, and the text that is left
when blanks are taken off both ends.
-/

namespace Polycore.Text

/-- The code points with the property `White_Space`, as closed ranges in ascending order. -/
def blankRanges : List (Nat × Nat) :=
  [(0x09, 0x0D), (0x20, 0x20), (0x85, 0x85), (0xA0, 0xA0), (0x1680, 0x1680), (0x2000, 0x200A),
    (0x2028, 0x2029), (0x202F, 0x202F), (0x205F, 0x205F), (0x3000, 0x3000)]

/-- A character is blank if one of the ranges holds it. -/
def isBlank (c : Char) : Bool :=
  blankRanges.any fun range => range.1 ≤ c.toNat && c.toNat ≤ range.2

def trim (text : List Char) : List Char :=
  ((text.dropWhile isBlank).reverse.dropWhile isBlank).reverse

/-- There are twenty-five blank characters. -/
example : (blankRanges.map fun range => range.2 - range.1 + 1).sum = 25 := rfl

example : trim [' ', 'a', ' ', 'b', '\n'] = ['a', ' ', 'b'] := rfl

end Polycore.Text
