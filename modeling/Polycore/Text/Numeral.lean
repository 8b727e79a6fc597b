/-!
# Decimal numerals

Numerals are non-empty runs of ASCII digits, with or without leading zeros; a sign may stand in
front where the reader says so. `write` gives the numeral without leading zeros.
-/

namespace Polycore.Numeral

/-- The digits of a number in base ten, without leading zeros. -/
def write (n : Nat) : List Char :=
  Nat.toDigits 10 n

def digit (c : Char) : Nat :=
  c.toNat - '0'.toNat

/-- The number that a run of digits stands for, leading zeros or not. -/
def value (digits : List Char) : Nat :=
  digits.foldl (fun n c => 10 * n + digit c) 0

/-- Reads a numeral without a sign. -/
def natural? (text : List Char) : Option Nat :=
  if !text.isEmpty && text.all Char.isDigit then some (value text) else none

/-- Reads a numeral below `bound` that may carry a plus sign. -/
def bounded? (bound : Nat) (text : List Char) : Option Nat :=
  let digits :=
    match text with
    | '+' :: rest => rest
    | _ => text
  (natural? digits).filter (· < bound)

/-- Reads a numeral that may carry either sign. -/
def signed? : List Char → Option Int
  | '+' :: rest => (natural? rest).map Int.ofNat
  | '-' :: rest => (natural? rest).map fun n => -Int.ofNat n
  | text => (natural? text).map Int.ofNat

/-- The digits of an integer, a minus sign in front if it is negative. -/
def writeInt (i : Int) : List Char :=
  match i with
  | .ofNat n => write n
  | .negSucc n => '-' :: write (n + 1)

theorem write_ne_nil (n : Nat) : write n ≠ [] :=
  Nat.toDigits_ne_nil

theorem isDigit_of_mem_write {n : Nat} {c : Char} (h : c ∈ write n) : c.isDigit :=
  Nat.isDigit_of_mem_toDigits (by decide) (by decide) h

end Polycore.Numeral
