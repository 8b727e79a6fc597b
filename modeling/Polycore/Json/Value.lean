import Polycore.Decimal.Layout

/-!
# JSON values

JSON values and their two written forms: `Json.compact` has no blanks, and `Json.pretty` puts every
item and every member on a line of its own. Members stand in the order given.
-/

namespace Polycore

inductive Json where
  | null
  | bool (value : Bool)
  | number (literal : Decimal.Literal)
  | string (text : String)
  | array (items : List Json)
  | object (members : List (String × Json))
deriving Repr

namespace Json

def ofNat (n : Nat) : Json :=
  .number (.ofNat n)

/-- Floats keep a point, and are written with an exponent below `1e-5` and from `1e+16` on. -/
def floatLayout : Decimal.Layout where
  positional := some (-5, 15)
  pointZero := true
  tie := .toEven

example : (floatLayout.literal 1e16).write = ['1', 'e', '+', '1', '6'] := by decide +kernel

example : (floatLayout.literal 1e-6).write = ['1', 'e', '-', '6'] := by decide +kernel

/-- A float. One that is not finite has no literal. -/
def ofFloat (x : Float) : Json :=
  if x.isFinite then .number (floatLayout.literal x) else .null

/-! ## Texts in quotes -/

def hexDigit (n : Nat) : Char :=
  Nat.digitChar n

/-- The written form of a character inside quotes. Only quotes, backslashes and control characters
are escaped. -/
def escape (c : Char) : List Char :=
  if c = '"' then ['\\', '"']
  else if c = '\\' then ['\\', '\\']
  else if c = '\x08' then ['\\', 'b']
  else if c = '\x0c' then ['\\', 'f']
  else if c = '\n' then ['\\', 'n']
  else if c = '\r' then ['\\', 'r']
  else if c = '\t' then ['\\', 't']
  else if c.toNat < 0x20 then
    ['\\', 'u', '0', '0', hexDigit (c.toNat / 16), hexDigit (c.toNat % 16)]
  else [c]

def quote (text : String) : List Char :=
  '"' :: (text.toList.flatMap escape ++ ['"'])

/-! ## The compact form -/

mutual

/-- The form without blanks. -/
def compact : Json → List Char
  | null => ['n', 'u', 'l', 'l']
  | bool true => ['t', 'r', 'u', 'e']
  | bool false => ['f', 'a', 'l', 's', 'e']
  | number literal => literal.write
  | string text => quote text
  | array [] => ['[', ']']
  | array (item :: rest) => '[' :: (compact item ++ compactItems rest)
  | object [] => ['{', '}']
  | object ((key, value) :: rest) =>
    '{' :: (quote key ++ ':' :: (compact value ++ compactMembers rest))

/-- Further items, and the end of the array. -/
def compactItems : List Json → List Char
  | [] => [']']
  | item :: rest => ',' :: (compact item ++ compactItems rest)

/-- Further members, and the end of the object. -/
def compactMembers : List (String × Json) → List Char
  | [] => ['}']
  | (key, value) :: rest =>
    ',' :: (quote key ++ ':' :: (compact value ++ compactMembers rest))

end

/-! ## The pretty form -/

/-- A new line, two blanks for each level deep. -/
def newline (level : Nat) : List Char :=
  '\n' :: List.replicate (2 * level) ' '

mutual

/-- The form on several lines, at a level of indentation. -/
def prettyAt (level : Nat) : Json → List Char
  | null => ['n', 'u', 'l', 'l']
  | bool true => ['t', 'r', 'u', 'e']
  | bool false => ['f', 'a', 'l', 's', 'e']
  | number literal => literal.write
  | string text => quote text
  | array [] => ['[', ']']
  | array (item :: rest) =>
    '[' :: (newline (level + 1) ++ prettyAt (level + 1) item ++ prettyItems level rest)
  | object [] => ['{', '}']
  | object ((key, value) :: rest) =>
    '{' :: (newline (level + 1) ++ quote key ++ ':' :: ' ' ::
      (prettyAt (level + 1) value ++ prettyMembers level rest))

/-- Further items, and the end of the array. -/
def prettyItems (level : Nat) : List Json → List Char
  | [] => newline level ++ [']']
  | item :: rest =>
    ',' :: (newline (level + 1) ++ prettyAt (level + 1) item ++ prettyItems level rest)

/-- Further members, and the end of the object. -/
def prettyMembers (level : Nat) : List (String × Json) → List Char
  | [] => newline level ++ ['}']
  | (key, value) :: rest =>
    ',' :: (newline (level + 1) ++ quote key ++ ':' :: ' ' ::
      (prettyAt (level + 1) value ++ prettyMembers level rest))

end

def pretty (value : Json) : String :=
  String.ofList (value.prettyAt 0)

def compactText (value : Json) : String :=
  String.ofList value.compact

end Json

end Polycore
