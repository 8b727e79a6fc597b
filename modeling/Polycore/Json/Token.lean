import Polycore.Decimal.Literal

/-!
# JSON tokens

A JSON text is cut into tokens from left to right. Cutting never fails: where a text goes wrong, the
last token says what is wrong with it, and how that is reported depends on who meets it. A number
that breaks off is truncated for a reader that wants it and malformed for one that passes over it; a
surrogate without its partner concerns only readers that want the text.
-/

namespace Polycore.Json

/-- What can be wrong with a JSON text. -/
inductive Fault where
  /-- the text ends early -/
  | truncated
  /-- the text is no JSON -/
  | malformed
  /-- the text is JSON, but not of the kind wanted -/
  | mismatch
deriving DecidableEq, Repr

def Fault.label : Fault → String
  | truncated => "Eof"
  | malformed => "Syntax"
  | mismatch => "Data"

/-- A place where a text goes wrong, by who meets it. -/
structure Flaw where
  /-- for a reader of the value -/
  read : Fault
  /-- for one who passes over the value -/
  skip : Fault
  /-- a text in quotes may have been meant -/
  maybeText : Bool
deriving DecidableEq, Repr

namespace Flaw

/-- The text ends where something must begin. -/
def atEnd : Flaw := ⟨.truncated, .truncated, true⟩

/-- No value begins like this. -/
def junk : Flaw := ⟨.malformed, .malformed, false⟩

/-- A word breaks off. -/
def ofWord : Flaw := ⟨.truncated, .truncated, false⟩

/-- A number goes wrong before `rest`. -/
def ofNumber (rest : List Char) : Flaw :=
  if rest.isEmpty then ⟨.truncated, .malformed, false⟩ else junk

/-- The flaw for a reader of a key or of a label. -/
def readText (flaw : Flaw) : Fault :=
  if flaw.maybeText then flaw.read else .malformed

/-- The flaw for one who passes over a key. -/
def skipText (flaw : Flaw) : Fault :=
  if flaw.maybeText then flaw.skip else .malformed

end Flaw

/-- A piece of a JSON text. -/
inductive Token where
  | openArray
  | closeArray
  | openObject
  | closeObject
  | comma
  | colon
  | null
  | bool (value : Bool)
  | number (literal : Decimal.Literal)
  /-- a text; `paired` if every surrogate in it has its partner -/
  | string (text : String) (paired : Bool)
  /-- where the text goes wrong -/
  | flawed (flaw : Flaw)
deriving DecidableEq, Repr

/-- A token and what comes after it, or a place where the text goes wrong. -/
inductive Scan where
  | token (token : Token) (rest : List Char)
  | flawed (flaw : Flaw)
deriving DecidableEq, Repr

/-! ## Texts in quotes -/

/-- A text in quotes as far as it has been read. -/
structure Draft where
  /-- the characters read, last first -/
  reversed : List Char := []
  /-- a leading surrogate that waits for its partner -/
  leading : Option Nat := none
  /-- no surrogate has missed its partner -/
  paired : Bool := true

namespace Draft

/-- Adds a character. A surrogate that waits has missed its partner. -/
def char (draft : Draft) (c : Char) : Draft :=
  { reversed := c :: draft.reversed
    leading := none
    paired := draft.paired && draft.leading.isNone }

/-- The character of two surrogates. -/
def joined (leading trailing : Nat) : Char :=
  Char.ofNat (0x10000 + (leading - 0xD800) * 0x400 + (trailing - 0xDC00))

/-- Adds an escaped unit of sixteen bits. -/
def unit (draft : Draft) (code : Nat) : Draft :=
  if 0xDC00 ≤ code && code < 0xE000 then
    match draft.leading with
    | some leading =>
      { draft with reversed := joined leading code :: draft.reversed, leading := none }
    | none => { draft with paired := false }
  else if 0xD800 ≤ code && code < 0xDC00 then
    { draft with leading := some code, paired := draft.paired && draft.leading.isNone }
  else draft.char (Char.ofNat code)

def finish (draft : Draft) : Token :=
  .string (String.ofList draft.reversed.reverse) (draft.paired && draft.leading.isNone)

/-- The text goes wrong. Who wants the text has met a surrogate without partner before that. -/
def flaw (draft : Draft) (fault : Fault) : Flaw :=
  ⟨if draft.paired then fault else .malformed, fault, true⟩

end Draft

/-- The character that a one-letter escape stands for. -/
def escaped? : Char → Option Char
  | '"' => some '"'
  | '\\' => some '\\'
  | '/' => some '/'
  | 'b' => some '\x08'
  | 'f' => some '\x0c'
  | 'n' => some '\n'
  | 'r' => some '\r'
  | 't' => some '\t'
  | _ => none

def hexValue? (c : Char) : Option Nat :=
  if c.isDigit then some (c.toNat - '0'.toNat)
  else if 'a' ≤ c && c ≤ 'f' then some (c.toNat - 'a'.toNat + 10)
  else if 'A' ≤ c && c ≤ 'F' then some (c.toNat - 'A'.toNat + 10)
  else none

def hexUnit? (a b c d : Char) : Option Nat := do
  let a ← hexValue? a
  let b ← hexValue? b
  let c ← hexValue? c
  let d ← hexValue? d
  return ((a * 16 + b) * 16 + c) * 16 + d

/-- The text ends less than four bytes on. -/
def endsWithinUnit (rest : List Char) : Bool :=
  (rest.map Char.utf8Size).foldr (· + ·) 0 < 4

/-- Reads the rest of a text in quotes. -/
def scanString (draft : Draft) : List Char → Scan
  | [] => .flawed (draft.flaw .truncated)
  | '"' :: rest => .token draft.finish rest
  | '\\' :: 'u' :: a :: b :: c :: d :: rest =>
    match hexUnit? a b c d with
    | some code => scanString (draft.unit code) rest
    | none => .flawed (draft.flaw .malformed)
  | '\\' :: 'u' :: rest =>
    .flawed (draft.flaw (if endsWithinUnit rest then .truncated else .malformed))
  | '\\' :: letter :: rest =>
    match escaped? letter with
    | some c => scanString (draft.char c) rest
    | none => .flawed (draft.flaw .malformed)
  | '\\' :: [] => .flawed (draft.flaw .truncated)
  | c :: rest =>
    if c.toNat < 0x20 then .flawed (draft.flaw .malformed) else scanString (draft.char c) rest

/-! ## Words and numbers -/

def scanWord (token : Token) : List Char → List Char → Scan
  | [], text => .token token text
  | _ :: _, [] => .flawed .ofWord
  | letter :: letters, c :: rest =>
    if c = letter then scanWord token letters rest else .flawed .junk

/-- Reads what follows the mark of an exponent. -/
def scanExponent (negative : Bool) (whole fraction : List Char) (text : List Char) : Scan :=
  let (minus, unsigned) := Decimal.takeSign text
  let digits := unsigned.takeWhile Char.isDigit
  if digits.isEmpty then .flawed (.ofNumber unsigned)
  else
    .token (.number { negative, whole, fraction, exponent := some ⟨minus, digits⟩ })
      (unsigned.dropWhile Char.isDigit)

/-- Reads what follows the digits of a number. -/
def scanNumberEnd (negative : Bool) (whole fraction : List Char) (text : List Char) : Scan :=
  match text with
  | 'e' :: rest => scanExponent negative whole fraction rest
  | 'E' :: rest => scanExponent negative whole fraction rest
  | _ => .token (.number { negative, whole, fraction, exponent := none }) text

/-- Reads what follows the sign of a number. Its whole part has no leading zeros, and a digit stands
on both sides of a point. -/
def scanNumber (negative : Bool) (text : List Char) : Scan :=
  match text.takeWhile Char.isDigit with
  | [] => .flawed (.ofNumber text)
  | '0' :: _ :: _ => .flawed .junk
  | whole =>
    match text.dropWhile Char.isDigit with
    | '.' :: rest =>
      let fraction := rest.takeWhile Char.isDigit
      if fraction.isEmpty then .flawed (.ofNumber rest)
      else scanNumberEnd negative whole fraction (rest.dropWhile Char.isDigit)
    | rest => scanNumberEnd negative whole [] rest

/-! ## Cutting a text -/

/-- The blanks between tokens. -/
def isSpace (c : Char) : Bool :=
  c == ' ' || c == '\n' || c == '\t' || c == '\r'

/-- Reads the token that begins with `c`. -/
def scan (c : Char) (rest : List Char) : Scan :=
  match c with
  | '[' => .token .openArray rest
  | ']' => .token .closeArray rest
  | '{' => .token .openObject rest
  | '}' => .token .closeObject rest
  | ',' => .token .comma rest
  | ':' => .token .colon rest
  | '"' => scanString {} rest
  | 'n' => scanWord .null ['u', 'l', 'l'] rest
  | 't' => scanWord (.bool true) ['r', 'u', 'e'] rest
  | 'f' => scanWord (.bool false) ['a', 'l', 's', 'e'] rest
  | '-' => scanNumber true rest
  | c => if c.isDigit then scanNumber false (c :: rest) else .flawed .junk

theorem length_dropWhile_le {α : Type} (p : α → Bool) (xs : List α) :
    (xs.dropWhile p).length ≤ xs.length :=
  (List.dropWhile_sublist p).length_le

theorem length_scanString {draft : Draft} {text : List Char} {token : Token} {rest : List Char}
    (h : scanString draft text = .token token rest) : rest.length < text.length := by
  fun_induction scanString draft text with
  | case1 => cases h
  | case2 => cases h; simp
  | case3 => rename_i ih; have := ih h; simp only [List.length_cons]; omega
  | case4 => cases h
  | case5 => cases h
  | case6 => rename_i ih; have := ih h; simp only [List.length_cons]; omega
  | case7 => cases h
  | case8 => cases h
  | case9 => cases h
  | case10 => rename_i ih; have := ih h; simp only [List.length_cons]; omega

theorem length_scanWord {token : Token} {letters text : List Char} {out : Token}
    {rest : List Char} (h : scanWord token letters text = .token out rest) :
    rest.length ≤ text.length := by
  fun_induction scanWord token letters text with
  | case1 => cases h; exact Nat.le_refl _
  | case2 => cases h
  | case3 _ _ _ ih => have := ih h; simp only [List.length_cons]; omega
  | case4 => cases h

theorem length_scanExponent {negative : Bool} {whole fraction text : List Char} {token : Token}
    {rest : List Char} (h : scanExponent negative whole fraction text = .token token rest) :
    rest.length ≤ text.length := by
  unfold scanExponent at h
  dsimp only at h
  split at h
  · cases h
  · cases h
    exact Nat.le_trans (length_dropWhile_le _ _) (Decimal.length_takeSign text)

theorem length_scanNumberEnd {negative : Bool} {whole fraction text : List Char} {token : Token}
    {rest : List Char} (h : scanNumberEnd negative whole fraction text = .token token rest) :
    rest.length ≤ text.length := by
  unfold scanNumberEnd at h
  split at h
  · have := length_scanExponent h; simp only [List.length_cons]; omega
  · have := length_scanExponent h; simp only [List.length_cons]; omega
  · cases h; exact Nat.le_refl _

theorem length_scanNumber {negative : Bool} {text : List Char} {token : Token} {rest : List Char}
    (h : scanNumber negative text = .token token rest) :
    rest.length ≤ (text.dropWhile Char.isDigit).length := by
  unfold scanNumber at h
  split at h
  · cases h
  · cases h
  · split at h
    · next tail drop =>
      dsimp only at h
      split at h
      · cases h
      · have := length_scanNumberEnd h
        have := length_dropWhile_le Char.isDigit tail
        rw [drop, List.length_cons]
        omega
    · exact length_scanNumberEnd h

theorem length_scan {c : Char} {text : List Char} {token : Token} {rest : List Char}
    (h : scan c text = .token token rest) : rest.length ≤ text.length := by
  unfold scan at h
  split at h
  · cases h; exact Nat.le_refl _
  · cases h; exact Nat.le_refl _
  · cases h; exact Nat.le_refl _
  · cases h; exact Nat.le_refl _
  · cases h; exact Nat.le_refl _
  · cases h; exact Nat.le_refl _
  · exact Nat.le_of_lt (length_scanString h)
  · exact length_scanWord h
  · exact length_scanWord h
  · exact length_scanWord h
  · exact Nat.le_trans (length_scanNumber h) (length_dropWhile_le _ _)
  · split at h
    · next digit =>
      have := length_scanNumber h
      rw [List.dropWhile_cons_of_pos digit] at this
      exact Nat.le_trans this (length_dropWhile_le _ _)
    · cases h

/-- The tokens of a text, up to the place where it goes wrong. -/
def tokens (text : List Char) : List Token :=
  match text with
  | [] => []
  | c :: rest =>
    if isSpace c then tokens rest
    else
      match _ : scan c rest with
      | .token token rest => token :: tokens rest
      | .flawed flaw => [.flawed flaw]
termination_by text.length
decreasing_by
  · simp
  · have := length_scan ‹scan c _ = _›
    simp only [List.length_cons]
    omega

end Polycore.Json
