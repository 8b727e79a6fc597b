/-!
# Inert texts

Some control characters are commands to a terminal. In an inert text an escape stands in the place
of each of them, so that showing the text does nothing else (`not_isCommand_of_mem_inert`).
-/

namespace Polycore.Text

/-- The commands among the ASCII characters: bell, backspace, form feed, escape and delete. -/
def asciiCommands : List Char :=
  ['\x07', '\x08', '\x0c', '\x1b', '\x7f']

/-- A character that a terminal may take for a command: one of ASCII or a control character above
it. Tabulators and the ends of lines are none. -/
def isCommand (c : Char) : Bool :=
  asciiCommands.contains c || (0x80 ≤ c.toNat && c.toNat ≤ 0x9F)

/-- The inert form of a character: a command is written by its code point, in two hexadecimal
digits. -/
def inertChar (c : Char) : List Char :=
  let digits := [Nat.digitChar (c.toNat / 16), Nat.digitChar (c.toNat % 16)]
  if !isCommand c then [c]
  else if c.toNat < 0x80 then '\\' :: 'x' :: digits
  else '\\' :: 'u' :: '{' :: (digits ++ ['}'])

/-- A text with its commands written out. -/
def inert (text : List Char) : List Char :=
  text.flatMap inertChar

example : inert ['a', '\x1b', '\n', '\x85'] =
    ['a', '\\', 'x', '1', 'b', '\n', '\\', 'u', '{', '8', '5', '}'] := by decide

theorem toNat_le_of_isCommand {c : Char} (h : isCommand c) : c.toNat ≤ 0x9F := by
  rw [isCommand, Bool.or_eq_true, Bool.and_eq_true, decide_eq_true_iff, decide_eq_true_iff,
    List.contains_iff_mem] at h
  have ascii : asciiCommands.all (·.toNat ≤ 0x9F) = true := by decide
  exact h.elim (fun mem => of_decide_eq_true (List.all_eq_true.mp ascii c mem)) (·.2)

theorem isCommand_digitChar {n : Nat} (h : n < 16) : isCommand (Nat.digitChar n) = false := by
  have all : ∀ n ∈ List.range 16, isCommand (Nat.digitChar n) = false := by decide
  exact all n (List.mem_range.mpr h)

theorem not_isCommand_of_mem_inertChar {c d : Char} (h : d ∈ inertChar c) :
    isCommand d = false := by
  have all : ['\\', 'x', 'u', '{', '}'].all (!isCommand ·) = true := by decide
  have marks : ∀ mark ∈ ['\\', 'x', 'u', '{', '}'], isCommand mark = false := fun mark mem =>
    Bool.not_eq_true' _ ▸ List.all_eq_true.mp all mark mem
  have low := isCommand_digitChar (Nat.mod_lt c.toNat (by decide : 16 > 0))
  unfold inertChar at h
  split at h
  · next plain =>
    rw [List.mem_singleton.mp h]
    simpa using plain
  · next command =>
    have high : isCommand (Nat.digitChar (c.toNat / 16)) = false := by
      have := toNat_le_of_isCommand (by simpa using command)
      exact isCommand_digitChar (by omega)
    split at h <;> grind

theorem not_isCommand_of_mem_inert {c : Char} {text : List Char} (h : c ∈ inert text) :
    isCommand c = false := by
  obtain ⟨_, -, h⟩ := List.mem_flatMap.mp h
  exact not_isCommand_of_mem_inertChar h

end Polycore.Text
