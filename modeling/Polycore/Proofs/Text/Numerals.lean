import Mathlib.Data.Nat.Digits.Defs
import Polycore.Text.Numeral

/-!
# Numerals

A numeral stands for a number by the positions of its digits (`Digits`), and one with a sign or
without for an integer (`Signed`). Exactly these texts are read, as what they stand for
(`natural?_eq_some_iff`, `signed?_eq_some_iff`). The numeral that is written for a number is the one
without leading zeros (`write_ne_zero_cons`).
-/

namespace Polycore.Numeral

variable {text : List Char} {n : Nat} {i : Int}

/-! ## What is read -/

/-- The text is a numeral for a number: ASCII digits, with or without leading zeros. -/
structure Digits (text : List Char) (n : Nat) : Prop where
  ne_nil : text ≠ []
  digits : ∀ c ∈ text, '0' ≤ c ∧ c ≤ '9'
  value : Nat.ofDigits 10 (text.reverse.map digit) = n

/-- The text is a numeral for an integer: digits with one sign in front of them or none. -/
inductive Signed : List Char → Int → Prop
  | bare {text : List Char} {n : Nat} : Digits text n → Signed text n
  | plus {text : List Char} {n : Nat} : Digits text n → Signed ('+' :: text) n
  | minus {text : List Char} {n : Nat} : Digits text n → Signed ('-' :: text) (-n)

theorem value_eq_ofDigits (text : List Char) :
    value text = Nat.ofDigits 10 (text.reverse.map digit) := by
  rw [value, Nat.ofDigits_eq_foldr, List.foldr_map, List.foldr_reverse]
  simp only [Nat.cast_id, Nat.add_comm]

theorem isDigit_iff (c : Char) : c.isDigit = true ↔ '0' ≤ c ∧ c ≤ '9' := by
  simp [Char.isDigit, Char.le_def]

theorem natural?_eq_some_iff : natural? text = some n ↔ Digits text n := by
  simp only [natural?, value_eq_ofDigits]
  constructor
  · intro h
    split at h
    · next numeral =>
      simp only [Bool.and_eq_true, List.all_eq_true, isDigit_iff] at numeral
      exact ⟨by simpa using numeral.1, numeral.2, Option.some.inj h⟩
    · cases h
  · rintro ⟨nonempty, digits, rfl⟩
    refine if_pos ?_
    simp only [Bool.and_eq_true, List.all_eq_true, isDigit_iff]
    exact ⟨by simpa using nonempty, digits⟩

theorem signed?_of_digits (h : Digits text n) : signed? text = some (n : Int) := by
  have read : (natural? text).map Int.ofNat = some (n : Int) := by
    rw [natural?_eq_some_iff.mpr h]
    rfl
  unfold signed?
  split
  · exact absurd (h.digits '+' List.mem_cons_self) (by decide)
  · exact absurd (h.digits '-' List.mem_cons_self) (by decide)
  · exact read

theorem signed?_eq_some_iff : signed? text = some i ↔ Signed text i := by
  constructor
  · intro h
    unfold signed? at h
    split at h <;> obtain ⟨n, read, rfl⟩ := Option.map_eq_some_iff.mp h
    · exact .plus (natural?_eq_some_iff.mp read)
    · exact .minus (natural?_eq_some_iff.mp read)
    · exact .bare (natural?_eq_some_iff.mp read)
  · rintro (digits | digits | digits)
    · exact signed?_of_digits digits
    · rw [signed?, natural?_eq_some_iff.mpr digits]
      rfl
    · rw [signed?, natural?_eq_some_iff.mpr digits]
      rfl

theorem Digits.lt_of_mem (h : Digits text n) : ∀ c ∈ text, c.toNat < 65 := by
  intro c mem
  have below : c.toNat ≤ '9'.toNat := UInt32.le_iff_toNat_le.mp (h.digits c mem).2
  exact Nat.lt_of_le_of_lt below (by decide)

/-- The characters of a numeral come before the letters of ASCII. -/
theorem Signed.lt_of_mem (h : Signed text i) : ∀ c ∈ text, c.toNat < 65 := by
  cases h with
  | bare digits => exact digits.lt_of_mem
  | plus digits => exact List.forall_mem_cons.mpr ⟨by decide, digits.lt_of_mem⟩
  | minus digits => exact List.forall_mem_cons.mpr ⟨by decide, digits.lt_of_mem⟩

/-! ## Written numerals -/

/-- A numeral has no leading zero before other digits. -/
theorem write_ne_zero_cons (n : Nat) (c : Char) (rest : List Char) :
    write n ≠ '0' :: c :: rest := by
  induction n using Nat.strongRecOn generalizing c rest with
  | ind n ih =>
    intro h
    rw [write, Nat.toDigits_eq_if (by decide)] at h
    split at h
    · cases (List.cons.inj h).2
    · next large =>
      have smaller : n / 10 < n := by omega
      cases digits : write (n / 10) with
      | nil => exact write_ne_nil _ digits
      | cons first others =>
        rw [write] at digits
        rw [digits, List.cons_append, List.cons.injEq] at h
        cases others with
        | nil =>
          have zero : Nat.toDigits 10 (n / 10) = Nat.toDigits 10 0 := digits.trans (h.1 ▸ rfl)
          have := congrArg (Nat.ofDigitChars 10 · 0) zero
          simp only [Nat.ofDigitChars_ten_toDigits] at this
          omega
        | cons second others => exact ih _ smaller second others (h.1 ▸ digits)

theorem value_write (n : Nat) : value (write n) = n := by
  refine Eq.trans ?_ (Nat.ofDigitChars_ten_toDigits (n := n))
  rw [Nat.ofDigitChars_eq_foldl]
  rfl

theorem ofList_writeInt (i : Int) : String.ofList (writeInt i) = toString i := by
  cases i with
  | ofNat n => exact Nat.repr_eq_ofList_toDigits.symm
  | negSucc n =>
    change String.ofList (['-'] ++ write (n + 1)) = "-" ++ Nat.repr (n + 1)
    rw [String.ofList_append, Nat.repr_eq_ofList_toDigits]
    rfl

end Polycore.Numeral
