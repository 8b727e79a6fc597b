import Polycore.Text.Blank
import Polycore.Text.Lower

/-!
# Letters

ASCII letters in either case are not blank (`isBlank_toLower`) and have the same lower-case form
(`lowerChar_toLower`). Lower case is also defined with both forms of sigma (`lowerBy`): the forms
matter to no text that is in ASCII once it is in lower case, for both are outside it.
-/

namespace Polycore.Text

variable {c d : Char} {text before : List Char}

/-! ## ASCII letters -/

theorem toNat_toLower (c : Char) :
    c.toLower.toNat = if 65 ≤ c.toNat ∧ c.toNat ≤ 90 then c.toNat + 32 else c.toNat := by
  have capital : (c.val ≥ 'A'.val ∧ c.val ≤ 'Z'.val) ↔ 65 ≤ c.toNat ∧ c.toNat ≤ 90 := by
    simp only [ge_iff_le, UInt32.le_iff_toNat_le]
    rfl
  unfold Char.toLower
  split
  · next h =>
    rw [if_pos (capital.mp h)]
    have small := (capital.mp h).2
    rw [Char.toNat_mk, UInt32.toNat_add]
    change (c.toNat + 32) % 2 ^ 32 = c.toNat + 32
    omega
  · next h => rw [if_neg (mt capital.mpr h)]

/-- A character before the letters of ASCII is the lower-case form of itself alone. -/
theorem eq_of_toLower_eq (low : c.toNat < 65) (h : d.toLower = c.toLower) : d = c := by
  rw [← Char.toNat_inj, toNat_toLower, toNat_toLower] at h
  rw [← Char.toNat_inj]
  split at h <;> split at h <;> omega

theorem eq_of_map_toLower_eq {other : List Char} (low : ∀ c ∈ text, c.toNat < 65)
    (h : other.map Char.toLower = text.map Char.toLower) : other = text := by
  induction text generalizing other with
  | nil => exact List.map_eq_nil_iff.mp h
  | cons c text ih =>
    cases other with
    | nil => cases h
    | cons d other =>
      obtain ⟨first, rest⟩ := List.cons.inj h
      obtain ⟨low_first, low_rest⟩ := List.forall_mem_cons.mp low
      rw [eq_of_toLower_eq low_first first, ih low_rest rest]

theorem isBlank_eq_false (visible : 0x20 < c.toNat) (ascii : c.toNat < 0x80) :
    isBlank c = false := by
  have apart : ∀ range ∈ blankRanges, range.2 ≤ 0x20 ∨ 0x80 ≤ range.1 := by decide
  refine List.any_eq_false.mpr fun range mem within => ?_
  obtain ⟨above, below⟩ : range.1 ≤ c.toNat ∧ c.toNat ≤ range.2 := by simpa using within
  have := apart range mem
  omega

theorem isBlank_toLower (c : Char) : isBlank c.toLower = isBlank c := by
  have lower := toNat_toLower c
  split at lower
  · rw [isBlank_eq_false (by omega) (by omega), isBlank_eq_false (by omega) (by omega)]
  · rw [Char.toNat_inj.mp lower]

/-! ## Lower case -/

theorem lowerChar_of_lt (ascii : c.toNat < 0x80) : lowerChar c = [c.toLower] :=
  if_pos ascii

theorem lowerChar_toLower (c : Char) : lowerChar c.toLower = lowerChar c := by
  have lower := toNat_toLower c
  split at lower
  · have twice : c.toLower.toLower = c.toLower := by
      rw [← Char.toNat_inj, toNat_toLower, if_neg (by omega)]
    rw [lowerChar_of_lt (by omega), lowerChar_of_lt (by omega), twice]
  · rw [Char.toNat_inj.mp lower]

/-! ## Sigma -/

def capitalSigma : Char :=
  Char.ofNat 0x3A3

/-- The lower-case form of sigma at the end of a word. -/
def finalSigma : Char :=
  Char.ofNat 0x3C2

/-- Lower case with both forms of sigma. Whether a capital sigma is at the end of a word is for
`ends` to say, from the text before it, read backwards, and the text after it. -/
def lowerBy (ends : List Char → List Char → Bool) : List Char → List Char → List Char
  | _, [] => []
  | before, c :: after =>
    (if c = capitalSigma ∧ ends before after then [finalSigma] else lowerChar c) ++
      lowerBy ends (c :: before) after

theorem lowerBy_of_not_mem (ends : List Char → List Char → Bool) (h : capitalSigma ∉ text) :
    lowerBy ends before text = lower text := by
  induction text generalizing before with
  | nil => rfl
  | cons c text ih =>
    have other : capitalSigma ≠ c := List.ne_of_not_mem_cons h
    have rest : capitalSigma ∉ text := List.not_mem_of_not_mem_cons h
    rw [lowerBy, if_neg fun same => other same.1.symm, ih rest, lower, lower, List.flatMap_cons]

theorem exists_mem_lowerBy (ends : List Char → List Char → Bool) (h : capitalSigma ∈ text) :
    ∃ c ∈ lowerBy ends before text, 0x80 ≤ c.toNat := by
  induction text generalizing before with
  | nil => cases h
  | cons c text ih =>
    rw [lowerBy]
    rcases List.mem_cons.mp h with rfl | h
    · split
      · exact ⟨finalSigma, by simp, by decide⟩
      · exact ⟨Char.ofNat 0x3C3, List.mem_append_left _ (by decide), by decide⟩
    · obtain ⟨d, mem, outside⟩ := ih h
      exact ⟨d, List.mem_append_right _ mem, outside⟩

/-- Without the form for the end of a word, it is the lower case of characters. -/
theorem lowerBy_false (before text : List Char) :
    lowerBy (fun _ _ => false) before text = lower text := by
  induction text generalizing before with
  | nil => rfl
  | cons c text ih =>
    rw [lowerBy, ih, if_neg (by simp), lower, lower, List.flatMap_cons]

end Polycore.Text
