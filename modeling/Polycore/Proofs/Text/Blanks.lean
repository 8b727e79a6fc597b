import Mathlib.Data.List.DropRight
import Polycore.Text.Blank

/-!
# Trimming

What is left of a text without the blanks around it is the one piece of it that has only blanks
before and after it and none at its ends (`trim_eq_iff`). Further blanks around the text make no
difference, and a change of characters that keeps blanks apart from others may come before trimming
or after it (`trim_map`).
-/

namespace Polycore.Text

variable {text bare before after : List Char}

/-- A text is a bare one with nothing but blanks around it. -/
structure Trims (text bare : List Char) : Prop where
  around : ∃ before after, text = before ++ bare ++ after ∧ ∀ c ∈ before ++ after, isBlank c = true
  head : ∀ c ∈ bare.head?, isBlank c = false
  last : ∀ c ∈ bare.getLast?, isBlank c = false

theorem rdropWhile_append_of_pos {α : Type} {p : α → Bool} {after : List α} (h : ∀ a ∈ after, p a)
    (l : List α) : (l ++ after).rdropWhile p = l.rdropWhile p := by
  rw [List.rdropWhile, List.reverse_append, List.dropWhile_append_of_pos (by simpa using h)]
  rfl

theorem trim_eq_rdropWhile (text : List Char) :
    trim text = (text.dropWhile isBlank).rdropWhile isBlank :=
  rfl

theorem trim_blank_append (h : ∀ c ∈ before, isBlank c = true) (text : List Char) :
    trim (before ++ text) = trim text := by
  rw [trim, List.dropWhile_append_of_pos h, trim]

theorem trim_append_blank (h : ∀ c ∈ after, isBlank c = true) (text : List Char) :
    trim (text ++ after) = trim text := by
  rw [trim_eq_rdropWhile, trim_eq_rdropWhile, List.dropWhile_append]
  split
  · next empty => rw [List.isEmpty_iff.mp empty, List.dropWhile_eq_nil_iff.mpr h]
  · exact rdropWhile_append_of_pos h _

theorem trims_trim (text : List Char) : Trims text (trim text) where
  around := by
    refine ⟨text.takeWhile isBlank, (text.dropWhile isBlank).rtakeWhile isBlank, ?_, ?_⟩
    · rw [trim_eq_rdropWhile, List.append_assoc, List.rdropWhile_append_rtakeWhile,
        List.takeWhile_append_dropWhile]
    · refine List.forall_mem_append.mpr ⟨fun c => List.mem_takeWhile_imp, fun c => ?_⟩
      exact List.mem_rtakeWhile_imp
  head c mem := by
    -- the first character is the one at which the blanks before the text ended
    obtain ⟨rest, bare⟩ := List.head?_eq_some_iff.mp mem
    obtain ⟨ending, whole⟩ := List.rdropWhile_prefix isBlank (text.dropWhile isBlank)
    rw [← trim_eq_rdropWhile, bare] at whole
    have first := List.head?_dropWhile_not isBlank text
    rwa [← whole] at first
  last c mem := by
    obtain ⟨nonempty, rfl⟩ := List.mem_getLast?_eq_getLast mem
    have last := List.rdropWhile_last_not isBlank (text.dropWhile isBlank) nonempty
    exact Bool.eq_false_iff.mpr last

theorem Trims.trim_bare (h : Trims text bare) : trim bare = bare := by
  have first : bare.dropWhile isBlank = bare := by
    cases bare with
    | nil => rfl
    | cons c rest => exact List.dropWhile_cons_of_neg (by simp [h.head c rfl])
  rw [trim_eq_rdropWhile, first, List.rdropWhile_eq_self_iff]
  intro nonempty
  simp [h.last _ (List.getLast?_eq_some_getLast nonempty)]

theorem trim_eq_iff : trim text = bare ↔ Trims text bare := by
  constructor
  · rintro rfl
    exact trims_trim text
  · intro h
    obtain ⟨before, after, rfl, blank⟩ := h.around
    obtain ⟨blank_before, blank_after⟩ := List.forall_mem_append.mp blank
    rw [trim_append_blank blank_after, trim_blank_append blank_before, h.trim_bare]

theorem trim_map {f : Char → Char} (h : ∀ c, isBlank (f c) = isBlank c) (text : List Char) :
    trim (text.map f) = (trim text).map f := by
  have same : isBlank ∘ f = isBlank := funext h
  simp only [trim, List.dropWhile_map, ← List.map_reverse, same]

end Polycore.Text
