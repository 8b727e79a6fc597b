import Mathlib.Data.List.Nodup

/-!
# Looking up

What is found under a key in a list of entries: the last lemmas are for lists in which no key comes
twice.
-/

namespace Polycore

variable {α β : Type} [BEq α] [LawfulBEq α] {entries : List (α × β)} {key : α}

theorem mem_of_lookup {value : β} (h : entries.lookup key = some value) :
    (key, value) ∈ entries := by
  obtain ⟨before, after, rfl, -⟩ := List.lookup_eq_some_iff.mp h
  simp

theorem lookup_eq_none_of_not_mem (h : key ∉ entries.map (·.1)) : entries.lookup key = none := by
  refine List.lookup_eq_none_iff.mpr fun entry mem => bne_iff_ne.mpr ?_
  rintro rfl
  exact h (List.mem_map_of_mem mem)

/-- A change of values, each by its key, does not change what is under which key. -/
theorem lookup_map_snd {γ : Type} (entries : List (α × β)) (f : α → β → γ) (key : α) :
    (entries.map fun entry => (entry.1, f entry.1 entry.2)).lookup key =
      (entries.lookup key).map (f key) := by
  induction entries with
  | nil => rfl
  | cons entry rest ih =>
    obtain ⟨other, value⟩ := entry
    by_cases same : key = other
    · simp [same]
    · simpa [List.lookup_cons, beq_false_of_ne same] using ih

theorem lookup_of_mem (distinct : (entries.map (·.1)).Nodup) {entry : α × β}
    (mem : entry ∈ entries) : entries.lookup entry.1 = some entry.2 := by
  obtain ⟨before, after, rfl⟩ := List.append_of_mem mem
  rw [List.map_append, List.map_cons] at distinct
  have apart := (List.nodup_append'.mp distinct).2.2
  refine List.lookup_eq_some_iff.mpr ⟨before, after, rfl, fun other hother => bne_iff_ne.mpr ?_⟩
  intro same
  exact apart (List.mem_map_of_mem hother) (same ▸ List.mem_cons_self)

end Polycore
