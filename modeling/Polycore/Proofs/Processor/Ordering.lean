import Mathlib.Data.List.Duplicate
import Mathlib.Data.List.Pairwise
import Mathlib.Order.Bounds.Basic
import Polycore.Processor.Configuration

/-!
# The order of cores

A configuration puts its cores into the order of their slots, so it does not matter in which order
they are supplied: lists with the same cores make the same configuration, or are refused alike.
Sorted by slot they agree in their slots, which decide about a refusal, and in their cores if no
slot is used twice (`Configuration.ofCores_perm`). The main statement is
`Configuration.canonical_form`.
-/

namespace Polycore

variable {cores other : List CoreHandle} {name : String} {configuration : Configuration}

theorem repeatedSlot?_eq_none (h : cores.Pairwise fun a b => a.slot < b.slot) :
    repeatedSlot? cores = none := by
  induction cores with
  | nil => rfl
  | cons a rest ih =>
    obtain ⟨first, tail⟩ := List.pairwise_cons.mp h
    cases rest with
    | nil => rfl
    | cons b rest =>
      rw [repeatedSlot?, if_neg (Nat.ne_of_lt (first b List.mem_cons_self)), ih tail]

/-- In ascending order the slot that is found to repeat is the least that does. -/
theorem isLeast_repeatedSlot? {slot : Nat} (sorted : cores.Pairwise fun a b => a.slot ≤ b.slot)
    (h : repeatedSlot? cores = some slot) :
    IsLeast {slot | (cores.map (·.slot)).Duplicate slot} slot := by
  induction cores with
  | nil => cases h
  | cons a rest ih =>
    obtain ⟨first, tail⟩ := List.pairwise_cons.mp sorted
    cases rest with
    | nil => cases h
    | cons b rest =>
      rw [repeatedSlot?] at h
      split at h
      · next same =>
        cases h
        refine ⟨List.duplicate_cons_iff.mpr (.inl ⟨rfl, ?_⟩), fun other repeated => ?_⟩
        · rw [same]
          exact List.mem_cons_self
        · obtain ⟨core, mem, rfl⟩ := List.mem_map.mp repeated.mem
          exact sorted.rel_head_of_rel_head_head mem (Nat.le_refl _)
      · next distinct =>
        obtain ⟨repeated, least⟩ := ih tail h
        refine ⟨repeated.duplicate_cons _, fun other again => ?_⟩
        rcases List.duplicate_cons_iff.mp again with ⟨rfl, mem⟩ | again
        · -- the first slot comes once, for all others are at least the second one
          obtain ⟨core, mem, same⟩ := List.mem_map.mp mem
          have same : core.slot = a.slot := same
          have second : a.slot ≤ b.slot := first b List.mem_cons_self
          have later : b.slot ≤ core.slot :=
            tail.rel_head_of_rel_head_head mem (Nat.le_refl _)
          omega
        · exact least again

theorem sortBySlot_eq_self (h : cores.Pairwise fun a b => a.slot < b.slot) :
    sortBySlot cores = cores :=
  List.mergeSort_of_pairwise (h.imp fun before => by simpa using Nat.le_of_lt before)

theorem sortBySlot_perm (cores : List CoreHandle) : (sortBySlot cores).Perm cores :=
  List.mergeSort_perm cores _

theorem sortBySlot_perm_of_perm (perm : other.Perm cores) :
    (sortBySlot other).Perm (sortBySlot cores) :=
  (sortBySlot_perm other).trans (perm.trans (sortBySlot_perm cores).symm)

theorem slots_sortBySlot_of_perm (perm : other.Perm cores) :
    (sortBySlot other).map (·.slot) = (sortBySlot cores).map (·.slot) := by
  have sorted (cores : List CoreHandle) : ((sortBySlot cores).map (·.slot)).Pairwise (· ≤ ·) :=
    List.pairwise_map.mpr (pairwise_le_sortBySlot cores)
  exact ((sortBySlot_perm_of_perm perm).map _).eq_of_pairwise
    (fun _ _ _ _ => Nat.le_antisymm) (sorted other) (sorted cores)

theorem repeatedSlot?_of_slots (same : other.map (·.slot) = cores.map (·.slot)) :
    repeatedSlot? other = repeatedSlot? cores := by
  induction cores generalizing other with
  | nil => rw [List.map_eq_nil_iff.mp same]
  | cons core rest ih =>
    obtain ⟨first, later, rfl, slot, tail⟩ := List.map_eq_cons_iff.mp same
    have further := ih tail
    cases rest with
    | nil =>
      rw [List.map_eq_nil_iff.mp tail]
      rfl
    | cons core rest =>
      obtain ⟨second, later, rfl, slot', -⟩ := List.map_eq_cons_iff.mp tail
      rw [repeatedSlot?, repeatedSlot?, slot, slot', further]

/-- Without a repeated slot there is one way to sort. -/
theorem sortBySlot_of_perm (perm : other.Perm cores)
    (distinct : repeatedSlot? (sortBySlot cores) = none) :
    sortBySlot other = sortBySlot cores := by
  have ascending := pairwise_lt_of_repeatedSlot?_eq_none (pairwise_le_sortBySlot cores) distinct
  rw [← repeatedSlot?_of_slots (slots_sortBySlot_of_perm perm)] at distinct
  have ascending' := pairwise_lt_of_repeatedSlot?_eq_none (pairwise_le_sortBySlot other) distinct
  exact (sortBySlot_perm_of_perm perm).eq_of_pairwise
    (fun _ _ _ _ before after => absurd after (Nat.lt_asymm before)) ascending' ascending

namespace Configuration

theorem ofCores_of_repeated {slot : Nat} (nonempty : cores ≠ [])
    (repeated : repeatedSlot? (sortBySlot cores) = some slot) :
    ofCores name cores = .error (.duplicateSlot name slot) := by
  unfold ofCores
  rw [dif_neg nonempty]
  split
  · next found => rw [Option.some.inj (found.symm.trans repeated)]
  · next found => cases found.symm.trans repeated

theorem ofCores_of_distinct (nonempty : cores ≠ [])
    (distinct : repeatedSlot? (sortBySlot cores) = none) :
    ofCores name cores =
      .ok
        { name
          cores := sortBySlot cores
          ascending := pairwise_lt_of_repeatedSlot?_eq_none (pairwise_le_sortBySlot cores) distinct
          nonempty := fun none => nonempty (sortBySlot_eq_nil_iff.mp none) } := by
  unfold ofCores
  rw [dif_neg nonempty]
  split
  · next found => cases found.symm.trans distinct
  · rfl

theorem ofCores_eq_ok (name : String) (ascending : cores.Pairwise fun a b => a.slot < b.slot)
    (nonempty : cores ≠ []) : ofCores name cores = .ok { name, cores, ascending, nonempty } := by
  have sorted := sortBySlot_eq_self ascending
  have distinct : repeatedSlot? (sortBySlot cores) = none := by
    rw [sorted, repeatedSlot?_eq_none ascending]
  rw [ofCores_of_distinct nonempty distinct]
  exact congrArg Except.ok (Configuration.ext rfl sorted)

theorem made_of_ofCores (h : ofCores name cores = .ok configuration) :
    configuration.name = name ∧ configuration.cores = sortBySlot cores := by
  unfold ofCores at h
  split at h
  · cases h
  · split at h
    · cases h
    · cases h
      exact ⟨rfl, rfl⟩

theorem name_of_ofCores (h : ofCores name cores = .ok configuration) : configuration.name = name :=
  (made_of_ofCores h).1

theorem perm_of_ofCores (h : ofCores name cores = .ok configuration) :
    configuration.cores.Perm cores :=
  (made_of_ofCores h).2 ▸ sortBySlot_perm cores

theorem duplicate_slots_iff (perm : other.Perm cores) {slot : Nat} :
    (other.map (·.slot)).Duplicate slot ↔ (cores.map (·.slot)).Duplicate slot := by
  rw [List.duplicate_iff_two_le_count, List.duplicate_iff_two_le_count,
    (perm.map (·.slot)).count_eq]

/-- A slot that is found to repeat is the least that repeats among the cores as supplied. -/
theorem isLeast_of_repeated {slot : Nat} (repeated : repeatedSlot? (sortBySlot cores) = some slot) :
    IsLeast {slot | (cores.map (·.slot)).Duplicate slot} slot := by
  have least := isLeast_repeatedSlot? (pairwise_le_sortBySlot cores) repeated
  simpa only [duplicate_slots_iff (sortBySlot_perm cores)] using least

theorem nodup_slots_of_distinct (distinct : repeatedSlot? (sortBySlot cores) = none) :
    (cores.map (·.slot)).Nodup := by
  have ascending := pairwise_lt_of_repeatedSlot?_eq_none (pairwise_le_sortBySlot cores) distinct
  have sorted : ((sortBySlot cores).map (·.slot)).Nodup :=
    List.pairwise_map.mpr (ascending.imp Nat.ne_of_lt)
  exact ((sortBySlot_perm cores).map _).nodup_iff.mp sorted

/-- It does not matter in which order cores are supplied. -/
theorem ofCores_perm (name : String) (perm : other.Perm cores) :
    ofCores name other = ofCores name cores := by
  rcases eq_or_ne cores [] with rfl | nonempty
  · rw [perm.eq_nil]
  · have filled : other ≠ [] := by
      rintro rfl
      exact nonempty perm.symm.eq_nil
    have slots := repeatedSlot?_of_slots (slots_sortBySlot_of_perm perm)
    cases repeated : repeatedSlot? (sortBySlot cores) with
    | some slot =>
      rw [ofCores_of_repeated filled (slots.trans repeated), ofCores_of_repeated nonempty repeated]
    | none =>
      rw [ofCores_of_distinct filled (slots.trans repeated), ofCores_of_distinct nonempty repeated]
      exact congrArg Except.ok (Configuration.ext rfl (sortBySlot_of_perm perm repeated))

/-- A configuration is made of any list that has its cores. -/
theorem ofCores_eq_ok_iff : ofCores name cores = .ok configuration ↔
    configuration.name = name ∧ configuration.cores.Perm cores := by
  refine ⟨fun made => ⟨name_of_ofCores made, perm_of_ofCores made⟩, ?_⟩
  rintro ⟨rfl, perm⟩
  rw [← ofCores_perm _ perm]
  exact ofCores_eq_ok _ configuration.ascending configuration.nonempty

/-- What comes of a list of cores. -/
theorem ofCores_cases (name : String) (cores : List CoreHandle) :
    cores = [] ∧ ofCores name cores = .error (.emptyConfiguration name) ∨
      (∃ slot, IsLeast {slot | (cores.map (·.slot)).Duplicate slot} slot ∧
        ofCores name cores = .error (.duplicateSlot name slot)) ∨
      cores ≠ [] ∧ (cores.map (·.slot)).Nodup ∧
        ∃ configuration, ofCores name cores = .ok configuration := by
  rcases eq_or_ne cores [] with rfl | nonempty
  · exact .inl ⟨rfl, rfl⟩
  · cases repeated : repeatedSlot? (sortBySlot cores) with
    | some slot =>
      exact .inr (.inl ⟨slot, isLeast_of_repeated repeated, ofCores_of_repeated nonempty repeated⟩)
    | none =>
      exact .inr (.inr ⟨nonempty, nodup_slots_of_distinct repeated, _,
        ofCores_of_distinct nonempty repeated⟩)

theorem ofCores_eq_emptyConfiguration_iff :
    ofCores name cores = .error (.emptyConfiguration name) ↔ cores = [] := by
  refine ⟨fun h => ?_, fun none => ?_⟩
  · rcases ofCores_cases name cores with ⟨none, -⟩ | ⟨_, -, refused⟩ | ⟨-, -, _, made⟩
    · exact none
    · cases h.symm.trans refused
    · cases h.symm.trans made
  · rw [none]
    rfl

theorem ofCores_eq_duplicateSlot_iff {slot : Nat} :
    ofCores name cores = .error (.duplicateSlot name slot) ↔
      IsLeast {slot | (cores.map (·.slot)).Duplicate slot} slot := by
  refine ⟨fun h => ?_, fun least => ?_⟩
  · rcases ofCores_cases name cores with ⟨-, refused⟩ | ⟨_, least, refused⟩ | ⟨-, -, _, made⟩
    · cases h.symm.trans refused
    · cases h.symm.trans refused
      exact least
    · cases h.symm.trans made
  · rcases ofCores_cases name cores with ⟨rfl, -⟩ | ⟨_, least', refused⟩ | ⟨-, distinct, -⟩
    · exact (List.not_duplicate_nil _ least.1).elim
    · rw [refused, least.unique least']
    · exact absurd distinct least.1.not_nodup

theorem exists_duplicateSlot_iff :
    (∃ slot, ofCores name cores = .error (.duplicateSlot name slot)) ↔
      ¬ (cores.map (·.slot)).Nodup := by
  refine ⟨fun ⟨_, h⟩ => (ofCores_eq_duplicateSlot_iff.mp h).1.not_nodup, fun repeated => ?_⟩
  rcases ofCores_cases name cores with ⟨rfl, -⟩ | ⟨slot, -, refused⟩ | ⟨-, distinct, -⟩
  · exact absurd .nil repeated
  · exact ⟨slot, refused⟩
  · exact absurd distinct repeated

theorem exists_ofCores_iff :
    (∃ configuration, ofCores name cores = .ok configuration) ↔
      cores ≠ [] ∧ (cores.map (·.slot)).Nodup := by
  refine ⟨fun ⟨configuration, h⟩ => ?_, fun ⟨nonempty, distinct⟩ => ?_⟩
  · rcases ofCores_cases name cores with ⟨-, refused⟩ | ⟨_, -, refused⟩ | ⟨nonempty, distinct, -⟩
    · cases h.symm.trans refused
    · cases h.symm.trans refused
    · exact ⟨nonempty, distinct⟩
  · rcases ofCores_cases name cores with ⟨none, -⟩ | ⟨_, least, -⟩ | ⟨-, -, made⟩
    · exact absurd none nonempty
    · exact absurd distinct least.1.not_nodup
    · exact made

/-- A list of cores is refused if it is empty, and else if some slot comes twice in it, of which the
error names the least. Any other list makes the one configuration that has the same cores in
strictly ascending order of their slots. It does not matter in which order the cores are
supplied. -/
theorem canonical_form (name : String) (cores : List CoreHandle) :
    let slots := cores.map (·.slot)
    (ofCores name cores = .error (.emptyConfiguration name) ↔ cores = []) ∧
    ((∃ slot, ofCores name cores = .error (.duplicateSlot name slot)) ↔ ¬ slots.Nodup) ∧
    (∀ slot, ofCores name cores = .error (.duplicateSlot name slot) ↔
      IsLeast {slot | slots.Duplicate slot} slot) ∧
    ((∃ configuration, ofCores name cores = .ok configuration) ↔ cores ≠ [] ∧ slots.Nodup) ∧
    (∀ configuration, ofCores name cores = .ok configuration ↔
      configuration.name = name ∧ configuration.cores.Perm cores ∧
        configuration.cores.Pairwise fun a b => a.slot < b.slot) ∧
    ∀ other, other.Perm cores → ofCores name other = ofCores name cores := by
  intro slots
  refine ⟨ofCores_eq_emptyConfiguration_iff, exists_duplicateSlot_iff,
    fun slot => ofCores_eq_duplicateSlot_iff, exists_ofCores_iff, fun configuration => ?_,
    fun other => ofCores_perm name⟩
  rw [ofCores_eq_ok_iff, and_iff_left configuration.ascending]

end Configuration

end Polycore
