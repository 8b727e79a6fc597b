import Polycore.Core.Handle
import Polycore.Processor.Error

/-!
# Configurations

A configuration gives every logical slot a core. Its cores stand in the order of their slots, which
is the order in which the machine is wired; `Configuration.ofCores` brings any list of cores with
distinct slots into that order.
-/

namespace Polycore

/-- A named, non-empty list of cores in strictly ascending order of their slots. -/
structure Configuration where
  name : String
  cores : List CoreHandle
  ascending : cores.Pairwise fun a b => a.slot < b.slot
  nonempty : cores ≠ []

/-- The first slot that a list of cores in ascending order of slots uses twice. -/
def repeatedSlot? : List CoreHandle → Option Nat
  | a :: b :: rest => if a.slot = b.slot then some a.slot else repeatedSlot? (b :: rest)
  | _ => none

/-- The cores in ascending order of their slots; cores of one slot keep their order. -/
def sortBySlot (cores : List CoreHandle) : List CoreHandle :=
  cores.mergeSort fun a b => a.slot ≤ b.slot

theorem pairwise_le_sortBySlot (cores : List CoreHandle) :
    (sortBySlot cores).Pairwise fun a b => a.slot ≤ b.slot := by
  have h : (sortBySlot cores).Pairwise fun a b => decide (a.slot ≤ b.slot) = true :=
    List.pairwise_mergeSort (fun a b c => by simp only [decide_eq_true_eq]; omega)
      (fun a b => by simp only [Bool.or_eq_true, decide_eq_true_eq]; omega) cores
  simpa using h

theorem sortBySlot_eq_nil_iff {cores : List CoreHandle} : sortBySlot cores = [] ↔ cores = [] := by
  rw [← List.length_eq_zero_iff, ← List.length_eq_zero_iff, sortBySlot, List.length_mergeSort]

/-- Without a repeated slot an ascending list is strictly ascending. -/
theorem pairwise_lt_of_repeatedSlot?_eq_none {cores : List CoreHandle}
    (sorted : cores.Pairwise fun a b => a.slot ≤ b.slot) (h : repeatedSlot? cores = none) :
    cores.Pairwise fun a b => a.slot < b.slot := by
  induction cores with
  | nil => exact .nil
  | cons a rest ih =>
    cases rest with
    | nil => exact List.pairwise_singleton _ _
    | cons b rest =>
      simp only [repeatedSlot?] at h
      split at h
      · cases h
      · next hab =>
        rw [List.pairwise_cons] at sorted
        have tail := ih sorted.2 h
        refine List.pairwise_cons.mpr ⟨fun c hc => ?_, tail⟩
        have hle := sorted.1 b List.mem_cons_self
        have hlt : a.slot < b.slot := by omega
        rcases List.mem_cons.mp hc with rfl | hc
        · exact hlt
        · exact Nat.lt_trans hlt ((List.pairwise_cons.mp tail).1 c hc)

namespace Configuration

/-- Brings cores into the order of their slots. Refuses an empty list and a slot used twice. -/
def ofCores (name : String) (cores : List CoreHandle) : Except ProcessorError Configuration :=
  if empty : cores = [] then .error (.emptyConfiguration name)
  else
    match repeated : repeatedSlot? (sortBySlot cores) with
    | some slot => .error (.duplicateSlot name slot)
    | none =>
      .ok
        { name
          cores := sortBySlot cores
          ascending := pairwise_lt_of_repeatedSlot?_eq_none (pairwise_le_sortBySlot cores) repeated
          nonempty := fun h => empty (sortBySlot_eq_nil_iff.mp h) }

/-- Configurations agree if their names and their cores do. -/
@[ext] theorem ext {a b : Configuration} (name : a.name = b.name) (cores : a.cores = b.cores) :
    a = b := by
  cases a; cases b; simp_all

/-- Agreement of names and cores, floats compared as numbers. -/
instance : BEq Configuration where
  beq a b := a.name == b.name && a.cores == b.cores

def slots (configuration : Configuration) : List Nat :=
  configuration.cores.map (·.slot)

def models (configuration : Configuration) : List ModelId :=
  configuration.cores.map (·.model)

def size (configuration : Configuration) : Nat :=
  configuration.cores.length

/-- Both configurations occupy the same slots. -/
def sameLayout (a b : Configuration) : Bool :=
  a.slots == b.slots

/-- The instruction set of the first core. -/
def isa (configuration : Configuration) : Isa :=
  (configuration.cores.head configuration.nonempty).isa

def setSwitchedOut (configuration : Configuration) (switchedOut : Bool) : Configuration where
  name := configuration.name
  cores := configuration.cores.map (·.setSwitchedOut switchedOut)
  ascending := List.pairwise_map.mpr configuration.ascending
  nonempty := by simpa using configuration.nonempty

@[simp] theorem name_setSwitchedOut (configuration : Configuration) (switchedOut : Bool) :
    (configuration.setSwitchedOut switchedOut).name = configuration.name := rfl

@[simp] theorem slots_setSwitchedOut (configuration : Configuration) (switchedOut : Bool) :
    (configuration.setSwitchedOut switchedOut).slots = configuration.slots := by
  simp [slots, setSwitchedOut, CoreHandle.setSwitchedOut, Function.comp_def]

@[simp] theorem models_setSwitchedOut (configuration : Configuration) (switchedOut : Bool) :
    (configuration.setSwitchedOut switchedOut).models = configuration.models := by
  simp [models, setSwitchedOut, CoreHandle.setSwitchedOut, Function.comp_def]

end Configuration

end Polycore
