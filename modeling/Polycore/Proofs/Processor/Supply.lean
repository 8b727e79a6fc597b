import Polycore.Proofs.Processor.CoreTypes

/-!
# The order of supply

The pairs of a pair processor may be supplied in any order: the processor is the same, or the same
error refuses them, since each side is sorted by slot. The one thing that remembers the order is the
memory mode, which is that of the start core in the pair that comes first, whatever its slot. So the
order is immaterial exactly if all start cores need one mode. The main statement is
`supplied_in_any_order`.
-/

namespace Polycore.PairProcessor

variable {pairs other : List (CoreHandle × CoreHandle)} {pair : PairProcessor} {σ : Type} [Board σ]

/-- The processor inside a pair processor. -/
def assemble (pairs : List (CoreHandle × CoreHandle)) : Except ProcessorError Processor := do
  let start ← Configuration.ofCores startName (pairs.map (·.1))
  let switch ← Configuration.ofCores switchName (pairs.map (·.2))
  Processor.create [start, switch] startName

/-- The memory mode that the first start core needs. -/
def leadingMode? (pairs : List (CoreHandle × CoreHandle)) : Option MemMode :=
  pairs.head?.map (·.1.descriptor.memMode)

theorem assemble_perm (perm : other.Perm pairs) : assemble other = assemble pairs := by
  rw [assemble, Configuration.ofCores_perm _ (perm.map (·.1)),
    Configuration.ofCores_perm _ (perm.map (·.2)), assemble]

theorem ofPairs_cons (first : CoreHandle × CoreHandle) (rest : List (CoreHandle × CoreHandle)) :
    ofPairs (first :: rest) =
      (assemble (first :: rest)).map fun processor =>
        { processor, onStart := true, memMode := first.1.descriptor.memMode } := by
  rw [ofPairs, assemble]
  cases Configuration.ofCores startName ((first :: rest).map (·.1)) with
  | error => rfl
  | ok start =>
    cases Configuration.ofCores switchName ((first :: rest).map (·.2)) with
    | error => rfl
    | ok switch =>
      simp only [bind, Except.bind]
      cases Processor.create [start, switch] startName with
      | error => rfl
      | ok => rfl

theorem assemble_nil : assemble [] = .error (.emptyConfiguration startName) := by
  have refused : Configuration.ofCores startName [] = .error (.emptyConfiguration startName) :=
    dif_pos rfl
  rw [assemble, List.map_nil, refused]
  rfl

theorem ofPairs_eq_error_iff {error : ProcessorError} :
    ofPairs pairs = .error error ↔ assemble pairs = .error error := by
  cases pairs with
  | nil => simp [assemble_nil, ofPairs]
  | cons first rest =>
    rw [ofPairs_cons]
    cases assemble (first :: rest) with
    | error => simp [Except.map]
    | ok => simp [Except.map]

theorem ofPairs_eq_ok_iff :
    ofPairs pairs = .ok pair ↔ assemble pairs = .ok pair.processor ∧ pair.onStart = true ∧
      leadingMode? pairs = some pair.memMode := by
  cases pairs with
  | nil => exact iff_of_false nofun nofun
  | cons first rest =>
    rw [ofPairs_cons]
    cases assemble (first :: rest) with
    | error => simp [Except.map]
    | ok processor =>
      obtain ⟨inner, onStart, memMode⟩ := pair
      simp [Except.map, leadingMode?, eq_comm]

/-- Only the mode that the board is asked for depends on the memory mode of a pair. -/
theorem exists_incorporate_eq (pair : PairProcessor) (board : σ) :
    ∃ (answer : Except ProcessorError Unit) (inner : Processor) (bound : σ), ∀ memMode,
      let asking : PairProcessor := { pair with memMode }
      asking.incorporate board =
        if answer.isOk then
          (answer, { asking with processor := inner, memMode := asking.requestedMode bound },
            Board.setMemMode (asking.requestedMode bound) bound)
        else (answer, { asking with processor := inner }, bound) := by
  rcases joined : pair.processor.incorporate board with ⟨answer, inner, bound⟩
  refine ⟨answer, inner, bound, fun memMode => ?_⟩
  simp only [incorporate, joined]
  cases answer with
  | error => rfl
  | ok => rfl

/-- Pairs may be supplied in any order, but for the memory mode. -/
theorem ofPairs_perm (perm : other.Perm pairs) (made : ofPairs pairs = .ok pair) :
    ∃ memMode, leadingMode? other = some memMode ∧ ofPairs other = .ok { pair with memMode } := by
  obtain ⟨assembled, onStart, -⟩ := ofPairs_eq_ok_iff.mp made
  cases other with
  | nil =>
    rw [perm.symm.eq_nil] at made
    cases made
  | cons first rest =>
    exact ⟨first.1.descriptor.memMode, rfl,
      ofPairs_eq_ok_iff.mpr ⟨(assemble_perm perm).trans assembled, onStart, rfl⟩⟩

/-- Whatever pairs are supplied, any other order of them is refused with the same error, or makes
the same processor, on the same side. The pair that is supplied first decides the memory mode, so
that all orders make the same pair processor exactly if all start cores need the same mode. On any
board an incorporation has one answer and binds the same timelines whatever the memory mode is;
after that the board is asked for this mode. -/
theorem supplied_in_any_order (pairs : List (CoreHandle × CoreHandle)) :
    (∀ other, other.Perm pairs → ∀ error,
      ofPairs other = .error error ↔ ofPairs pairs = .error error) ∧
    ∀ pair, ofPairs pairs = .ok pair →
      leadingMode? pairs = some pair.memMode ∧
      (∀ other, other.Perm pairs → ∃ memMode, leadingMode? other = some memMode ∧
        ofPairs other = .ok { pair with memMode }) ∧
      ((∀ other, other.Perm pairs → ofPairs other = .ok pair) ↔
        ∀ cores ∈ pairs, cores.1.descriptor.memMode = pair.memMode) ∧
      ∀ (σ : Type) [Board σ] (board : σ),
        ∃ (answer : Except ProcessorError Unit) (inner : Processor) (bound : σ), ∀ memMode,
          let asking : PairProcessor := { pair with memMode }
          asking.incorporate board =
            if answer.isOk then
              (answer, { asking with processor := inner, memMode := asking.requestedMode bound },
                Board.setMemMode (asking.requestedMode bound) bound)
            else (answer, { asking with processor := inner }, bound) := by
  refine ⟨fun other perm error => ?_, fun pair made => ?_⟩
  · rw [ofPairs_eq_error_iff, assemble_perm perm, ofPairs_eq_error_iff]
  refine ⟨(ofPairs_eq_ok_iff.mp made).2.2, fun other perm => ofPairs_perm perm made, ?_,
    fun σ _ board => exists_incorporate_eq pair board⟩
  constructor
  · intro same cores mem
    obtain ⟨before, after, rfl⟩ := List.append_of_mem mem
    have sooner := same (cores :: (before ++ after)) List.perm_middle.symm
    exact Option.some.inj (ofPairs_eq_ok_iff.mp sooner).2.2
  · intro uniform other perm
    obtain ⟨memMode, leading, granted⟩ := ofPairs_perm perm made
    obtain ⟨cores, first, rfl⟩ := Option.map_eq_some_iff.mp leading
    rw [granted, uniform cores (perm.subset (List.mem_of_head? first))]

/-- Two slots that start on different kinds of models, supplied in either order: the processors
differ in their memory mode alone. -/
theorem supplied_in_any_order_mixed :
    let accelerated : CoreHandle × CoreHandle :=
      (.create 0 .x86 ⟨0⟩ .bigKvm, .create 0 .x86 ⟨2⟩ .dummy)
    let detailed : CoreHandle × CoreHandle :=
      (.create 1 .x86 ⟨1⟩ .bigO3, .create 1 .x86 ⟨3⟩ .dummy)
    ∃ pair, ofPairs [accelerated, detailed] = .ok pair ∧ pair.memMode = .atomicNoncaching ∧
      ofPairs [detailed, accelerated] = .ok { pair with memMode := .timing } ∧
      ¬ ∀ other, other.Perm [accelerated, detailed] → ofPairs other = .ok pair := by
  intro accelerated detailed
  let start := [accelerated.1, detailed.1]
  let switch := [accelerated.2, detailed.2]
  have slots : start.map (·.slot) = switch.map (·.slot) := rfl
  have ascending : start.Pairwise fun a b => a.slot < b.slot := by decide
  have uniform : ∀ core ∈ start ++ switch, core.isa = .x86 := by decide
  have models : ((start ++ switch).map (·.model)).Nodup := by decide
  obtain ⟨pair, made, -⟩ :=
    exists_ofPairs (List.cons_ne_nil _ _) slots ascending uniform models
  obtain ⟨leading, reordered, same, -⟩ :=
    (supplied_in_any_order [accelerated, detailed]).2 pair made
  have mode : pair.memMode = .atomicNoncaching := (Option.some.inj leading).symm
  obtain ⟨memMode, first, granted⟩ := reordered [detailed, accelerated] (.swap ..)
  obtain rfl : .timing = memMode := Option.some.inj first
  refine ⟨pair, made, mode, granted, fun unchanged => ?_⟩
  have needed := same.mp unchanged detailed (by simp)
  cases needed.trans mode

end Polycore.PairProcessor
