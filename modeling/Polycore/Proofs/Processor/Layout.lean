import Polycore.Proofs.Processor.CoreTypes
import Polycore.Proofs.Processor.Partners

/-!
# The layout of core types

Core types are laid out one after the other: a slot belongs to the core type in whose share of the
numbering it falls (`PairProcessor.Fills`), and the numbers of the models follow the slots, those of
the start side first. So the two models of a slot are always as far apart as there are slots, and a
toggle swaps just them. The main statement is `PairProcessor.lays_out_core_types`.
-/

namespace Polycore

namespace PairProcessor

variable {types : List CoreType} {type : CoreType} {slot : Nat} {isa : Isa}
  {pairs : List (CoreHandle × CoreHandle)} {first : PairProcessor}

/-! ## Whose slot it is -/

/-- The slots are numbered through all core types, and this one is among those of `type`. -/
def Fills (types : List CoreType) (slot : Nat) (type : CoreType) : Prop :=
  ∃ before after, types = before ++ type :: after ∧ (before.map (·.count)).sum ≤ slot ∧
    slot < (before.map (·.count)).sum + type.count

theorem expand_append (front back : List CoreType) :
    expand (front ++ back) = expand front ++ expand back :=
  List.flatMap_append

theorem expand_cons (type : CoreType) (rest : List CoreType) :
    expand (type :: rest) =
      List.replicate type.count (type.start, type.switch) ++ expand rest :=
  List.flatMap_cons

theorem getElem?_expand (h : Fills types slot type) :
    (expand types)[slot]? = some (type.start, type.switch) := by
  obtain ⟨before, after, rfl, low, high⟩ := h
  rw [← length_expand] at low high
  rw [expand_append, expand_cons, List.getElem?_append_right low,
    List.getElem?_append_left (by rw [List.length_replicate]; omega)]
  exact List.getElem?_replicate_of_lt (by omega)

/-- Every slot up to the number of cores belongs to a core type, and no other does. -/
theorem exists_fills_iff : (∃ type, Fills types slot type) ↔ slot < (types.map (·.count)).sum := by
  constructor
  · rintro ⟨type, before, after, rfl, -, high⟩
    simp only [List.map_append, List.map_cons, List.sum_append, List.sum_cons]
    omega
  · intro below
    induction types generalizing slot with
    | nil => simp at below
    | cons first rest ih =>
      rw [List.map_cons, List.sum_cons] at below
      rcases Nat.lt_or_ge slot first.count with inside | past
      · exact ⟨first, [], rest, rfl, by simp, by simpa using inside⟩
      · obtain ⟨type, before, after, rfl, low, high⟩ := @ih (slot - first.count) (by omega)
        refine ⟨type, first :: before, after, rfl, ?_, ?_⟩
        · rw [List.map_cons, List.sum_cons]
          omega
        · rw [List.map_cons, List.sum_cons]
          omega

theorem getElem?_sides (h : Fills types slot type) :
    ((expand types).map (·.1))[slot]? = some type.start ∧
      ((expand types).map (·.2))[slot]? = some type.switch := by
  rw [List.getElem?_map, List.getElem?_map, getElem?_expand h]
  exact ⟨rfl, rfl⟩

/-- The objects of the two models of a slot are as far apart as there are slots. -/
theorem getElem?_objects (h : Fills types slot type) :
    let gained := ((expand types).map (·.1) ++ (expand types).map (·.2)).map CoreObject.create
    gained[slot]? = some (.create type.start) ∧
      gained[(types.map (·.count)).sum + slot]? = some (.create type.switch) := by
  obtain ⟨first, second⟩ := getElem?_sides h
  have below := exists_fills_iff.mp ⟨type, h⟩
  have starts : ((expand types).map (·.1)).length = (types.map (·.count)).sum := by
    rw [List.length_map, length_expand]
  refine ⟨?_, ?_⟩
  · rw [List.getElem?_map, List.getElem?_append_left (starts ▸ below), first, Option.map_some]
  · rw [List.getElem?_map, ← starts, List.getElem?_append_right (Nat.le_add_right _ _),
      Nat.add_sub_cancel_left, second, Option.map_some]

theorem getElem?_handles {descriptors : List CoreModel} {place : Nat} {descriptor : CoreModel}
    (slot model : Nat) (h : descriptors[place]? = some descriptor) :
    (handles isa slot model descriptors)[place]? =
      some (.create (slot + place) isa ⟨model + place⟩ descriptor) := by
  induction descriptors generalizing slot model place with
  | nil => simp at h
  | cons first rest ih =>
    cases place with
    | zero =>
      cases h
      rfl
    | succ place =>
      rw [handles, List.getElem?_cons_succ, ih (slot + 1) (model + 1) h]
      simp only [Nat.add_assoc, Nat.add_comm 1]

/-! ## Toggles -/

/-- What a pair asks of a board when it toggles is settled when it is made. -/
theorem exists_toggle_after {σ : Type} [Board σ] (made : ofPairs pairs = .ok first)
    (calls : List (Machine.Call × σ)) (watched : Watched σ) :
    ∃ last, (Machine.pair first).after calls = .pair last ∧
      let swapped := ((first.coresOn last.onStart).map (·.model)).zip
        ((first.coresOn (!last.onStart)).map (·.model))
      (last.processor.isIncorporated = false →
        last.toggle watched = (.error .notIncorporated, last, watched)) ∧
      (last.processor.isIncorporated = true →
        (last.toggle watched).1 = (Board.swap swapped watched.board).1.mapError .board ∧
        (last.toggle watched).2.2 =
          { board := (Board.swap swapped watched.board).2
            asked := watched.asked ++ [.swap swapped] }) := by
  obtain ⟨start, switch, hstart, hswitch, -, -⟩ := exists_of_ofPairs made
  have intact := (Machine.MadeOf.pair hstart hswitch made).intact.1
  obtain ⟨last, same⟩ := Machine.exists_pair_after first calls
  have kept : Machine.Intact [start, switch] (.pair last) := same ▸ intact.after calls
  have sided := kept.sided last rfl
  have outline : last.processor.outline = first.processor.outline :=
    kept.supplied.trans intact.supplied.symm
  have models (onStart : Bool) := map_coresOn_of_outline (·.model) (fun _ => rfl) outline onStart
  refine ⟨last, same, fun alone => ?_, fun joined => ?_⟩
  · have refused : last.processor.switchError? last.otherSide = some .notIncorporated := by
      rw [sided.switchError?_otherSide kept.wf, alone]
      rfl
    rw [toggle, Processor.switchTo_of_switchError? refused]
  · exact sided.toggle_watched kept.wf joined (by rw [models, models]) watched

/-- The models of both sides of a slot, for models that are numbered from `model`. -/
def numbered (model count : Nat) (onStart : Bool) : List (ModelId × ModelId) :=
  (List.range count).map fun slot =>
    if onStart then (⟨model + slot⟩, ⟨model + count + slot⟩)
    else (⟨model + count + slot⟩, ⟨model + slot⟩)

theorem zip_models_numbered (model count : Nat) (onStart : Bool) {start switch : List ModelId}
    (starts : start = (List.range' model count).map ModelId.mk)
    (switches : switch = (List.range' (model + count) count).map ModelId.mk) :
    (if onStart then start else switch).zip (if onStart then switch else start) =
      numbered model count onStart := by
  rw [starts, switches, List.range'_eq_map_range, List.range'_eq_map_range, List.map_map,
    List.map_map, numbered]
  cases onStart with
  | true => exact List.zip_map'
  | false => exact List.zip_map'

/-! ## The layout -/

/-- Core types without cores in one of them, or none at all, make no pair and no models. Any others
make one: in each slot the start side has the next model that was free, and the switch side the
model as many further on as there are slots, each with the descriptor of the core type that the slot
belongs to. Those are the objects that the kernel gains, all idle and on the shared timeline. On any
board, whatever the pair was called for before, a toggle swaps the two models of every slot. -/
theorem lays_out_core_types (types : List CoreType) (isa : Isa) (kernel : Kernel) :
    let next := kernel.objects.length
    let count := (types.map (·.count)).sum
    let outcome := ofCoreTypes Experiment.instantiate types isa kernel
    ((∃ type ∈ types, type.count = 0) → outcome = (.error .invalidCoreCount, kernel)) ∧
    (types = [] → outcome = (.error (.emptyConfiguration startName), kernel)) ∧
    (types ≠ [] → (∀ type ∈ types, 0 < type.count) → ∃ pair gained,
      outcome = (.ok pair, { kernel with objects := kernel.objects ++ gained }) ∧
      gained.length = 2 * count ∧ (∀ onStart, (pair.coresOn onStart).length = count) ∧
      (∀ object ∈ gained, object.isRunning = false ∧ object.timeline = .shared ∧
        ∀ component ∈ object.components, component.timeline = .shared) ∧
      (∀ slot, (∃ type, Fills types slot type) ↔ slot < count) ∧
      (∀ slot type, Fills types slot type →
        gained[slot]? = some (.create type.start) ∧
        gained[count + slot]? = some (.create type.switch) ∧
        (pair.coresOn true)[slot]? = some
          { slot, isa
            model := ⟨next + slot⟩
            descriptor := type.start
            accelerated := type.start.isAccelerated
            switchedOut := false
            name := type.start.name ++ toString slot } ∧
        (pair.coresOn false)[slot]? = some
          { slot, isa
            model := ⟨next + count + slot⟩
            descriptor := type.switch
            accelerated := type.switch.isAccelerated
            switchedOut := true
            name := type.switch.name ++ toString slot }) ∧
      ∀ (σ : Type) [Board σ] (calls : List (Machine.Call × σ)) (board : σ)
        (asked : List Board.Request),
        ∃ last, (Machine.pair pair).after calls = .pair last ∧
          let watched : Watched σ := { board, asked }
          let swapped := numbered next count last.onStart
          (last.processor.isIncorporated = false →
            last.toggle watched = (.error .notIncorporated, last, watched)) ∧
          (last.processor.isIncorporated = true →
            (last.toggle watched).1 = (Board.swap swapped board).1.mapError .board ∧
            (last.toggle watched).2.2 =
              { board := (Board.swap swapped board).2, asked := asked ++ [.swap swapped] })) := by
  intro next count outcome
  refine ⟨?_, ?_, fun nonempty counts => ?_⟩
  · rintro ⟨type, mem, zero⟩
    have refused : types.any (·.count == 0) = true :=
      List.any_eq_true.mpr ⟨type, mem, beq_iff_eq.mpr zero⟩
    exact if_pos refused
  · rintro rfl
    rfl
  · obtain ⟨pair, pairs, made, -, start, switch, granted⟩ :=
      exists_ofCoreTypes nonempty counts isa kernel
    have size : (expand types).length = count := length_expand types
    have starts : (pair.coresOn true).map (·.model) = (List.range' next count).map ModelId.mk := by
      rw [start, models_handles, List.length_map, size]
    have switches :
        (pair.coresOn false).map (·.model) = (List.range' (next + count) count).map ModelId.mk := by
      rw [switch, List.map_map, ← size, ← List.length_map (Prod.snd : CoreModel × CoreModel → _)]
      exact models_handles ..
    refine ⟨pair, _, granted, ?_, ?_, ?_, fun slot => exists_fills_iff, ?_, ?_⟩
    · rw [List.length_map, List.length_append, List.length_map, List.length_map, size, Nat.two_mul]
    · intro onStart
      cases onStart with
      | true => simpa using congrArg List.length starts
      | false => simpa using congrArg List.length switches
    · intro object mem
      obtain ⟨descriptor, -, rfl⟩ := List.mem_map.mp mem
      exact ⟨rfl, rfl, by simp [CoreObject.create]⟩
    · intro slot type fills
      obtain ⟨first, second⟩ := getElem?_sides fills
      obtain ⟨object, object'⟩ := getElem?_objects fills
      refine ⟨object, object', ?_, ?_⟩
      · rw [start, getElem?_handles _ _ first, Nat.zero_add]
        rfl
      · rw [switch, List.getElem?_map, getElem?_handles _ _ second, Nat.zero_add, size]
        rfl
    · intro σ _ calls board asked
      obtain ⟨last, same, alone, joined⟩ :=
        exists_toggle_after made calls (⟨board, asked⟩ : Watched σ)
      have swapped := zip_models_numbered next count last.onStart starts switches
      refine ⟨last, same, alone, ?_⟩
      rw [← swapped]
      cases onStart : last.onStart with
      | true => rwa [onStart] at joined
      | false => rwa [onStart] at joined

end PairProcessor

end Polycore
