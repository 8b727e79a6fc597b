import Polycore.Proofs.Processor.Supply
import Polycore.Proofs.Processor.Switching

/-!
# Partners

Each side of a pair processor is sorted by slot, so a toggle swaps the cores that fill the same
slot, in whichever pairs they were supplied (`PairProcessor.Partners`). These are the supplied pairs
exactly if the two cores of every pair fill one slot, which nothing checks. The main statement is
`PairProcessor.toggles_swap_partners`.
-/

namespace Polycore

/-- In ascending order of slots no slot comes twice. -/
theorem eq_of_slot {cores : List (CoreHandle × CoreHandle)} {one other : CoreHandle × CoreHandle}
    (ascending : cores.Pairwise fun a b => a.1.slot < b.1.slot) (mem : one ∈ cores)
    (mem' : other ∈ cores) (same : one.1.slot = other.1.slot) : one = other := by
  have distinct : (cores.map (·.1.slot)).Nodup :=
    List.pairwise_map.mpr (ascending.imp Nat.ne_of_lt)
  exact List.inj_on_of_nodup_map distinct mem mem' same

namespace PairProcessor

variable {pairs partners : List (CoreHandle × CoreHandle)} {pair first : PairProcessor}
  {start switch : Configuration}

/-! ## Who takes over from whom -/

/-- The models of some pairs of cores. -/
def modelPairs (cores : List (CoreHandle × CoreHandle)) : List (ModelId × ModelId) :=
  cores.map fun (first, second) => (first.model, second.model)

/-- The supplied cores of both sides that fill the same slot, lowest slot first. -/
structure Partners (pairs partners : List (CoreHandle × CoreHandle)) : Prop where
  mem_iff : ∀ first second, (first, second) ∈ partners ↔
    first ∈ pairs.map (·.1) ∧ second ∈ pairs.map (·.2) ∧ first.slot = second.slot
  ascending : partners.Pairwise fun a b => a.1.slot < b.1.slot

/-- Cores that are paired slot by slot are partners. -/
theorem partners_of_slotWise
    (hstart : Configuration.ofCores startName (pairs.map (·.1)) = .ok start)
    (hswitch : Configuration.ofCores switchName (pairs.map (·.2)) = .ok switch)
    (slotWise : SlotWise start switch partners) : Partners pairs partners where
  mem_iff first second := by
    rw [← (Configuration.perm_of_ofCores hstart).mem_iff,
      ← (Configuration.perm_of_ofCores hswitch).mem_iff, ← slotWise.outgoing, ← slotWise.incoming]
    constructor
    · intro mem
      exact ⟨List.mem_map_of_mem mem, List.mem_map_of_mem mem, slotWise.together _ mem⟩
    · rintro ⟨outgoing, incoming, same⟩
      obtain ⟨one, hone, rfl⟩ := List.mem_map.mp outgoing
      obtain ⟨other, hother, rfl⟩ := List.mem_map.mp incoming
      have slot : one.1.slot = other.1.slot := same.trans (slotWise.together other hother).symm
      obtain rfl := eq_of_slot slotWise.ascending hone hother slot
      exact hone
  ascending := slotWise.ascending

/-- The partners are the supplied pairs exactly if the cores of every pair fill one slot. -/
theorem Partners.modelPairs_iff (h : Partners pairs partners)
    (starts : ((pairs.map (·.1)).map (·.model)).Nodup)
    (switches : ((pairs.map (·.2)).map (·.model)).Nodup) :
    (∀ models, models ∈ modelPairs partners ↔ models ∈ modelPairs pairs) ↔
      ∀ pair ∈ pairs, pair.1.slot = pair.2.slot := by
  constructor
  · intro same pair mem
    obtain ⟨⟨first, second⟩, partner, models⟩ :=
      List.mem_map.mp ((same _).mpr (List.mem_map_of_mem mem))
    obtain ⟨outgoing, incoming, slot⟩ := (h.mem_iff first second).mp partner
    obtain ⟨left, right⟩ := Prod.mk.inj models
    obtain rfl := List.inj_on_of_nodup_map starts outgoing (List.mem_map_of_mem mem) left
    obtain rfl := List.inj_on_of_nodup_map switches incoming (List.mem_map_of_mem mem) right
    exact slot
  · intro aligned
    have supplied (pair : CoreHandle × CoreHandle) (mem : pair ∈ pairs) : pair ∈ partners :=
      (h.mem_iff pair.1 pair.2).mpr
        ⟨List.mem_map_of_mem mem, List.mem_map_of_mem mem, aligned pair mem⟩
    have all (pair : CoreHandle × CoreHandle) : pair ∈ partners ↔ pair ∈ pairs := by
      refine ⟨fun mem => ?_, supplied pair⟩
      -- the pair that supplies the start core is among the partners too, in the same slot
      obtain ⟨outgoing, -, -⟩ := (h.mem_iff pair.1 pair.2).mp mem
      obtain ⟨other, hother, same⟩ := List.mem_map.mp outgoing
      have slot : other.1.slot = pair.1.slot := congrArg _ same
      exact eq_of_slot h.ascending (supplied other hother) mem slot ▸ hother
    intro models
    simp only [modelPairs, List.mem_map, all]

/-! ## Toggles -/

/-- The sides of a pair have the models of its configurations. -/
theorem models_coresOn (startNamed : start.name = startName)
    (switchNamed : switch.name = switchName)
    (same : pair.processor.outline = [start, switch].map (·.setSwitchedOut false)) :
    (pair.coresOn true).map (·.model) = start.models ∧
      (pair.coresOn false).map (·.model) = switch.models := by
  obtain ⟨one, rest, configurations, hone, rest'⟩ := List.map_eq_cons_iff.mp same
  obtain ⟨other, _, rfl, hother, none⟩ := List.map_eq_cons_iff.mp rest'
  obtain rfl := List.map_eq_nil_iff.mp none
  have first : one.name = startName := (congrArg Configuration.name hone).trans startNamed
  have second : other.name = switchName := (congrArg Configuration.name hother).trans switchNamed
  have starts : one.models = start.models := by simpa using congrArg Configuration.models hone
  have switches : other.models = switch.models := by
    simpa using congrArg Configuration.models hother
  rw [← starts, ← switches]
  simp [coresOn, Processor.configuration?, configurations, sideName, first, second, startName,
    switchName, Configuration.models]

theorem Sided.handOver_eq (h : Sided pair) {target : Configuration}
    (known : pair.processor.configuration? pair.otherSide = some target) :
    pair.processor.handOver target =
      ((pair.coresOn pair.onStart).map (·.model)).zip
        ((pair.coresOn (!pair.onStart)).map (·.model)) := by
  rw [Processor.handOver, Processor.models, h.cores_eq, coresOn, coresOn, ← pair.otherSide_eq,
    known]
  rfl

/-- A toggle from the start side hands the partners over, one from the switch side hands them
back. -/
def handedOver (partners : List (CoreHandle × CoreHandle)) (onStart : Bool) :
    List (ModelId × ModelId) :=
  if onStart then modelPairs partners else (modelPairs partners).map Prod.swap

theorem handedOver_eq (slotWise : SlotWise start switch partners) :
    handedOver partners true = start.models.zip switch.models ∧
      handedOver partners false = switch.models.zip start.models := by
  have starts : start.models = partners.map (·.1.model) := by
    rw [Configuration.models, ← slotWise.outgoing, List.map_map]
    rfl
  have switches : switch.models = partners.map (·.2.model) := by
    rw [Configuration.models, ← slotWise.incoming, List.map_map]
    rfl
  constructor
  · refine List.zip_of_prod ?_ ?_
    · simp [handedOver, modelPairs, starts]
    · simp [handedOver, modelPairs, switches]
  · refine List.zip_of_prod ?_ ?_
    · simp [handedOver, modelPairs, switches]
    · simp [handedOver, modelPairs, starts]

/-- What a pair asks of a board when it toggles, and what it answers. -/
theorem Sided.toggle_watched {σ : Type} [Board σ] (h : Sided pair) (wf : pair.processor.WF)
    (joined : pair.processor.isIncorporated = true) {swapped : List (ModelId × ModelId)}
    (same : ((pair.coresOn pair.onStart).map (·.model)).zip
      ((pair.coresOn (!pair.onStart)).map (·.model)) = swapped) (watched : Watched σ) :
    (pair.toggle watched).1 = (Board.swap swapped watched.board).1.mapError .board ∧
      (pair.toggle watched).2.2 =
        { board := (Board.swap swapped watched.board).2
          asked := watched.asked ++ [.swap swapped] } := by
  have free : pair.processor.switchError? pair.otherSide = none := by
    rw [h.switchError?_otherSide wf, joined]
    rfl
  obtain ⟨-, target, known, -, -⟩ := Processor.exists_of_switchError?_eq_none free
  have toggled := toggle_of_swap free known (Watched.swap_eq _ watched)
  rw [h.handOver_eq known, same] at toggled
  rw [toggled]
  exact ⟨rfl, rfl⟩

/-- Whatever a pair processor was called for before, on boards that may grant or refuse anything, a
toggle asks the board for nothing if the processor has joined none, and else for just one swap: of
the partners, from the side on which it stands to the other one. The partners are the cores that
fill the same slot, so they are the pairs that were supplied exactly if the two cores of each pair
do. -/
theorem toggles_swap_partners (made : ofPairs pairs = .ok first) :
    ∃ partners, Partners pairs partners ∧
      ((∀ models, models ∈ modelPairs partners ↔ models ∈ modelPairs pairs) ↔
        ∀ pair ∈ pairs, pair.1.slot = pair.2.slot) ∧
      ∀ (σ : Type) [Board σ] (calls : List (Machine.Call × σ)) (board : σ)
        (asked : List Board.Request),
        ∃ pair, (Machine.pair first).after calls = .pair pair ∧
          let watched : Watched σ := { board, asked }
          let swapped := handedOver partners pair.onStart
          (pair.processor.isIncorporated = false →
            pair.toggle watched = (.error .notIncorporated, pair, watched)) ∧
          (pair.processor.isIncorporated = true →
            (pair.toggle watched).1 = (Board.swap swapped board).1.mapError .board ∧
            (pair.toggle watched).2.2 =
              { board := (Board.swap swapped board).2, asked := asked ++ [.swap swapped] }) := by
  obtain ⟨start, switch, hstart, hswitch, created, -⟩ := exists_of_ofPairs made
  obtain ⟨reference, -, -, aligned, -, unshared, -⟩ := Processor.exists_of_create created
  have slots {configuration : Configuration} (mem : configuration ∈ [start, switch]) :
      configuration.slots = reference.slots :=
    Processor.slots_eq_of_layoutError?_eq_none
      (List.findSome?_eq_none_iff.mp aligned configuration mem)
  have slotWise : SlotWise start switch (start.cores.zip switch.cores) :=
    slotWise_zip ((slots (by simp)).trans (slots (by simp)).symm)
  have partners := partners_of_slotWise hstart hswitch slotWise
  have models : (start.models ++ switch.models).Nodup := by
    simpa using (firstRepeated?_eq_none_iff.mp unshared).1
  refine ⟨_, partners, ?_, fun σ _ calls board asked => ?_⟩
  · obtain ⟨starts, switches, -⟩ := List.nodup_append.mp models
    exact partners.modelPairs_iff
      (((Configuration.perm_of_ofCores hstart).map _).nodup_iff.mp starts)
      (((Configuration.perm_of_ofCores hswitch).map _).nodup_iff.mp switches)
  · obtain ⟨pair, same⟩ := Machine.exists_pair_after first calls
    have kept : Machine.Intact [start, switch] (.pair pair) :=
      same ▸ (Machine.MadeOf.pair hstart hswitch made).intact.1.after calls
    have sided := kept.sided pair rfl
    obtain ⟨starts, switches⟩ := models_coresOn (Configuration.name_of_ofCores hstart)
      (Configuration.name_of_ofCores hswitch) kept.supplied
    obtain ⟨forth, back⟩ := handedOver_eq slotWise
    refine ⟨pair, same, fun alone => ?_, fun joined => ?_⟩
    · have refused : pair.processor.switchError? pair.otherSide = some .notIncorporated := by
        rw [sided.switchError?_otherSide kept.wf, alone]
        rfl
      rw [toggle, Processor.switchTo_of_switchError? refused]
    · refine sided.toggle_watched kept.wf joined ?_ _
      cases pair.onStart with
      | true => rw [Bool.not_true, starts, switches, forth]
      | false => rw [Bool.not_false, starts, switches, back]

/-- Two pairs whose switch cores fill each other's slots. They are accepted, and each start core
hands over to the switch core of the other pair. -/
theorem toggles_swap_partners_crossed :
    let crossed : List (CoreHandle × CoreHandle) :=
      [(.create 0 .x86 ⟨0⟩ .bigKvm, .create 1 .x86 ⟨2⟩ .dummy),
        (.create 1 .x86 ⟨1⟩ .bigKvm, .create 0 .x86 ⟨3⟩ .dummy)]
    ∃ first partners, ofPairs crossed = .ok first ∧ Partners crossed partners ∧
      (¬ ∀ models, models ∈ modelPairs partners ↔ models ∈ modelPairs crossed) ∧
      ∃ pair, (Machine.pair first).after [(.incorporate, ({} : Recorder))] = .pair pair ∧
        (pair.toggle (⟨{}, []⟩ : Watched Recorder)).2.2.asked =
          [.swap [(⟨0⟩, ⟨3⟩), (⟨1⟩, ⟨2⟩)]] := by
  intro crossed
  let start : Configuration := ⟨startName, crossed.map (·.1), by decide, by decide⟩
  let switch : Configuration := ⟨switchName, (crossed.map (·.2)).reverse, by decide, by decide⟩
  have starts : Configuration.ofCores startName (crossed.map (·.1)) = .ok start :=
    Configuration.ofCores_eq_ok _ start.ascending start.nonempty
  have switches : Configuration.ofCores switchName (crossed.map (·.2)) = .ok switch := by
    rw [← Configuration.ofCores_perm _ (List.reverse_perm _)]
    exact Configuration.ofCores_eq_ok _ switch.ascending switch.nonempty
  let processor : Processor :=
    { configurations := Processor.markSwitchedOut startName [start, switch]
      active := startName
      isa := .x86
      timelines := none }
  have created : Processor.create [start, switch] startName = .ok processor := rfl
  have assembled : assemble crossed = .ok processor := by
    rw [assemble, starts, switches]
    exact created
  have made : ofPairs crossed = .ok ⟨processor, true, .atomicNoncaching⟩ :=
    ofPairs_eq_ok_iff.mpr ⟨assembled, rfl, rfl⟩
  obtain ⟨partners, isPartners, supplied, -⟩ := toggles_swap_partners made
  refine ⟨_, partners, made, isPartners, fun same => ?_, _, rfl, rfl⟩
  have aligned := supplied.mp same _ List.mem_cons_self
  cases aligned

end PairProcessor

end Polycore
