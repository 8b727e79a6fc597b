import Polycore.Proofs.Kernel.Armed

/-!
# Exchanges at once

A kernel hands over one pair after the other, but the pairs that it grants have no model in common,
so all of them change hands at once: what a model holds afterwards goes by what its partner held
before. Kernels whose objects look alike model by model have the same objects
(`objects_eq_of_views`). So the order of the pairs makes no difference
(`Exchangeable.exchange_perm`), the reversed pairs undo the exchange
(`Exchangeable.objects_exchange_reversed`), and what is handed on arrives as if it had been handed
over directly (`Exchangeable.objects_exchange_exchange`). The main statement is
`handed_over_at_once`.
-/

namespace Polycore

/-- An object is what it is without its architectural state, and that state. -/
theorem CoreObject.eq_of_body {first second : CoreObject}
    (body : first.setArch none = second.setArch none) (arch : first.arch = second.arch) :
    first = second :=
  calc
    first = (first.setArch none).setArch first.arch := rfl
    _ = (second.setArch none).setArch second.arch := by rw [body, arch]

namespace Kernel

variable {kernel next : Kernel} {pairs other : List (ModelId × ModelId)}

/-! ## Kernels by their views -/

theorem objects_eq_of_views (body : ∀ model, next.body? model = kernel.body? model)
    (arch : ∀ model, next.arch? model = kernel.arch? model) : next.objects = kernel.objects := by
  refine List.ext_getElem? fun place => ?_
  have body : (next.objects[place]?).map (·.setArch none) =
      (kernel.objects[place]?).map (·.setArch none) := body ⟨place⟩
  have arch : (next.objects[place]?).bind (·.arch) = (kernel.objects[place]?).bind (·.arch) :=
    arch ⟨place⟩
  cases found : kernel.objects[place]? with
  | none => simpa [found] using body
  | some object =>
    obtain ⟨object', found', same⟩ := Option.map_eq_some_iff.mp (body.trans (by rw [found]; rfl))
    rw [found, found', Option.bind_some, Option.bind_some] at arch
    rw [found', CoreObject.eq_of_body same arch]

/-- An exchange brings the clocks into step, counts itself, and concerns nothing else but the
objects. -/
theorem exchange_eq (kernel : Kernel) (pairs : List (ModelId × ModelId)) :
    kernel.exchange pairs =
      { kernel with
        objects := (kernel.exchange pairs).objects
        clocks := kernel.clocks.synchronize
        swaps := kernel.swaps + 1 } := by
  let moved := pairs.foldl handOver kernel.synchronize.2
  have rest : { moved with objects := [] } = { kernel.synchronize.2 with objects := [] } := by
    refine view_foldl (fun kernel => { kernel with objects := [] }) (fun _ _ => ?_) pairs _
    rfl
  exact congrArg (fun rest => { rest with objects := moved.objects, swaps := kernel.swaps + 1 })
    rest

theorem clocks_exchange (kernel : Kernel) (pairs : List (ModelId × ModelId)) :
    (kernel.exchange pairs).clocks = kernel.clocks.synchronize :=
  congrArg clocks (kernel.exchange_eq pairs)

/-! ## In any order, and back -/

namespace Exchangeable

theorem perm (ok : kernel.Exchangeable pairs) (perm : other.Perm pairs) :
    kernel.Exchangeable other where
  distinct := (perm.flatMap_right _).nodup_iff.mpr ok.distinct
  running pair mem := ok.running pair (perm.subset mem)
  registered pair mem := ok.registered pair (perm.subset mem)
  idle pair mem := ok.idle pair (perm.subset mem)

theorem exchange_perm (ok : kernel.Exchangeable pairs) (perm : other.Perm pairs) :
    kernel.exchange other = kernel.exchange pairs := by
  have objects : (kernel.exchange other).objects = (kernel.exchange pairs).objects := by
    refine objects_eq_of_views (fun model => ?_) fun model => ?_
    · rw [body?_exchange, body?_exchange]
    · by_cases involved : model ∈ mentioned pairs
      · obtain ⟨pair, mem, rfl | rfl⟩ := mem_mentioned.mp involved
        · rw [arch?_exchange_outgoing ok mem,
            arch?_exchange_outgoing (ok.perm perm) (perm.symm.subset mem)]
        · rw [arch?_exchange_incoming ok mem,
            arch?_exchange_incoming (ok.perm perm) (perm.symm.subset mem)]
      · have apart : model ∉ mentioned other :=
          fun mem => involved ((perm.flatMap_right _).subset mem)
        rw [arch?_exchange_other involved, arch?_exchange_other apart]
  rw [kernel.exchange_eq other, kernel.exchange_eq pairs, objects]

theorem mentioned_reversed_perm (pairs : List (ModelId × ModelId)) :
    (mentioned (pairs.map Prod.swap)).Perm (mentioned pairs) := by
  rw [mentioned, List.flatMap_map]
  exact List.Perm.flatMap_left pairs fun pair _ => .swap pair.1 pair.2 []

/-- What has been exchanged can be exchanged back. -/
theorem reversed (ok : kernel.Exchangeable pairs) :
    (kernel.exchange pairs).Exchangeable (pairs.map Prod.swap) where
  distinct := (mentioned_reversed_perm pairs).nodup_iff.mpr ok.distinct
  running := by
    refine List.forall_mem_map.mpr fun pair mem => ?_
    rw [isRunning, Prod.fst_swap, arch?_exchange_incoming ok mem]
    exact ok.running pair mem
  registered := by
    refine List.forall_mem_map.mpr fun pair mem => ?_
    rw [Prod.snd_swap, ← isSome_body?, body?_exchange, isSome_body?]
    exact isSome_object?_of_isRunning (ok.running pair mem)
  idle := by
    refine List.forall_mem_map.mpr fun pair mem => isRunning_eq_false_iff.mpr ?_
    exact arch?_exchange_outgoing ok mem

theorem objects_exchange_reversed (ok : kernel.Exchangeable pairs) :
    ((kernel.exchange pairs).exchange (pairs.map Prod.swap)).objects = kernel.objects := by
  refine objects_eq_of_views (fun model => ?_) fun model => ?_
  · rw [body?_exchange, body?_exchange]
  · by_cases involved : model ∈ mentioned pairs
    · obtain ⟨pair, mem, side⟩ := mem_mentioned.mp involved
      have back : pair.swap ∈ pairs.map Prod.swap := List.mem_map_of_mem mem
      rcases side with rfl | rfl
      · exact (arch?_exchange_incoming ok.reversed back).trans (arch?_exchange_incoming ok mem)
      · refine (arch?_exchange_outgoing ok.reversed back).trans ?_
        exact (isRunning_eq_false_iff.mp (ok.idle pair mem)).symm
    · have apart : model ∉ mentioned (pairs.map Prod.swap) :=
        fun mem => involved ((mentioned_reversed_perm pairs).subset mem)
      rw [arch?_exchange_other apart, arch?_exchange_other involved]

/-- What a kernel asks of pairs, said of all their models. -/
theorem iff_mentioned :
    kernel.Exchangeable pairs ↔
      (mentioned pairs).Nodup ∧
        (∀ model ∈ mentioned pairs, (kernel.object? model).isSome = true) ∧
        ∀ pair ∈ pairs, kernel.isRunning pair.1 = true ∧ kernel.isRunning pair.2 = false := by
  constructor
  · intro ok
    refine ⟨ok.distinct, fun model involved => ?_, fun pair mem => ?_⟩
    · obtain ⟨pair, mem, rfl | rfl⟩ := mem_mentioned.mp involved
      · exact isSome_object?_of_isRunning (ok.running pair mem)
      · exact ok.registered pair mem
    · exact ⟨ok.running pair mem, ok.idle pair mem⟩
  · rintro ⟨distinct, registered, states⟩
    refine ⟨distinct, fun pair mem => (states pair mem).1, fun pair mem => ?_,
      fun pair mem => (states pair mem).2⟩
    exact registered pair.2 (mem_mentioned.mpr ⟨pair, mem, .inr rfl⟩)

end Exchangeable

/-! ## By their objects -/

theorem objects_foldl_handOver (same : next.objects = kernel.objects)
    (pairs : List (ModelId × ModelId)) :
    (pairs.foldl handOver next).objects = (pairs.foldl handOver kernel).objects := by
  induction pairs generalizing kernel next with
  | nil => exact same
  | cons pair rest ih =>
    refine ih ?_
    simp only [handOver, modifyObject, arch?, object?, same]

theorem objects_exchange_of_objects (same : next.objects = kernel.objects)
    (pairs : List (ModelId × ModelId)) :
    (next.exchange pairs).objects = (kernel.exchange pairs).objects := by
  have synchronized : next.synchronize.2.objects = kernel.synchronize.2.objects := same
  exact objects_foldl_handOver synchronized pairs

theorem Exchangeable.of_objects (ok : kernel.Exchangeable pairs)
    (same : next.objects = kernel.objects) : next.Exchangeable pairs where
  distinct := ok.distinct
  running pair mem := by
    rw [isRunning, arch?, object?, same]
    exact ok.running pair mem
  registered pair mem := by
    rw [object?, same]
    exact ok.registered pair mem
  idle pair mem := by
    rw [isRunning, arch?, object?, same]
    exact ok.idle pair mem

/-! ## From list to list -/

section Zip

variable {first second third : List ModelId} {model : ModelId}

theorem mentioned_zip_perm (fits : second.length = first.length) :
    (mentioned (first.zip second)).Perm (first ++ second) := by
  induction first generalizing second with
  | nil =>
    rw [List.length_eq_zero_iff.mp fits]
    exact .nil
  | cons model rest ih =>
    obtain ⟨partner, others, rfl⟩ := List.exists_cons_of_length_eq_add_one fits
    rw [List.zip_cons_cons, mentioned_cons, List.cons_append]
    refine .cons model (.trans (.cons partner (ih (Nat.succ.inj fits))) ?_)
    exact List.perm_middle.symm

theorem not_mem_mentioned_zip (left : model ∉ first) (right : model ∉ second) :
    model ∉ mentioned (first.zip second) := by
  intro mem
  obtain ⟨pair, listed, rfl | rfl⟩ := mem_mentioned.mp mem
  · exact left (List.of_mem_zip listed).1
  · exact right (List.of_mem_zip listed).2

theorem exists_mem_zip_left (fits : second.length = first.length) (mem : model ∈ first) :
    ∃ partner, (model, partner) ∈ first.zip second := by
  rw [← List.map_fst_zip (Nat.le_of_eq fits.symm)] at mem
  obtain ⟨pair, listed, rfl⟩ := List.mem_map.mp mem
  exact ⟨pair.2, listed⟩

theorem exists_mem_zip_right (fits : second.length = first.length) (mem : model ∈ second) :
    ∃ partner, (partner, model) ∈ first.zip second := by
  rw [← List.map_snd_zip (Nat.le_of_eq fits)] at mem
  obtain ⟨pair, listed, rfl⟩ := List.mem_map.mp mem
  exact ⟨pair.1, listed⟩

/-- A model that hands on has got what it hands on from where it could have gone directly. -/
theorem exists_mem_zip_both (fits : second.length = first.length) {middle last : ModelId}
    (mem : (middle, last) ∈ second.zip third) :
    ∃ model, (model, middle) ∈ first.zip second ∧ (model, last) ∈ first.zip third := by
  obtain ⟨place, entry⟩ := List.getElem?_of_mem mem
  obtain ⟨between, arrival⟩ := List.getElem?_zip_eq_some.mp entry
  have within : place < first.length := fits ▸ (List.getElem?_eq_some_iff.mp between).1
  have start : first[place]? = some first[place] := List.getElem?_eq_getElem within
  exact ⟨first[place], List.mem_of_getElem? (List.getElem?_zip_eq_some.mpr ⟨start, between⟩),
    List.mem_of_getElem? (List.getElem?_zip_eq_some.mpr ⟨start, arrival⟩)⟩

/-- The models of an exchange between two lists have nothing in common. -/
theorem Exchangeable.zip_distinct (ok : kernel.Exchangeable (first.zip second))
    (fits : second.length = first.length) : first.Nodup ∧ second.Nodup ∧ first.Disjoint second :=
  List.nodup_append'.mp ((mentioned_zip_perm fits).nodup_iff.mp ok.distinct)

/-! ### On from where it arrived -/

section Onward

variable (ok : kernel.Exchangeable (first.zip second))
  (onward : (kernel.exchange (first.zip second)).Exchangeable (second.zip third))
  (fits : second.length = first.length) (fits' : third.length = second.length)
  (apart : first.Disjoint third)

include ok onward fits fits' apart

/-- What is handed on could have been handed over directly. -/
theorem Exchangeable.direct : kernel.Exchangeable (first.zip third) := by
  obtain ⟨distinct, -, -⟩ := ok.zip_distinct fits
  obtain ⟨-, distinct', apart'⟩ := onward.zip_distinct fits'
  refine ⟨?_, ?_, ?_, ?_⟩
  · refine (mentioned_zip_perm (fits'.trans fits)).nodup_iff.mpr ?_
    exact List.nodup_append'.mpr ⟨distinct, distinct', apart⟩
  · rintro ⟨model, last⟩ mem
    obtain ⟨middle, listed⟩ := exists_mem_zip_left fits (List.of_mem_zip mem).1
    exact ok.running (model, middle) listed
  · rintro ⟨model, last⟩ mem
    obtain ⟨middle, listed⟩ := exists_mem_zip_right fits' (List.of_mem_zip mem).2
    rw [← isSome_body?, ← body?_exchange, isSome_body?]
    exact onward.registered (middle, last) listed
  · rintro ⟨model, last⟩ mem
    have arrival := (List.of_mem_zip mem).2
    obtain ⟨middle, listed⟩ := exists_mem_zip_right fits' arrival
    have untouched : last ∉ mentioned (first.zip second) :=
      not_mem_mentioned_zip (fun start => apart start arrival)
        fun between => apart' between arrival
    rw [isRunning, ← arch?_exchange_other untouched]
    exact onward.idle (middle, last) listed

/-- What is handed on arrives as if it had been handed over directly. -/
theorem Exchangeable.objects_exchange_exchange :
    ((kernel.exchange (first.zip second)).exchange (second.zip third)).objects =
      (kernel.exchange (first.zip third)).objects := by
  have straight := ok.direct onward fits fits' apart
  obtain ⟨-, -, start⟩ := ok.zip_distinct fits
  refine objects_eq_of_views (fun model => ?_) fun model => ?_
  · rw [body?_exchange, body?_exchange, body?_exchange]
  · by_cases arrives : model ∈ third
    · obtain ⟨middle, onwards⟩ := exists_mem_zip_right fits' arrives
      obtain ⟨origin, outset, whole⟩ := exists_mem_zip_both fits onwards
      rw [arch?_exchange_incoming onward onwards, arch?_exchange_incoming ok outset,
        arch?_exchange_incoming straight whole]
    · by_cases between : model ∈ second
      · -- it got a state and handed it on, and so is as idle as it was
        obtain ⟨last, onwards⟩ := exists_mem_zip_left fits' between
        obtain ⟨origin, outset⟩ := exists_mem_zip_right fits between
        have untouched : model ∉ mentioned (first.zip third) :=
          not_mem_mentioned_zip (fun leaves => start leaves between) arrives
        rw [arch?_exchange_outgoing onward onwards, arch?_exchange_other untouched]
        exact (isRunning_eq_false_iff.mp (ok.idle _ outset)).symm
      · rw [arch?_exchange_other (not_mem_mentioned_zip between arrives)]
        by_cases leaves : model ∈ first
        · obtain ⟨middle, outset⟩ := exists_mem_zip_left fits leaves
          obtain ⟨last, whole⟩ := exists_mem_zip_left (fits'.trans fits) leaves
          rw [arch?_exchange_outgoing ok outset, arch?_exchange_outgoing straight whole]
        · rw [arch?_exchange_other (not_mem_mentioned_zip leaves between),
            arch?_exchange_other (not_mem_mentioned_zip leaves arrives)]

end Onward

end Zip

/-! ## At once -/

/-- Whatever was asked of a kernel before, it grants exactly the swaps of distinct and registered
models of which the first of every pair executes and the second is idle, after the boot and with no
refusal armed. A swap that is granted hands all states over at once: every second model holds what
the first one of its pair held, every first one is idle, all others hold what they held. All
timelines stand where the furthest one stood, the swap is counted, and nothing else has changed. The
same pairs in any other order would have left the same kernel, and swapping them back restores every
object. -/
theorem handed_over_at_once (seed : UInt64) (ruby : Bool) (requests : List Request)
    (pairs : List (ModelId × ModelId)) :
    let kernel := requests.foldl perform (create seed ruby)
    ((kernel.swap pairs).1 = .ok () ↔
      kernel.armedSwap = none ∧ kernel.booted = true ∧ (mentioned pairs).Nodup ∧
        (∀ model ∈ mentioned pairs, (kernel.object? model).isSome = true) ∧
        ∀ pair ∈ pairs, kernel.isRunning pair.1 = true ∧ kernel.isRunning pair.2 = false) ∧
    ∀ after, kernel.swap pairs = (.ok (), after) →
      (∀ pair ∈ pairs, after.arch? pair.2 = kernel.arch? pair.1 ∧ after.arch? pair.1 = none) ∧
      (∀ model, model ∉ mentioned pairs → after.arch? model = kernel.arch? model) ∧
      (∀ model, after.body? model = kernel.body? model) ∧
      (∃ latest, (∃ timeline, kernel.clocks.tick? timeline = some latest) ∧
        (∀ timeline tick, kernel.clocks.tick? timeline = some tick → tick ≤ latest) ∧
        ∀ timeline, after.clocks.tick? timeline =
          (kernel.clocks.tick? timeline).map fun _ => latest) ∧
      after = { kernel with
        objects := after.objects, clocks := after.clocks, swaps := kernel.swaps + 1 } ∧
      (∀ other, other.Perm pairs → kernel.swap other = (.ok (), after)) ∧
      ∃ back, after.swap (pairs.map Prod.swap) = (.ok (), back) ∧
        back.objects = kernel.objects := by
  intro kernel
  refine ⟨by rw [swap_eq_ok_iff, Exchangeable.iff_mentioned], fun after granted => ?_⟩
  obtain ⟨unarmed, booted, ok⟩ := swap_eq_ok_iff.mp (congrArg Prod.fst granted)
  obtain rfl := (exchange_of_swap_eq_ok granted).2
  have keyed : kernel.clocks.Keyed := (reachable_foldl_perform requests (.create seed ruby)).keyed
  refine ⟨?_, ?_, kernel.body?_exchange pairs, ?_, ?_, ?_, ?_⟩
  · exact fun pair mem => ⟨arch?_exchange_incoming ok mem, arch?_exchange_outgoing ok mem⟩
  · exact fun model apart => arch?_exchange_other apart
  · refine ⟨kernel.clocks.horizon, keyed.exists_tick?_eq_horizon, fun _ _ => Clocks.le_horizon, ?_⟩
    rw [clocks_exchange]
    exact kernel.clocks.tick?_synchronize
  · rw [clocks_exchange]
    exact kernel.exchange_eq pairs
  · intro other perm
    rw [swap_granted unarmed booted (ok.perm perm), ok.exchange_perm perm]
  · refine ⟨_, swap_granted ?_ ?_ ok.reversed, ok.objects_exchange_reversed⟩
    · exact (armedSwap_exchange pairs kernel).trans unarmed
    · exact (booted_exchange kernel pairs).trans booted

end Kernel

end Polycore
