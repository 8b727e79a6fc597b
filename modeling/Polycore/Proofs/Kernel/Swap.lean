import Polycore.Proofs.Kernel.Objects

/-!
# Swaps

A swap is refused, or hands every architectural state over and changes nothing else of any object.
`swap_cases` says which, `Exchangeable` is what the kernel asks of the pairs, and
`arch?_exchange_incoming`, `arch?_exchange_outgoing` and `arch?_exchange_other` say who executes
what afterwards. No state is lost or gained on the way (`archStates_swap_perm`).
-/

namespace Polycore.Kernel

variable {kernel : Kernel} {model : ModelId} {pair : ModelId × ModelId}
  {pairs : List (ModelId × ModelId)}

/-- All models of a list of pairs, in its order. -/
def mentioned (pairs : List (ModelId × ModelId)) : List ModelId :=
  pairs.flatMap fun pair => [pair.1, pair.2]

theorem mentioned_cons (pair : ModelId × ModelId) (pairs : List (ModelId × ModelId)) :
    mentioned (pair :: pairs) = pair.1 :: pair.2 :: mentioned pairs := rfl

theorem mem_mentioned :
    model ∈ mentioned pairs ↔ ∃ pair ∈ pairs, model = pair.1 ∨ model = pair.2 := by
  simp [mentioned]

/-- What a kernel asks of the pairs of a swap: no model occurs twice, every first model executes,
and every second one is registered and idle. -/
structure Exchangeable (kernel : Kernel) (pairs : List (ModelId × ModelId)) : Prop where
  distinct : (mentioned pairs).Nodup
  running : ∀ pair ∈ pairs, kernel.isRunning pair.1 = true
  registered : ∀ pair ∈ pairs, (kernel.object? pair.2).isSome = true
  idle : ∀ pair ∈ pairs, kernel.isRunning pair.2 = false

/-! ## What is refused -/

theorem startError?_eq_none_iff :
    kernel.startError? model = none ↔
      (kernel.object? model).isSome = true ∧ kernel.isRunning model = false := by
  unfold startError? isRunning arch?
  cases kernel.object? model with
  | none => simp
  | some object => cases h : object.arch <;> simp [CoreObject.isRunning, h]

theorem handOverError?_eq_none_iff {outgoing incoming : ModelId} :
    kernel.handOverError? outgoing incoming = none ↔
      kernel.isRunning outgoing = true ∧ kernel.startError? incoming = none := by
  unfold handOverError? isRunning arch?
  cases kernel.object? outgoing with
  | none => simp
  | some object => cases h : object.arch <;> simp [CoreObject.isRunning, h]

theorem swapError?_cons_eq_none_iff {seen : List ModelId} {outgoing incoming : ModelId} :
    kernel.swapError? seen ((outgoing, incoming) :: pairs) = none ↔
      outgoing ∉ seen ∧ incoming ∉ outgoing :: seen ∧
        kernel.handOverError? outgoing incoming = none ∧
        kernel.swapError? (incoming :: outgoing :: seen) pairs = none := by
  rw [swapError?]
  split
  · next mem => exact iff_of_false nofun fun h => h.1 mem
  · next freshOut =>
    split
    · next mem => exact iff_of_false nofun fun h => h.2.1 mem
    · next freshIn =>
      split
      · next error h => exact iff_of_false nofun fun ⟨_, _, free, _⟩ => nomatch h.symm.trans free
      · next h => exact ⟨fun rest => ⟨freshOut, freshIn, h, rest⟩, fun h => h.2.2.2⟩

theorem exchangeable_nil (kernel : Kernel) : kernel.Exchangeable [] :=
  ⟨.nil, nofun, nofun, nofun⟩

theorem exchangeable_cons {outgoing incoming : ModelId} :
    kernel.Exchangeable ((outgoing, incoming) :: pairs) ↔
      outgoing ∉ incoming :: mentioned pairs ∧ incoming ∉ mentioned pairs ∧
        kernel.handOverError? outgoing incoming = none ∧ kernel.Exchangeable pairs := by
  rw [handOverError?_eq_none_iff, startError?_eq_none_iff]
  constructor
  · rintro ⟨distinct, running, registered, idle⟩
    rw [mentioned_cons, List.nodup_cons, List.nodup_cons] at distinct
    rw [List.forall_mem_cons] at running registered idle
    exact ⟨distinct.1, distinct.2.1, ⟨running.1, registered.1, idle.1⟩,
      ⟨distinct.2.2, running.2, registered.2, idle.2⟩⟩
  · rintro ⟨freshOut, freshIn, ⟨runs, registered, idle⟩, rest⟩
    exact ⟨List.nodup_cons.mpr ⟨freshOut, List.nodup_cons.mpr ⟨freshIn, rest.distinct⟩⟩,
      List.forall_mem_cons.mpr ⟨runs, rest.running⟩,
      List.forall_mem_cons.mpr ⟨registered, rest.registered⟩,
      List.forall_mem_cons.mpr ⟨idle, rest.idle⟩⟩

/-- A kernel raises no error exactly if the pairs can be exchanged and none of their models came
before. -/
theorem swapError?_eq_none_iff {seen : List ModelId} :
    kernel.swapError? seen pairs = none ↔
      kernel.Exchangeable pairs ∧ ∀ model ∈ mentioned pairs, model ∉ seen := by
  induction pairs generalizing seen with
  | nil => exact ⟨fun _ => ⟨exchangeable_nil kernel, nofun⟩, fun _ => rfl⟩
  | cons pair rest ih =>
    rw [swapError?_cons_eq_none_iff, exchangeable_cons, ih, mentioned_cons]
    simp only [List.mem_cons, not_or, forall_eq_or_imp]
    constructor
    · rintro ⟨outSeen, ⟨inOut, inSeen⟩, handOver, ok, fresh⟩
      exact ⟨⟨⟨Ne.symm inOut, fun mem => (fresh _ mem).2.1 rfl⟩,
        fun mem => (fresh _ mem).1 rfl, handOver, ok⟩, outSeen, inSeen,
        fun model mem => (fresh model mem).2.2⟩
    · rintro ⟨⟨⟨outIn, outRest⟩, inRest, handOver, ok⟩, outSeen, inSeen, fresh⟩
      refine ⟨outSeen, ⟨Ne.symm outIn, inSeen⟩, handOver, ok,
        fun model mem => ⟨?_, ?_, fresh model mem⟩⟩
      · exact fun h => inRest (h ▸ mem)
      · exact fun h => outRest (h ▸ mem)

/-- A swap meets an armed refusal, is refused without a trace, or exchanges its pairs. -/
theorem swap_cases (kernel : Kernel) (pairs : List (ModelId × ModelId)) :
    (∃ reason, kernel.armedSwap = some reason ∧
      kernel.swap pairs = (.error (.swapFailed reason), { kernel with armedSwap := none })) ∨
    (∃ error, kernel.armedSwap = none ∧ kernel.swap pairs = (.error error, kernel)) ∨
    (kernel.armedSwap = none ∧ kernel.booted = true ∧ kernel.Exchangeable pairs ∧
      kernel.swap pairs = (.ok (), kernel.exchange pairs)) := by
  unfold swap
  split
  · next reason h => exact .inl ⟨reason, h, rfl⟩
  · next unarmed =>
    refine .inr ?_
    split
    · exact .inl ⟨_, unarmed, rfl⟩
    · next booted =>
      split
      · next error _ => exact .inl ⟨error, unarmed, rfl⟩
      · next free =>
        exact .inr ⟨unarmed, by simpa using booted, (swapError?_eq_none_iff.mp free).1, rfl⟩

theorem swap_granted (unarmed : kernel.armedSwap = none) (booted : kernel.booted = true)
    (ok : kernel.Exchangeable pairs) : kernel.swap pairs = (.ok (), kernel.exchange pairs) := by
  have free : kernel.swapError? [] pairs = none :=
    swapError?_eq_none_iff.mpr ⟨ok, fun _ _ => List.not_mem_nil⟩
  simp [swap, unarmed, booted, free]

/-- What a kernel grants: an exchange that it can make, after its boot and with nothing armed. -/
theorem swap_eq_ok_iff :
    (kernel.swap pairs).1 = .ok () ↔
      kernel.armedSwap = none ∧ kernel.booted = true ∧ kernel.Exchangeable pairs := by
  constructor
  · intro granted
    rcases kernel.swap_cases pairs with ⟨_, _, failed⟩ | ⟨_, _, refused⟩ | ⟨unarmed, booted, ok, _⟩
    · simp [failed] at granted
    · simp [refused] at granted
    · exact ⟨unarmed, booted, ok⟩
  · rintro ⟨unarmed, booted, ok⟩
    rw [swap_granted unarmed booted ok]

/-- A swap that the kernel refuses leaves everybody in place. -/
theorem sameWork_of_swap_eq_error {after : Kernel} {error : BoardError}
    (h : kernel.swap pairs = (.error error, after)) : SameWork kernel after := by
  rcases kernel.swap_cases pairs with ⟨_, _, armed⟩ | ⟨_, _, refused⟩ | ⟨_, _, _, granted⟩
  · rw [armed] at h
    cases h
    exact .of_objects rfl rfl
  · rw [refused] at h
    cases h
    exact .refl _
  · rw [granted] at h
    cases h

theorem exchange_of_swap_eq_ok {after : Kernel} (h : kernel.swap pairs = (.ok (), after)) :
    kernel.Exchangeable pairs ∧ after = kernel.exchange pairs := by
  rcases kernel.swap_cases pairs with ⟨_, _, armed⟩ | ⟨_, _, refused⟩ | ⟨_, _, ok, granted⟩
  · rw [armed] at h
    cases h
  · rw [refused] at h
    cases h
  · rw [granted] at h
    cases h
    exact ⟨ok, rfl⟩

/-! ## Who executes after an exchange -/

variable {outgoing incoming : ModelId}

theorem arch?_handOver_of_ne (hout : model ≠ outgoing) (hin : model ≠ incoming) :
    (kernel.handOver (outgoing, incoming)).arch? model = kernel.arch? model := by
  rw [handOver, arch?_modifyObject_of_ne _ hin, arch?_modifyObject_of_ne _ hout]

theorem arch?_handOver_outgoing (hne : outgoing ≠ incoming) (h : kernel.isRunning outgoing = true) :
    (kernel.handOver (outgoing, incoming)).arch? outgoing = none := by
  obtain ⟨object, hobject⟩ := Option.isSome_iff_exists.mp (isSome_object?_of_isRunning h)
  rw [handOver, arch?_modifyObject_of_ne _ hne, arch?_modifyObject_self _ hobject]
  rfl

theorem arch?_handOver_incoming (hne : outgoing ≠ incoming)
    (h : (kernel.object? incoming).isSome = true) :
    (kernel.handOver (outgoing, incoming)).arch? incoming = kernel.arch? outgoing := by
  obtain ⟨object, hobject⟩ := Option.isSome_iff_exists.mp h
  have still : (kernel.modifyObject outgoing (·.setArch none)).object? incoming = some object := by
    rw [object?_modifyObject_of_ne _ hne.symm, hobject]
  rw [handOver, arch?_modifyObject_self _ still]
  rfl

/-- What an object is apart from its architectural state. -/
def body? (kernel : Kernel) (model : ModelId) : Option CoreObject :=
  (kernel.object? model).map (·.setArch none)

theorem isSome_body? (kernel : Kernel) (model : ModelId) :
    (kernel.body? model).isSome = (kernel.object? model).isSome :=
  Option.isSome_map

theorem retired_eq_body? (kernel : Kernel) (model : ModelId) :
    kernel.retired model = ((kernel.body? model).map (·.retired)).getD 0 := by
  rw [retired, body?, Option.map_map]
  rfl

theorem body?_modifyObject_setArch (kernel : Kernel) (changed model : ModelId)
    (arch : Option ArchState) :
    (kernel.modifyObject changed (·.setArch arch)).body? model = kernel.body? model := by
  rw [body?, body?, object?_modifyObject]
  split
  · rw [Option.map_map]
    rfl
  · rfl

theorem body?_handOver (kernel : Kernel) (pair : ModelId × ModelId) (model : ModelId) :
    (kernel.handOver pair).body? model = kernel.body? model := by
  rw [handOver, body?_modifyObject_setArch, body?_modifyObject_setArch]

theorem body?_foldl_handOver (pairs : List (ModelId × ModelId)) (kernel : Kernel)
    (model : ModelId) : (pairs.foldl handOver kernel).body? model = kernel.body? model :=
  view_foldl (·.body? model) (fun kernel pair => body?_handOver kernel pair model) pairs kernel

/-- Once the first pair has handed over, the others can still be exchanged. -/
theorem Exchangeable.handOver (h : kernel.Exchangeable ((outgoing, incoming) :: pairs)) :
    (kernel.handOver (outgoing, incoming)).Exchangeable pairs := by
  obtain ⟨freshOut, freshIn, -, rest⟩ := exchangeable_cons.mp h
  have untouched {model : ModelId} (mem : model ∈ mentioned pairs) :
      (kernel.handOver (outgoing, incoming)).arch? model = kernel.arch? model :=
    arch?_handOver_of_ne (fun e => freshOut (List.mem_cons_of_mem _ (e ▸ mem)))
      (fun e => freshIn (e ▸ mem))
  refine ⟨rest.distinct, fun pair mem => ?_, fun pair mem => ?_, fun pair mem => ?_⟩
  · rw [isRunning, untouched (mem_mentioned.mpr ⟨pair, mem, .inl rfl⟩)]
    exact rest.running pair mem
  · rw [← isSome_body?, body?_handOver, isSome_body?]
    exact rest.registered pair mem
  · rw [isRunning, untouched (mem_mentioned.mpr ⟨pair, mem, .inr rfl⟩)]
    exact rest.idle pair mem

theorem arch?_foldl_handOver_other (h : model ∉ mentioned pairs) (kernel : Kernel) :
    (pairs.foldl handOver kernel).arch? model = kernel.arch? model := by
  induction pairs generalizing kernel with
  | nil => rfl
  | cons pair rest ih =>
    rw [mentioned_cons, List.mem_cons, List.mem_cons, not_or, not_or] at h
    exact (ih h.2.2 _).trans (arch?_handOver_of_ne h.1 h.2.1)

theorem arch?_foldl_handOver_pair (h : kernel.Exchangeable pairs) (mem : pair ∈ pairs) :
    (pairs.foldl handOver kernel).arch? pair.1 = none ∧
      (pairs.foldl handOver kernel).arch? pair.2 = kernel.arch? pair.1 := by
  induction pairs generalizing kernel with
  | nil => cases mem
  | cons first rest ih =>
    obtain ⟨outgoing, incoming⟩ := first
    obtain ⟨freshOut, freshIn, start, -⟩ := exchangeable_cons.mp h
    obtain ⟨runs, idle⟩ := handOverError?_eq_none_iff.mp start
    rcases List.mem_cons.mp mem with rfl | mem
    · have hne : outgoing ≠ incoming := fun e => freshOut (e ▸ List.mem_cons_self)
      have hout := arch?_foldl_handOver_other (fun mem => freshOut (List.mem_cons_of_mem _ mem))
        (kernel.handOver (outgoing, incoming))
      have hin := arch?_foldl_handOver_other freshIn (kernel.handOver (outgoing, incoming))
      rw [List.foldl_cons]
      exact ⟨hout.trans (arch?_handOver_outgoing hne runs),
        hin.trans (arch?_handOver_incoming hne (startError?_eq_none_iff.mp idle).1)⟩
    · have later : pair.1 ≠ outgoing ∧ pair.1 ≠ incoming := by
        have first := mem_mentioned.mpr ⟨pair, mem, .inl rfl⟩
        exact ⟨fun e => freshOut (List.mem_cons_of_mem _ (e ▸ first)), fun e => freshIn (e ▸ first)⟩
      have taken := ih h.handOver mem
      rwa [arch?_handOver_of_ne later.1 later.2] at taken

/-- Synchronizing the clocks, which an exchange does first, is nothing to the objects. -/
theorem Exchangeable.synchronize (h : kernel.Exchangeable pairs) :
    kernel.synchronize.2.Exchangeable pairs :=
  ⟨h.distinct, h.running, h.registered, h.idle⟩

theorem arch?_exchange_other (h : model ∉ mentioned pairs) :
    (kernel.exchange pairs).arch? model = kernel.arch? model :=
  arch?_foldl_handOver_other h kernel.synchronize.2

theorem arch?_exchange_outgoing (h : kernel.Exchangeable pairs) (mem : pair ∈ pairs) :
    (kernel.exchange pairs).arch? pair.1 = none :=
  (arch?_foldl_handOver_pair h.synchronize mem).1

theorem arch?_exchange_incoming (h : kernel.Exchangeable pairs) (mem : pair ∈ pairs) :
    (kernel.exchange pairs).arch? pair.2 = kernel.arch? pair.1 :=
  (arch?_foldl_handOver_pair h.synchronize mem).2

theorem body?_exchange (kernel : Kernel) (pairs : List (ModelId × ModelId)) (model : ModelId) :
    (kernel.exchange pairs).body? model = kernel.body? model :=
  body?_foldl_handOver pairs kernel.synchronize.2 model

theorem retired_exchange (kernel : Kernel) (pairs : List (ModelId × ModelId)) (model : ModelId) :
    (kernel.exchange pairs).retired model = kernel.retired model := by
  rw [retired_eq_body?, body?_exchange, retired_eq_body?]

theorem booted_foldl_handOver (pairs : List (ModelId × ModelId)) (kernel : Kernel) :
    (pairs.foldl handOver kernel).booted = kernel.booted := by
  refine view_foldl (·.booted) (fun _ _ => ?_) pairs kernel
  rfl

theorem booted_exchange (kernel : Kernel) (pairs : List (ModelId × ModelId)) :
    (kernel.exchange pairs).booted = kernel.booted :=
  booted_foldl_handOver pairs kernel.synchronize.2

theorem booted_swap (kernel : Kernel) (pairs : List (ModelId × ModelId)) :
    (kernel.swap pairs).2.booted = kernel.booted := by
  rcases kernel.swap_cases pairs with ⟨_, _, h⟩ | ⟨_, _, h⟩ | ⟨_, _, _, h⟩
  · rw [h]
  · rw [h]
  · rw [h]
    exact booted_exchange kernel pairs

/-! ## Nothing is lost or gained -/

theorem archStates_setArch_perm {object : CoreObject} (h : kernel.object? model = some object)
    (arch : Option ArchState) :
    (object.arch.toList ++ (kernel.modifyObject model (·.setArch arch)).archStates).Perm
      (arch.toList ++ kernel.archStates) := by
  obtain ⟨before, after, hobjects, hchanged⟩ := exists_objects_eq (·.setArch arch) h
  have parts (x : Option ArchState) (rest : CoreObject) (hx : rest.arch = x) :
      ((before ++ rest :: after).filterMap (·.arch)).Perm
        (x.toList ++ (before ++ after).filterMap (·.arch)) := by
    rw [List.filterMap_append, List.filterMap_append, List.filterMap_cons, hx]
    cases x with
    | none => exact .refl _
    | some state => exact List.perm_middle
  rw [archStates, archStates, hobjects, hchanged]
  refine ((parts _ (object.setArch arch) rfl).append_left _).trans ?_
  refine .trans ?_ ((parts _ object rfl).append_left _).symm
  rw [← List.append_assoc, ← List.append_assoc]
  exact List.perm_append_comm.append_right _

theorem archStates_handOver_perm (hne : outgoing ≠ incoming)
    (h : kernel.handOverError? outgoing incoming = none) :
    (kernel.handOver (outgoing, incoming)).archStates.Perm kernel.archStates := by
  obtain ⟨runs, start⟩ := handOverError?_eq_none_iff.mp h
  obtain ⟨registered, idle⟩ := startError?_eq_none_iff.mp start
  obtain ⟨arch, harch⟩ := isRunning_iff.mp runs
  obtain ⟨out, hout, houtArch⟩ := arch?_eq_some_iff.mp harch
  obtain ⟨inc, hinc⟩ := Option.isSome_iff_exists.mp registered
  have hincArch : inc.arch = none := by
    rw [isRunning_eq_false_iff, arch?, hinc] at idle
    exact idle
  have still : (kernel.modifyObject outgoing (·.setArch none)).object? incoming = some inc := by
    rw [object?_modifyObject_of_ne _ hne.symm, hinc]
  have taken := archStates_setArch_perm hout none
  have given := archStates_setArch_perm still (some arch)
  rw [houtArch] at taken
  rw [hincArch] at given
  rw [handOver, harch]
  exact given.trans taken

theorem archStates_foldl_handOver_perm (h : kernel.Exchangeable pairs) :
    (pairs.foldl handOver kernel).archStates.Perm kernel.archStates := by
  induction pairs generalizing kernel with
  | nil => exact .refl _
  | cons pair rest ih =>
    obtain ⟨outgoing, incoming⟩ := pair
    obtain ⟨freshOut, -, start, -⟩ := exchangeable_cons.mp h
    have hne : outgoing ≠ incoming := fun e => freshOut (e ▸ List.mem_cons_self)
    exact (ih h.handOver).trans (archStates_handOver_perm hne start)

/-- A swap, granted or refused, moves the running architectural states about and keeps each of
them as it is. -/
theorem archStates_swap_perm (kernel : Kernel) (pairs : List (ModelId × ModelId)) :
    (kernel.swap pairs).2.archStates.Perm kernel.archStates := by
  rcases kernel.swap_cases pairs with ⟨_, _, h⟩ | ⟨_, _, h⟩ | ⟨_, _, ok, h⟩
  · rw [h]
    exact .refl _
  · rw [h]
  · rw [h]
    exact archStates_foldl_handOver_perm ok.synchronize

theorem totalInstructions_swap (kernel : Kernel) (pairs : List (ModelId × ModelId)) :
    (kernel.swap pairs).2.totalInstructions = kernel.totalInstructions :=
  ((kernel.archStates_swap_perm pairs).map _).sum_eq

theorem totalRetired_foldl_handOver (pairs : List (ModelId × ModelId)) (kernel : Kernel) :
    (pairs.foldl handOver kernel).totalRetired = kernel.totalRetired := by
  refine view_foldl (·.totalRetired) (fun kernel pair => congrArg List.sum ?_) pairs kernel
  rw [handOver, map_objects_modifyObject, map_objects_modifyObject]
  · exact fun _ => rfl
  · exact fun _ => rfl

theorem totalRetired_swap (kernel : Kernel) (pairs : List (ModelId × ModelId)) :
    (kernel.swap pairs).2.totalRetired = kernel.totalRetired := by
  rcases kernel.swap_cases pairs with ⟨_, _, h⟩ | ⟨_, _, h⟩ | ⟨_, _, _, h⟩
  · rw [h]
    rfl
  · rw [h]
  · rw [h]
    exact totalRetired_foldl_handOver pairs kernel.synchronize.2

end Polycore.Kernel
