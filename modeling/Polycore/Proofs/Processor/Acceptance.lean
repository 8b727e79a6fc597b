import Polycore.Proofs.Processor.CoreTypes

/-!
# What makes a processor

`Processor.create` checks one thing after the other, and its error is that of the first check to
fail. What passes all of them is `WellShaped`, which knows no order of the configurations and no
starting one; `Processor.Refused` gives for each error the input that it stands for. Both are exact,
so every input is one or the other (`Processor.creates_iff_wellShaped`).
-/

namespace Polycore

/-! ## The first repetition -/

/-- An element repeats an earlier one, and none before it does. -/
def FirstRepeat {α : Type} (elements : List α) (a : α) : Prop :=
  ∃ before after, elements = before ++ a :: after ∧ before.Nodup ∧ a ∈ before

theorem firstRepeated?_eq_some_iff_of_seen {α : Type} [DecidableEq α] {seen elements : List α}
    {a : α} :
    firstRepeated? seen elements = some a ↔
      ∃ before after, elements = before ++ a :: after ∧ before.Nodup ∧
        (∀ b ∈ before, b ∉ seen) ∧ (a ∈ before ∨ a ∈ seen) := by
  induction elements generalizing seen with
  | nil => simp [firstRepeated?]
  | cons first rest ih =>
    rw [firstRepeated?]
    split
    · next mem =>
      constructor
      · rintro ⟨⟩
        exact ⟨[], rest, rfl, .nil, by simp, .inr mem⟩
      · rintro ⟨before, after, parts, -, unseen, -⟩
        cases before with
        | nil => exact congrArg some (List.cons.inj parts).1
        | cons b before =>
          cases (List.cons.inj parts).1
          exact absurd mem (unseen first List.mem_cons_self)
    · next fresh =>
      rw [ih]
      constructor
      · rintro ⟨before, after, rfl, distinct, unseen, again⟩
        refine ⟨first :: before, after, rfl, List.nodup_cons.mpr ⟨?_, distinct⟩, ?_, ?_⟩
        · exact fun mem => unseen first mem List.mem_cons_self
        · refine List.forall_mem_cons.mpr ⟨fresh, fun b mem seen => ?_⟩
          exact unseen b mem (List.mem_cons_of_mem _ seen)
        · simpa [or_assoc, or_left_comm] using again
      · rintro ⟨before, after, parts, distinct, unseen, again⟩
        cases before with
        | nil =>
          cases (List.cons.inj parts).1
          exact absurd (again.resolve_left List.not_mem_nil) fresh
        | cons b before =>
          obtain ⟨rfl, rfl⟩ := List.cons.inj parts
          obtain ⟨once, distinct⟩ := List.nodup_cons.mp distinct
          refine ⟨before, after, rfl, distinct, fun b mem seen => ?_, ?_⟩
          · rcases List.mem_cons.mp seen with rfl | seen
            · exact once mem
            · exact unseen b (List.mem_cons_of_mem _ mem) seen
          · simpa [or_assoc, or_left_comm] using again

theorem firstRepeated?_eq_some_iff {α : Type} [DecidableEq α] {elements : List α} {a : α} :
    firstRepeated? [] elements = some a ↔ FirstRepeat elements a := by
  simp [firstRepeated?_eq_some_iff_of_seen, FirstRepeat]

/-! ## Distinct instruction sets -/

namespace Isa

variable {isas others : List Isa} {isa : Isa}

theorem mem_distinct_iff : isa ∈ distinct isas ↔ isa ∈ isas := by
  have listed : isa ∈ all := by cases isa <;> decide
  simp [distinct, listed]

theorem length_distinct_le_one_iff :
    (distinct isas).length ≤ 1 ↔ ∃ isa, ∀ other ∈ isas, other = isa := by
  refine ⟨fun few => ?_, fun ⟨isa, uniform⟩ => length_distinct_le_one uniform⟩
  cases isas with
  | nil => exact ⟨.x86, nofun⟩
  | cons isa rest =>
    have first : isa ∈ distinct (isa :: rest) := mem_distinct_iff.mpr List.mem_cons_self
    obtain ⟨only, single⟩ :=
      List.length_eq_one_iff.mp (Nat.le_antisymm few (List.length_pos_of_mem first))
    refine ⟨only, fun other mem => ?_⟩
    rw [← mem_distinct_iff, single] at mem
    exact List.mem_singleton.mp mem

/-- A list in ascending order is known by its members. -/
theorem eq_of_sublist_all (ascending : isas.Sublist all) (ascending' : others.Sublist all)
    (members : ∀ isa, isa ∈ isas ↔ isa ∈ others) : isas = others := by
  have once : all.Nodup := by decide
  have rising : all.Pairwise fun a b => all.idxOf a < all.idxOf b := by decide
  have same : isas.Perm others :=
    (List.perm_ext_iff_of_nodup (once.sublist ascending) (once.sublist ascending')).mpr members
  refine same.eq_of_pairwise ?_ (rising.sublist ascending) (rising.sublist ascending')
  exact fun a b _ _ below above => absurd above (Nat.lt_asymm below)

end Isa

/-! ## Well-shaped configurations -/

/-- Configurations of which a processor can be made that starts on any of them. -/
structure WellShaped (configurations : List Configuration) : Prop where
  names : (configurations.map (·.name)).Nodup
  layout : ∀ first ∈ configurations, ∀ second ∈ configurations, first.slots = second.slots
  isa : ∃ isa, ∀ core ∈ configurations.flatMap (·.cores), core.isa = isa
  models : (configurations.flatMap (·.models)).Nodup

theorem WellShaped.perm {configurations others : List Configuration} (h : WellShaped configurations)
    (same : others.Perm configurations) : WellShaped others where
  names := (same.map _).nodup_iff.mpr h.names
  layout first mem second mem' := h.layout first (same.mem_iff.mp mem) second (same.mem_iff.mp mem')
  isa := by
    obtain ⟨isa, uniform⟩ := h.isa
    exact ⟨isa, fun core mem => uniform core ((same.flatMap_right _).mem_iff.mp mem)⟩
  models := (same.flatMap_right _).nodup_iff.mpr h.models

namespace Processor

variable {configurations : List Configuration} {starting : String} {reference odd : Configuration}

/-- What each error of `create` says of the configurations. Every check comes after those above it
have passed. -/
inductive Refused (configurations : List Configuration) (starting : String) :
    ProcessorError → Prop where
  | duplicateConfiguration {name : String}
      (first : FirstRepeat (configurations.map (·.name)) name) :
      Refused configurations starting (.duplicateConfiguration name)
  | unknownStarting (names : (configurations.map (·.name)).Nodup)
      (unknown : starting ∉ configurations.map (·.name)) :
      Refused configurations starting (.unknownStartingConfiguration starting)
  | slotCount {before after : List Configuration} {odd reference : Configuration}
      (names : (configurations.map (·.name)).Nodup)
      (mem : reference ∈ configurations) (starts : reference.name = starting)
      (parts : configurations = before ++ odd :: after)
      (aligned : ∀ configuration ∈ before, configuration.slots = reference.slots)
      (count : odd.slots.length ≠ reference.slots.length) :
      Refused configurations starting
        (.slotCountMismatch odd.name reference.slots.length odd.slots.length)
  | slotLayout {before after : List Configuration} {odd reference : Configuration}
      (names : (configurations.map (·.name)).Nodup)
      (mem : reference ∈ configurations) (starts : reference.name = starting)
      (parts : configurations = before ++ odd :: after)
      (aligned : ∀ configuration ∈ before, configuration.slots = reference.slots)
      (count : odd.slots.length = reference.slots.length) (slots : odd.slots ≠ reference.slots) :
      Refused configurations starting (.slotLayoutMismatch odd.name starting)
  | heterogeneousIsa {isas : List Isa} (names : (configurations.map (·.name)).Nodup)
      (known : starting ∈ configurations.map (·.name))
      (layout : ∀ first ∈ configurations, ∀ second ∈ configurations, first.slots = second.slots)
      (ascending : isas.Sublist Isa.all)
      (found : ∀ isa, isa ∈ isas ↔ ∃ core ∈ configurations.flatMap (·.cores), core.isa = isa)
      (several : 1 < isas.length) :
      Refused configurations starting (.heterogeneousIsa isas)
  | duplicateModel {model : ModelId} (names : (configurations.map (·.name)).Nodup)
      (known : starting ∈ configurations.map (·.name))
      (layout : ∀ first ∈ configurations, ∀ second ∈ configurations, first.slots = second.slots)
      (isa : ∃ isa, ∀ core ∈ configurations.flatMap (·.cores), core.isa = isa)
      (first : FirstRepeat (configurations.flatMap (·.models)) model) :
      Refused configurations starting (.duplicateModel model)

/-! ## The checks -/

theorem find?_of_mem (names : (configurations.map (·.name)).Nodup)
    (mem : reference ∈ configurations) (starts : reference.name = starting) :
    configurations.find? (·.name = starting) = some reference := by
  have known : (configurations.find? (·.name = starting)).isSome = true :=
    List.find?_isSome.mpr ⟨reference, mem, by simpa using starts⟩
  obtain ⟨other, found⟩ := Option.isSome_iff_exists.mp known
  have same : other.name = starting := by simpa using List.find?_some found
  rw [found, List.inj_on_of_nodup_map names (List.mem_of_find?_eq_some found) mem
    (same.trans starts.symm)]

theorem layoutError?_eq_none_iff :
    layoutError? reference odd = none ↔ odd.slots = reference.slots := by
  refine ⟨slots_eq_of_layoutError?_eq_none, fun same => ?_⟩
  have size : odd.size = reference.size := by
    simpa [Configuration.slots, Configuration.size] using congrArg List.length same
  simp [layoutError?, size, Configuration.sameLayout, same]

theorem layoutError?_eq_some_iff {error : ProcessorError} :
    layoutError? reference odd = some error ↔
      (odd.slots.length ≠ reference.slots.length ∧
        .slotCountMismatch odd.name reference.slots.length odd.slots.length = error) ∨
      (odd.slots.length = reference.slots.length ∧ odd.slots ≠ reference.slots ∧
        .slotLayoutMismatch odd.name reference.name = error) := by
  have size (configuration : Configuration) :
      configuration.size = configuration.slots.length := by
    rw [Configuration.slots, List.length_map, Configuration.size]
  rw [layoutError?, size, size]
  by_cases count : odd.slots.length = reference.slots.length
  · simp [count, Configuration.sameLayout]
  · simp [count]

/-- The layout goes wrong at the first configuration with other slots than the reference. -/
theorem findSome?_layoutError?_eq_some_iff {error : ProcessorError} :
    configurations.findSome? (layoutError? reference) = some error ↔
      ∃ before odd after, configurations = before ++ odd :: after ∧
        layoutError? reference odd = some error ∧
        ∀ configuration ∈ before, configuration.slots = reference.slots := by
  simp only [List.findSome?_eq_some_iff, layoutError?_eq_none_iff]

theorem layout_of_aligned (h : configurations.findSome? (layoutError? reference) = none) :
    ∀ first ∈ configurations, ∀ second ∈ configurations, first.slots = second.slots := by
  have aligned (configuration : Configuration) (mem : configuration ∈ configurations) :
      configuration.slots = reference.slots :=
    slots_eq_of_layoutError?_eq_none (List.findSome?_eq_none_iff.mp h configuration mem)
  exact fun first mem second mem' => (aligned first mem).trans (aligned second mem').symm

theorem refused_of_create {error : ProcessorError}
    (h : create configurations starting = .error error) :
    Refused configurations starting error := by
  unfold create at h
  split at h
  · next name repeated =>
    cases h
    exact .duplicateConfiguration (firstRepeated?_eq_some_iff.mp repeated)
  · next distinct =>
    have names := (firstRepeated?_eq_none_iff.mp distinct).1
    split at h
    · next missing =>
      cases h
      refine .unknownStarting names fun known => ?_
      obtain ⟨configuration, mem, starts⟩ := List.mem_map.mp known
      simpa [starts] using List.find?_eq_none.mp missing configuration mem
    · next reference found =>
      have mem := List.mem_of_find?_eq_some found
      have starts : reference.name = starting := by simpa using List.find?_some found
      have known : starting ∈ configurations.map (·.name) := List.mem_map.mpr ⟨_, mem, starts⟩
      split at h
      · next wrong =>
        cases h
        obtain ⟨before, odd, after, parts, differs, aligned⟩ :=
          findSome?_layoutError?_eq_some_iff.mp wrong
        rcases layoutError?_eq_some_iff.mp differs with ⟨count, rfl⟩ | ⟨count, slots, rfl⟩
        · exact .slotCount names mem starts parts aligned count
        · rw [starts]
          exact .slotLayout names mem starts parts aligned count slots
      · next aligned =>
        have layout := layout_of_aligned aligned
        dsimp only at h
        split at h
        · next several =>
          cases h
          refine .heterogeneousIsa names known layout List.filter_sublist (fun isa => ?_) several
          rw [Isa.mem_distinct_iff, List.mem_map]
        · next few =>
          split at h
          · next model shared =>
            cases h
            have uniform := Isa.length_distinct_le_one_iff.mp (Nat.le_of_not_lt few)
            simp only [List.forall_mem_map] at uniform
            exact .duplicateModel names known layout uniform (firstRepeated?_eq_some_iff.mp shared)
          · cases h

theorem Refused.create_eq {error : ProcessorError} (h : Refused configurations starting error) :
    create configurations starting = .error error := by
  have distinct {configurations : List Configuration}
      (names : (configurations.map (·.name)).Nodup) :
      firstRepeated? [] (configurations.map (·.name)) = none :=
    firstRepeated?_eq_none_iff.mpr ⟨names, fun _ _ => List.not_mem_nil⟩
  have aligned {reference : Configuration} (mem : reference ∈ configurations)
      (layout : ∀ first ∈ configurations, ∀ second ∈ configurations, first.slots = second.slots) :
      configurations.findSome? (layoutError? reference) = none :=
    List.findSome?_eq_none_iff.mpr fun configuration mem' =>
      layoutError?_eq_none_iff.mpr (layout configuration mem' reference mem)
  cases h with
  | duplicateConfiguration first => rw [create, firstRepeated?_eq_some_iff.mpr first]
  | unknownStarting names unknown =>
    have missing : configurations.find? (·.name = starting) = none := by
      refine List.find?_eq_none.mpr fun configuration mem => ?_
      simpa using fun starts => unknown (List.mem_map.mpr ⟨configuration, mem, starts⟩)
    rw [create, distinct names, missing]
  | slotCount names mem starts parts before count =>
    have differs := layoutError?_eq_some_iff.mpr (.inl ⟨count, rfl⟩)
    have wrong := findSome?_layoutError?_eq_some_iff.mpr ⟨_, _, _, parts, differs, before⟩
    rw [create, distinct names, find?_of_mem names mem starts]
    simp only [wrong]
  | slotLayout names mem starts parts before count slots =>
    have differs := layoutError?_eq_some_iff.mpr (.inr ⟨count, slots, rfl⟩)
    have wrong := findSome?_layoutError?_eq_some_iff.mpr ⟨_, _, _, parts, differs, before⟩
    rw [create, distinct names, find?_of_mem names mem starts]
    simp only [wrong, starts]
  | heterogeneousIsa names known layout ascending found several =>
    obtain ⟨reference, mem, starts⟩ := List.mem_map.mp known
    have listed : Isa.distinct ((configurations.flatMap (·.cores)).map (·.isa)) = _ :=
      Isa.eq_of_sublist_all List.filter_sublist ascending fun isa =>
        Isa.mem_distinct_iff.trans (List.mem_map.trans (found isa).symm)
    rw [create, distinct names, find?_of_mem names mem starts]
    simp only [aligned mem layout, listed, if_pos several]
  | duplicateModel names known layout isa first =>
    obtain ⟨reference, mem, starts⟩ := List.mem_map.mp known
    have few : (Isa.distinct ((configurations.flatMap (·.cores)).map (·.isa))).length ≤ 1 := by
      rw [Isa.length_distinct_le_one_iff]
      simpa only [List.forall_mem_map] using isa
    rw [create, distinct names, find?_of_mem names mem starts]
    simp only [aligned mem layout, if_neg (Nat.not_lt.mpr few),
      firstRepeated?_eq_some_iff.mpr first]

/-- A processor is made exactly of well-shaped configurations with the starting one among them. -/
theorem exists_create_iff :
    (∃ processor, create configurations starting = .ok processor) ↔
      WellShaped configurations ∧ starting ∈ configurations.map (·.name) := by
  constructor
  · rintro ⟨processor, made⟩
    obtain ⟨reference, distinct, found, aligned, few, unshared, -⟩ := exists_of_create made
    have mem := List.mem_of_find?_eq_some found
    have uniform := Isa.length_distinct_le_one_iff.mp few
    simp only [List.forall_mem_map] at uniform
    refine ⟨⟨(firstRepeated?_eq_none_iff.mp distinct).1, layout_of_aligned aligned, uniform,
      (firstRepeated?_eq_none_iff.mp unshared).1⟩, List.mem_map.mpr ⟨reference, mem, ?_⟩⟩
    simpa using List.find?_some found
  · rintro ⟨shaped, known⟩
    obtain ⟨reference, mem, starts⟩ := List.mem_map.mp known
    obtain ⟨isa, uniform⟩ := shaped.isa
    exact ⟨_, create_eq_ok shaped.names (find?_of_mem shaped.names mem starts)
      (fun configuration mem' => shaped.layout configuration mem' reference mem) uniform
      shaped.models⟩

/-- Every input makes a processor or is refused for one reason, and which of both it is depends
neither on the order of the configurations nor on which of them is the starting one. -/
theorem creates_iff_wellShaped (configurations : List Configuration) (starting : String) :
    ((∃ processor, create configurations starting = .ok processor) ↔
      WellShaped configurations ∧ starting ∈ configurations.map (·.name)) ∧
    (∀ others other, others.Perm configurations → starting ∈ configurations.map (·.name) →
      other ∈ configurations.map (·.name) →
      ((∃ processor, create others other = .ok processor) ↔
        ∃ processor, create configurations starting = .ok processor)) ∧
    ∀ error, create configurations starting = .error error ↔
      Refused configurations starting error := by
  refine ⟨exists_create_iff, fun others other same known known' => ?_, fun error =>
    ⟨refused_of_create, Refused.create_eq⟩⟩
  rw [exists_create_iff, exists_create_iff]
  have listed : other ∈ others.map (·.name) := (same.map _).mem_iff.mpr known'
  exact ⟨fun h => ⟨h.1.perm same.symm, known⟩, fun h => ⟨h.1.perm same, listed⟩⟩

end Processor

end Polycore
