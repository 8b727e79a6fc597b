import Polycore.Json.Labels
import Polycore.Proofs.Json.Pretty
import Polycore.Proofs.Lookup

/-!
# Readers and what was written for them

Laws of the readers, one for each way to put them together. A reader that reads a written form gives
the value back (`Reader.Reads`). The fields of a record come to an outcome on the members that were
written for them, some of which may be left out (`Fields.Builds`). And whatever a reader gives has
the properties that its parts grant (`Reader.Yields`, `Fields.Yields`).
-/

namespace Polycore.Json

variable {α β : Type}

/-! ## Reading back -/

namespace Reader

/-- The reader gives a value back from a written form. -/
structure Reads (reader : Reader α) (written : Json) (a : α) : Prop where
  regular : written.Regular
  read : reader written.node = .ok a

theorem Reads.map {reader : Reader α} {written : Json} {a : α} (h : reader.Reads written a)
    (f : α → β) : (reader.map f).Reads written (f a) := by
  refine ⟨h.regular, ?_⟩
  rw [Reader.map, h.read]
  rfl

theorem reads_nat {bound n : Nat} (h : n < bound) : (nat bound).Reads (.ofNat n) n := by
  refine ⟨regular_ofNat n, ?_⟩
  have value : toNat? bound (.ofNat n) = some n := by
    change (some (Numeral.value (Numeral.write n))).filter (· < bound) = some n
    rw [Numeral.value_write]
    exact Option.filter_some_pos (decide_eq_true h)
  rw [ofNat, node, nat, value]

theorem reads_uint64 (n : UInt64) : uint64.Reads (.ofNat n.toNat) n := by
  have word : word.Reads (.ofNat n.toNat) n.toNat := reads_nat n.toNat_lt
  have read := word.map UInt64.ofNat
  rwa [UInt64.ofNat_toNat] at read

theorem reads_bool (value : Bool) : bool.Reads (.bool value) value :=
  ⟨.bool value, rfl⟩

theorem reads_text (value : String) : text.Reads (.string value) value :=
  ⟨.string value, rfl⟩

theorem reads_label {all : List α} {name : α → String} (distinct : (all.map name).Nodup) {a : α}
    (mem : a ∈ all) : (label all name).Reads (.string (name a)) a := by
  refine ⟨.string _, ?_⟩
  have keys : (all.map fun a => (name a, plain a)).map (·.1) = all.map name := List.map_map
  have entry : (name a, plain a) ∈ all.map fun a => (name a, plain a) := List.mem_map_of_mem mem
  have found := lookup_of_mem (keys ▸ distinct) entry
  simp only at found
  rw [label, node, cases, if_pos rfl, found]
  rfl

theorem items_itemNodes {reader : Reader α} {write : α → Json} {values : List α}
    (h : ∀ value ∈ values, reader.Reads (write value) value) :
    items reader (itemNodes (values.map write)) = .ok values := by
  induction values with
  | nil => rfl
  | cons value values ih =>
    rw [List.forall_mem_cons] at h
    rw [List.map_cons, itemNodes, items, h.1.read, ih h.2]
    rfl

theorem reads_list {reader : Reader α} {write : α → Json} {values : List α}
    (h : ∀ value ∈ values, reader.Reads (write value) value) :
    reader.list.Reads (.array (values.map write)) values := by
  refine ⟨.array ?_, ?_⟩
  · exact List.forall_mem_map.mpr fun value mem => (h value mem).regular
  · exact items_itemNodes h

theorem reads_modelId {model : ModelId} (h : model.raw < Word.bound32) :
    ModelId.reader.Reads model.toJson model :=
  (reads_nat h).map ModelId.mk

theorem reads_timeline {timeline : Timeline} (h : timeline.index < Word.bound32) :
    Timeline.reader.Reads timeline.toJson timeline :=
  (reads_nat h).map Timeline.mk

end Reader

/-! ## Records -/

theorem ofMembers_memberNodes {checks : List (String × (Node → Option Fault))}
    {members : List (String × Json)} (found : List (String × Node))
    (distinct : (found.map (·.1) ++ members.map (·.1)).Nodup)
    (passes : ∀ member ∈ members, ∃ check, checks.lookup member.1 = some check ∧
      check member.2.node = none) :
    Fields.ofMembers checks found (memberNodes members) =
      .ok (found ++ members.map fun member => (member.1, member.2.node)) := by
  induction members generalizing found with
  | nil => exact congrArg Except.ok (List.append_nil found).symm
  | cons member members ih =>
    obtain ⟨key, value⟩ := member
    rw [List.forall_mem_cons] at passes
    obtain ⟨⟨check, known, passed⟩, rest⟩ := passes
    have fresh : found.lookup key = none := by
      refine lookup_eq_none_of_not_mem fun mem => ?_
      exact (List.nodup_append'.mp distinct).2.2 mem List.mem_cons_self
    have further : ((found ++ [(key, value.node)]).map (·.1) ++ members.map (·.1)).Nodup := by
      rw [List.map_append, List.append_assoc]
      exact distinct
    rw [memberNodes, Fields.ofMembers, known]
    simp only [fresh, passed]
    refine (ih _ further rest).trans ?_
    rw [List.append_assoc]
    rfl

namespace Fields

/-- What the fields of a record come to on members that were written for them, in the order of the
fields. A field may have no member. -/
structure Builds (fields : Fields α) (members : List (String × Json)) (outcome : Except Fault α) :
    Prop where
  regular : ∀ member ∈ members, member.2.Regular
  named : (members.map (·.1)).Sublist (fields.checks.map (·.1))
  passes : ∀ member ∈ members, ∃ check, (member.1, check) ∈ fields.checks ∧
    check member.2.node = none
  build : (fields.checks.map (·.1)).Nodup → ∀ values : List (String × Node),
    (∀ member ∈ members, values.lookup member.1 = some member.2.node) →
    (∀ name ∈ fields.checks.map (·.1), name ∉ members.map (·.1) → values.lookup name = none) →
    fields.build values = outcome

theorem builds_pure (a : α) : (pure a).Builds [] (.ok a) :=
  ⟨nofun, .slnil, nofun, fun _ _ _ _ => rfl⟩

theorem builds_required {reader : Reader α} {written : Json} {a : α} (name : String)
    (h : reader.Reads written a) : (required name reader).Builds [(name, written)] (.ok a) where
  regular := List.forall_mem_singleton.mpr h.regular
  named := .refl _
  passes := by
    refine List.forall_mem_singleton.mpr ⟨_, List.mem_singleton_self _, ?_⟩
    rw [h.read]
    rfl
  build := by
    intro _ values found _
    have here := found _ (List.mem_singleton_self _)
    simp only [required, here, h.read]

/-- A field that must be there is missed. -/
theorem builds_missing (name : String) (reader : Reader α) :
    (required name reader).Builds [] (.error .mismatch) where
  regular := nofun
  named := List.nil_sublist _
  passes := nofun
  build := by
    intro _ values _ missing
    have here := missing name (List.mem_singleton_self _) List.not_mem_nil
    simp only [required, here]

/-- A list that is left out when it is empty, though its field must be there. -/
theorem builds_inhabited {reader : Reader α} {write : α → Json} {values : List α} (name : String)
    (h : ∀ value ∈ values, reader.Reads (write value) value) :
    (required name reader.list).Builds
      (if values.isEmpty then [] else [(name, .array (values.map write))])
      (if values.isEmpty then .error .mismatch else .ok values) := by
  cases values with
  | nil => exact builds_missing name reader.list
  | cons value values => exact builds_required name (Reader.reads_list h)

/-- A field that may be missing is written for a value only; `null` stands for none. -/
theorem builds_optional {reader : Reader α} {write : α → Json} {value : Option α} (name : String)
    (h : ∀ a ∈ value, reader.Reads (write a) a) (solid : ∀ a ∈ value, (write a).node ≠ .null) :
    (optional name reader).Builds (value.map fun a => (name, write a)).toList (.ok value) := by
  cases value with
  | none =>
    refine ⟨nofun, List.nil_sublist _, nofun, fun _ values _ missing => ?_⟩
    have here := missing name (List.mem_singleton_self _) List.not_mem_nil
    simp only [optional, here]
  | some a =>
    have read : reader.optional (write a).node = .ok (some a) := by
      unfold Reader.optional
      split
      · next null => exact absurd null (solid a rfl)
      · rw [(h a rfl).read]
        rfl
    refine ⟨List.forall_mem_singleton.mpr (h a rfl).regular, .refl _, ?_, ?_⟩
    · refine List.forall_mem_singleton.mpr ⟨_, List.mem_singleton_self _, ?_⟩
      rw [read]
      rfl
    · intro _ values found _
      have here : values.lookup name = some (write a).node := found _ (List.mem_singleton_self _)
      simp only [optional, here, read]

/-- The fields of a function and those of its argument, each on its own members. -/
theorem Builds.apply {f : Fields (α → β)} {a : Fields α} {first second : List (String × Json)}
    {outcome : Except Fault (α → β)} {argument : Except Fault α} (hf : f.Builds first outcome)
    (ha : a.Builds second argument) :
    (f.apply a).Builds (first ++ second) (outcome.bind argument.map) where
  regular := List.forall_mem_append.mpr ⟨hf.regular, ha.regular⟩
  named := by
    rw [List.map_append, Fields.apply, List.map_append]
    exact hf.named.append ha.named
  passes := by
    refine List.forall_mem_append.mpr ⟨fun member mem => ?_, fun member mem => ?_⟩
    · obtain ⟨check, known, passed⟩ := hf.passes member mem
      exact ⟨check, List.mem_append_left _ known, passed⟩
    · obtain ⟨check, known, passed⟩ := ha.passes member mem
      exact ⟨check, List.mem_append_right _ known, passed⟩
  build := by
    intro distinct values found missing
    simp only [Fields.apply, List.map_append, List.mem_append, not_or] at distinct missing
    obtain ⟨distinctFirst, distinctSecond, apart⟩ := List.nodup_append'.mp distinct
    rw [List.forall_mem_append] at found
    have built := hf.build distinctFirst values found.1 fun name known absent =>
      missing name (.inl known) ⟨absent, fun other => apart known (ha.named.subset other)⟩
    have argument := ha.build distinctSecond values found.2 fun name known absent =>
      missing name (.inr known) ⟨fun other => apart (hf.named.subset other) known, absent⟩
    rw [Fields.apply]
    simp only [built, argument]
    cases outcome <;> rfl

/-- The reader of a record comes to what its fields come to. -/
theorem Builds.reader_node {fields : Fields α} {members : List (String × Json)}
    {outcome : Except Fault α} (h : fields.Builds members outcome)
    (distinct : (fields.checks.map (·.1)).Nodup) :
    fields.reader (Json.object members).node = outcome := by
  have once : (members.map (·.1)).Nodup := h.named.nodup distinct
  have passes : ∀ member ∈ members, ∃ check, fields.checks.lookup member.1 = some check ∧
      check member.2.node = none := by
    intro member mem
    obtain ⟨check, known, passed⟩ := h.passes member mem
    exact ⟨check, lookup_of_mem distinct known, passed⟩
  have taken := ofMembers_memberNodes [] (by simpa using once) passes
  have keys : (members.map fun member => (member.1, member.2.node)).map (·.1) =
      members.map (·.1) := List.map_map
  rw [node, reader, taken]
  refine h.build distinct _ (fun member mem => ?_) fun name _ absent => ?_
  · have entry := List.mem_map_of_mem (f := fun member => (member.1, member.2.node)) mem
    exact lookup_of_mem (keys ▸ once) entry
  · exact lookup_eq_none_of_not_mem (keys ▸ absent)

theorem Builds.reads {fields : Fields α} {members : List (String × Json)} {a : α}
    (h : fields.Builds members (.ok a)) (distinct : (fields.checks.map (·.1)).Nodup) :
    fields.reader.Reads (.object members) a :=
  ⟨.object h.regular, h.reader_node distinct⟩

end Fields

/-! ## What readers give -/

theorem exists_of_map_eq_ok {f : α → β} {outcome : Except Fault α} {b : β}
    (h : outcome.map f = .ok b) : ∃ a, outcome = .ok a ∧ f a = b := by
  cases outcome with
  | error fault => cases h
  | ok a => exact ⟨a, rfl, Except.ok.inj h⟩

namespace Reader

/-- Whatever the reader gives has a property. -/
def Yields (reader : Reader α) (P : α → Prop) : Prop :=
  ∀ node a, reader node = .ok a → P a

variable {reader : Reader α} {P : α → Prop}

theorem yields_any (reader : Reader α) : reader.Yields fun _ => True :=
  fun _ _ _ => trivial

theorem yields_nat (bound : Nat) : (nat bound).Yields (· < bound) := by
  intro node n h
  unfold nat at h
  split at h
  · split at h
    · next found =>
      cases h
      unfold toNat? at found
      split at found
      · exact of_decide_eq_true (Option.filter_eq_some_iff.mp found).2
      · cases found
    · cases h
  · cases h

theorem Yields.map {Q : β → Prop} {f : α → β} (h : reader.Yields P) (given : ∀ a, P a → Q (f a)) :
    (reader.map f).Yields Q := by
  intro node b read
  obtain ⟨a, first, rfl⟩ := exists_of_map_eq_ok read
  exact given a (h node a first)

theorem yields_modelId : ModelId.reader.Yields (·.raw < Word.bound32) :=
  (yields_nat Word.bound32).map fun _ => id

theorem yields_timeline : Timeline.reader.Yields (·.index < Word.bound32) :=
  (yields_nat Word.bound32).map fun _ => id

theorem yields_items (h : reader.Yields P) :
    ∀ (found : Items) (values : List α), items reader found = .ok values → ∀ a ∈ values, P a
  | .closed, values, read => by
    cases read
    exact nofun
  | .cut fault, values, read => by cases read
  | .item head tail, values, read => by
    rw [items] at read
    split at read
    · cases read
    · next first got =>
      obtain ⟨others, rest, rfl⟩ := exists_of_map_eq_ok read
      exact List.forall_mem_cons.mpr ⟨h head first got, yields_items h tail others rest⟩

theorem Yields.list (h : reader.Yields P) : reader.list.Yields fun values => ∀ a ∈ values, P a := by
  intro node values read
  unfold Reader.list at read
  split at read
  · next found => exact yields_items h found values read
  · cases read

theorem Yields.optional (h : reader.Yields P) :
    reader.optional.Yields fun value => ∀ a ∈ value, P a := by
  intro node value read
  unfold Reader.optional at read
  split at read
  · cases read
    exact nofun
  · obtain ⟨a, first, rfl⟩ := exists_of_map_eq_ok read
    intro b mem
    cases mem
    exact h node a first

end Reader

namespace Fields

/-- Whatever is built from the fields has a property. -/
def Yields (fields : Fields α) (P : α → Prop) : Prop :=
  ∀ values a, fields.build values = .ok a → P a

variable {reader : Reader α} {P : α → Prop}

theorem yields_pure {a : α} (h : P a) : (pure a).Yields P := by
  intro values b built
  cases built
  exact h

theorem yields_required (h : reader.Yields P) (name : String) :
    (required name reader).Yields P := by
  intro values a built
  simp only [required] at built
  split at built
  · next node _ => exact h node a built
  · cases built

theorem yields_optional (h : reader.Yields P) (name : String) :
    (optional name reader).Yields fun value => ∀ a ∈ value, P a := by
  intro values a built
  simp only [optional] at built
  split at built
  · next node _ => exact h.optional node a built
  · cases built
    exact nofun

/-- A function of what a field gives has a property if its values at all that the field may give
have it. -/
theorem Yields.apply {Q : β → Prop} {f : Fields (α → β)} {a : Fields α}
    (hf : f.Yields fun f => ∀ a, P a → Q (f a)) (ha : a.Yields P) : (f.apply a).Yields Q := by
  intro values b built
  simp only [Fields.apply] at built
  split at built
  · cases built
  · next g got =>
    obtain ⟨a, argument, rfl⟩ := exists_of_map_eq_ok built
    exact hf values g got a (ha values a argument)

theorem Yields.record {fields : Fields α} (h : fields.Yields P) : fields.reader.Yields P := by
  intro node a read
  unfold Fields.reader at read
  split at read
  · split at read
    · cases read
    · next values _ => exact h values a read
  · split at read
    · cases read
    · next values _ => exact h values a read
  · cases read

end Fields

/-- What is read from a text has the properties that its reader grants. -/
theorem Reader.Yields.of_read {reader : Reader α} {P : α → Prop} (h : reader.Yields P)
    {text : String} {a : α} (read : Json.read reader text = .ok a) : P a := by
  simp only [Json.read] at read
  split at read
  · cases read
  · next b got =>
    split at read
    · cases read
      exact h _ a got
    · cases read

end Polycore.Json
