import Polycore.Proofs.Kernel.Timelines

/-!
# Changes that stand aside

A change of a kernel stands aside if it concerns neither the objects nor the clocks nor whether the
kernel has booted (`Kernel.Aside`). Boots and assignments read nothing else, so they answer as if
the change had not been made, and what they make of the kernel is changed in the same way.
-/

namespace Polycore.Kernel

/-- A change that neither reads nor touches the objects, the clocks and the boot of a kernel. -/
structure Aside (f : Kernel → Kernel) : Prop where
  setObjects : ∀ kernel objects, f { kernel with objects } = { f kernel with objects }
  setClocks : ∀ kernel clocks, f { kernel with clocks } = { f kernel with clocks }
  setBooted : ∀ kernel booted, f { kernel with booted } = { f kernel with booted }

namespace Aside

variable {f : Kernel → Kernel} (aside : Aside f) (kernel : Kernel)

include aside

theorem objects : (f kernel).objects = kernel.objects :=
  (congrArg Kernel.objects (aside.setObjects kernel kernel.objects)).trans rfl

theorem clocks : (f kernel).clocks = kernel.clocks :=
  (congrArg Kernel.clocks (aside.setClocks kernel kernel.clocks)).trans rfl

theorem booted : (f kernel).booted = kernel.booted :=
  (congrArg Kernel.booted (aside.setBooted kernel kernel.booted)).trans rfl

theorem object? (model : ModelId) : (f kernel).object? model = kernel.object? model := by
  rw [Kernel.object?, aside.objects, Kernel.object?]

theorem startError? (model : ModelId) :
    (f kernel).startError? model = kernel.startError? model := by
  rw [Kernel.startError?, aside.object?, Kernel.startError?]

theorem owner? (model : ModelId) (timeline : Timeline) :
    (f kernel).owner? model timeline = kernel.owner? model timeline := by
  have stands (other : ModelId) : (f kernel).timeline? other = kernel.timeline? other := by
    rw [timeline?, aside.object?, timeline?]
  simp only [Kernel.owner?, aside.objects, stands]

theorem modifyObject (model : ModelId) (change : CoreObject → CoreObject) :
    (f kernel).modifyObject model change = f (kernel.modifyObject model change) := by
  rw [Kernel.modifyObject, aside.objects]
  exact (aside.setObjects kernel _).symm

theorem startAll (active : List ModelId) :
    (f kernel).startAll active = f (kernel.startAll active) := by
  induction active generalizing kernel with
  | nil => rfl
  | cons model rest ih =>
    refine Eq.trans ?_ (ih (kernel.modifyObject model (·.setArch (some {}))))
    rw [← aside.modifyObject]
    rfl

theorem boot (active : List ModelId) :
    (f kernel).boot active = Prod.map id f (kernel.boot active) := by
  have checked : active.findSome? (f kernel).startError? = active.findSome? kernel.startError? :=
    congrArg active.findSome? (funext (aside.startError? kernel))
  rw [Kernel.boot, Kernel.boot, checked, aside.booted]
  split
  · rfl
  · split
    · rfl
    · change (_, { (f kernel).startAll active with booted := true }) = _
      rw [aside.startAll, ← aside.setBooted]
      rfl

theorem assignTimeline (model : ModelId) (timeline : Timeline) :
    (f kernel).assignTimeline model timeline =
      Prod.map id f (kernel.assignTimeline model timeline) := by
  rw [Kernel.assignTimeline, Kernel.assignTimeline, aside.object?, aside.owner?]
  cases kernel.object? model with
  | none => rfl
  | some found =>
    dsimp only
    split
    · rfl
    · rw [aside.modifyObject, aside.clocks, ← aside.setClocks]
      rfl

end Aside

end Polycore.Kernel
