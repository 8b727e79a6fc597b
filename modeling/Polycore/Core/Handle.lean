import Polycore.Core.Model
import Polycore.Ident
import Polycore.Isa

/-!
# Core handles

A handle is one core as a processor sees it: the logical slot that it occupies, the model on the
board that it stands for, and whether it is switched out.
-/

namespace Polycore

/-- One core model in a logical slot. -/
structure CoreHandle where
  slot : Nat
  isa : Isa
  model : ModelId
  descriptor : CoreModel
  accelerated : Bool
  switchedOut : Bool
  name : String
deriving BEq, Repr

namespace CoreHandle

/-- A handle in use, named after its model and its slot. -/
def create (slot : Nat) (isa : Isa) (model : ModelId) (descriptor : CoreModel) : CoreHandle :=
  { slot, isa, model, descriptor
    accelerated := descriptor.isAccelerated
    switchedOut := false
    name := descriptor.name ++ toString slot }

def withName (handle : CoreHandle) (name : String) : CoreHandle :=
  { handle with name }

/-- Switches the handle out or in, and changes nothing else. -/
def setSwitchedOut (handle : CoreHandle) (switchedOut : Bool) : CoreHandle :=
  { handle with switchedOut }

end CoreHandle

end Polycore
