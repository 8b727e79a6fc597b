import Polycore.Ident
import Polycore.Isa
import Polycore.Json.Reader
import Polycore.Json.Value
import Polycore.MemMode
import Polycore.Trigger

/-!
# Labels and numbers in JSON

How identifiers and the values that go by a label are written and read.
-/

namespace Polycore

def ModelId.toJson (model : ModelId) : Json :=
  .ofNat model.raw

def ModelId.reader : Json.Reader ModelId :=
  (Json.Reader.nat Word.bound32).map ModelId.mk

def Timeline.toJson (timeline : Timeline) : Json :=
  .ofNat timeline.index

def Timeline.reader : Json.Reader Timeline :=
  (Json.Reader.nat Word.bound32).map Timeline.mk

def Json.Reader.word : Json.Reader Nat :=
  .nat Word.bound64

def Json.Reader.uint64 : Json.Reader UInt64 :=
  Json.Reader.word.map UInt64.ofNat

def Isa.reader : Json.Reader Isa :=
  .label Isa.all Isa.label

def MemMode.reader : Json.Reader MemMode :=
  .label MemMode.all MemMode.label

def Trigger.reader : Json.Reader Trigger :=
  .label Trigger.all Trigger.label

end Polycore
