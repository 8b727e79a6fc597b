import Polycore.Core.Model
import Polycore.Json.Labels

/-!
# Core models in JSON
-/

namespace Polycore

open Json (Fields Reader)

def OpClass.reader : Reader OpClass :=
  .label OpClass.all OpClass.label

def Stepping.reader : Reader Stepping :=
  .label Stepping.all Stepping.label

namespace Operation

def toJson (operation : Operation) : Json :=
  .object
    [("class", .string operation.opClass.label), ("latency", .ofNat operation.latency),
      ("pipelined", .bool operation.pipelined)]

/-- Reads an operation; its latency has 32 bits. -/
def reader : Reader Operation :=
  ((Fields.pure Operation.mk).apply (.required "class" OpClass.reader)
    |>.apply (.required "latency" (.nat Word.bound32))
    |>.apply (.required "pipelined" .bool)).reader

end Operation

namespace FunctionalUnit

def toJson (unit : FunctionalUnit) : Json :=
  .object
    [("name", .string unit.name), ("count", .ofNat unit.count),
      ("ops", .array (unit.operations.map Operation.toJson))]

/-- Reads a unit; its count has 32 bits. -/
def reader : Reader FunctionalUnit :=
  ((Fields.pure FunctionalUnit.mk).apply (.required "name" .text)
    |>.apply (.required "count" (.nat Word.bound32))
    |>.apply (.required "ops" (.list Operation.reader))).reader

end FunctionalUnit

namespace UnitPool

def toJson (pool : UnitPool) : Json :=
  .object [("units", .array (pool.units.map FunctionalUnit.toJson))]

def reader : Reader UnitPool :=
  ((Fields.pure UnitPool.mk).apply (.required "units" (.list FunctionalUnit.reader))).reader

end UnitPool

namespace CoreKind

/-- A kind is a label; what belongs to it comes with the label. -/
def toJson : CoreKind → Json
  | hostAccelerated factor fpFactor =>
    .object
      [("HostAccelerated",
        .object [("host_factor", .ofFloat factor), ("host_fp_factor", .ofFloat fpFactor)])]
  | outOfOrder pool => .object [("OutOfOrder", .object [("fu_pool", pool.toJson)])]
  | atomic => .string "Atomic"

/-- Reads a kind: a bare label, or an object with the label as its one field. -/
def reader : Reader CoreKind :=
  .cases
    [("HostAccelerated", Reader.carrying <|
        ((Fields.pure hostAccelerated).apply (.required "host_factor" .float)
          |>.apply (.required "host_fp_factor" .float)).reader),
      ("OutOfOrder", Reader.carrying <|
        ((Fields.pure outOfOrder).apply (.required "fu_pool" UnitPool.reader)).reader),
      ("Atomic", Reader.plain atomic)]

end CoreKind

namespace CoreModel

def toJson (model : CoreModel) : Json :=
  .object
    [("name", .string model.name), ("stepping", .string model.stepping.label),
      ("kind", model.kind.toJson)]

def reader : Reader CoreModel :=
  ((Fields.pure CoreModel.mk).apply (.required "name" .text)
    |>.apply (.required "stepping" Stepping.reader)
    |>.apply (.required "kind" CoreKind.reader)).reader

end CoreModel

end Polycore
