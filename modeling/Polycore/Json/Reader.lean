import Polycore.Json.Node
import Polycore.Json.Number

/-!
# Reading JSON

A reader takes a node and gives a value or the first fault from the left. Records are read from
objects, whose members may come in any order and may be more than are wanted, or from arrays, whose
items are the fields in order. Labels are texts; a label with a value is an object with one member.
-/

namespace Polycore.Json

/-- Reads a value off a node. -/
abbrev Reader (α : Type) := Node → Except Fault α

/-- What a reader reports of a node that is not of the kind it wants. -/
def Node.unwanted : Node → Fault
  | .flawed flaw => flaw.read
  | .number literal => if (toFloat? literal).isSome then .mismatch else .malformed
  | .string _ paired => if paired then .mismatch else .malformed
  | _ => .mismatch

namespace Reader

def null : Reader Unit
  | .null => .ok ()
  | node => .error node.unwanted

def bool : Reader Bool
  | .bool value => .ok value
  | node => .error node.unwanted

def text : Reader String
  | .string text true => .ok text
  | node => .error node.unwanted

/-- Reads a natural number below `bound`. -/
def nat (bound : Nat) : Reader Nat
  | .number literal =>
    match toNat? bound literal with
    | some n => .ok n
    | none => .error (Node.number literal).unwanted
  | node => .error node.unwanted

def float : Reader Float
  | .number literal =>
    match toFloat? literal with
    | some x => .ok x
    | none => .error .malformed
  | node => .error node.unwanted

def optional {α : Type} (reader : Reader α) : Reader (Option α)
  | .null => .ok none
  | node => (reader node).map some

def map {α β : Type} (f : α → β) (reader : Reader α) : Reader β :=
  fun node => (reader node).map f

def items {α : Type} (reader : Reader α) : Items → Except Fault (List α)
  | .closed => .ok []
  | .cut fault => .error fault
  | .item head tail =>
    match reader head with
    | .error fault => .error fault
    | .ok value => (items reader tail).map (value :: ·)

def list {α : Type} (reader : Reader α) : Reader (List α)
  | .array list => items reader list
  | node => .error node.unwanted

/-! ## Labels -/

/-- The end of an object that stands for a label. -/
def labelEnd : Members → Except Fault Unit
  | .closed => .ok ()
  | .cut fault => .error fault
  | _ => .error .malformed

/-- Reads a label by its cases. A case takes the value that comes with the label, if one does. -/
def cases {α : Type} (cases : List (String × (Option Node → Except Fault α))) : Reader α
  | .string label paired =>
    if paired then
      match cases.lookup label with
      | some read => read none
      | none => .error .mismatch
    else .error .malformed
  | .object (.member label paired value tail) =>
    if paired then
      match cases.lookup label with
      | none => .error .mismatch
      | some read =>
        match read (some value) with
        | .error fault => .error fault
        | .ok a => (labelEnd tail).map fun () => a
    else .error .malformed
  | .object (.stray read _) => .error read
  | .object _ => .error .malformed
  | .flawed flaw => .error flaw.readText
  | _ => .error .malformed

/-- The case of a label without a value; `null` counts as none. -/
def plain {α : Type} (a : α) : Option Node → Except Fault α
  | none => .ok a
  | some node => (null node).map fun () => a

/-- The case of a label with a value. -/
def carrying {α : Type} (reader : Reader α) : Option Node → Except Fault α
  | none => .error .mismatch
  | some node => reader node

/-- Reads one of some values by its label. -/
def label {α : Type} (all : List α) (name : α → String) : Reader α :=
  cases (all.map fun a => (name a, plain a))

end Reader

/-! ## Records -/

/-- The fields of a record: their names with what is wrong with a value for them, in order, and how
the record is built from the values that are there. -/
structure Fields (α : Type) where
  checks : List (String × (Node → Option Fault))
  build : List (String × Node) → Except Fault α

/-- The fault of a failed reading. -/
def fault? {α : Type} : Except Fault α → Option Fault
  | .ok _ => none
  | .error fault => some fault

namespace Fields

/-- A field that must be there. -/
def required {α : Type} (name : String) (reader : Reader α) : Fields α where
  checks := [(name, fun node => fault? (reader node))]
  build values :=
    match values.lookup name with
    | some node => reader node
    | none => .error .mismatch

/-- A field that may be missing or `null`. -/
def optional {α : Type} (name : String) (reader : Reader α) : Fields (Option α) where
  checks := [(name, fun node => fault? (reader.optional node))]
  build values :=
    match values.lookup name with
    | some node => reader.optional node
    | none => .ok none

def pure {α : Type} (a : α) : Fields α where
  checks := []
  build _ := .ok a

/-- The fields of a function and those of its argument. -/
def apply {α β : Type} (f : Fields (α → β)) (a : Fields α) : Fields β where
  checks := f.checks ++ a.checks
  build values :=
    match f.build values with
    | .error fault => .error fault
    | .ok f => (a.build values).map f

/-- The values for the fields among the members of an object. No field comes twice; other members
are passed over. -/
def ofMembers (checks : List (String × (Node → Option Fault))) (found : List (String × Node)) :
    Members → Except Fault (List (String × Node))
  | .closed => .ok found
  | .cut fault => .error fault
  | .stray read _ => .error read
  | .member key paired value tail =>
    if !paired then .error .malformed
    else
      match checks.lookup key with
      | none =>
        match value.skipFault? with
        | some fault => .error fault
        | none => ofMembers checks found tail
      | some check =>
        if (found.lookup key).isSome then .error .mismatch
        else
          match check value with
          | some fault => .error fault
          | none => ofMembers checks (found ++ [(key, value)]) tail

/-- The values for the fields as items in order. -/
def ofItems : List (String × (Node → Option Fault)) → Items →
    Except Fault (List (String × Node))
  | [], .closed => .ok []
  | [], .cut fault => .error fault
  | [], .item _ _ => .error .malformed
  | _ :: _, .closed => .error .mismatch
  | _ :: _, .cut fault => .error fault
  | (name, check) :: rest, .item head tail =>
    match check head with
    | some fault => .error fault
    | none => (ofItems rest tail).map ((name, head) :: ·)

def reader {α : Type} (fields : Fields α) : Reader α
  | .object members =>
    match ofMembers fields.checks [] members with
    | .error fault => .error fault
    | .ok values => fields.build values
  | .array items =>
    match ofItems fields.checks items with
    | .error fault => .error fault
    | .ok values => fields.build values
  | node => .error node.unwanted

end Fields

/-- Reads a text that is one JSON value. -/
def read {α : Type} (reader : Reader α) (text : String) : Except Fault α :=
  let (node, rest) := ofTokens (tokens text.toList)
  match reader node with
  | .error fault => .error fault
  | .ok a => if rest.isEmpty then .ok a else .error .malformed

end Polycore.Json
