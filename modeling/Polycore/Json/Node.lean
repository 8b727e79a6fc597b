import Polycore.Json.Token

/-!
# JSON nodes

A node is a JSON text as a tree, up to the place where the text goes wrong. Building the tree never
fails: the flaw is a part of it, and a reader meets it when it comes to it from the left. Nothing to
the right of a flaw is ever looked at.
-/

namespace Polycore.Json

mutual

/-- A value, or what there is of it. -/
inductive Node where
  | flawed (flaw : Flaw)
  | null
  | bool (value : Bool)
  | number (literal : Decimal.Literal)
  | string (text : String) (paired : Bool)
  | array (items : Items)
  | object (members : Members)

/-- The items of an array from some place on. -/
inductive Items where
  | closed
  /-- neither a comma nor the end of the array -/
  | cut (fault : Fault)
  | item (head : Node) (tail : Items)

/-- The members of an object from some place on. -/
inductive Members where
  | closed
  /-- neither a comma nor the end of the object -/
  | cut (fault : Fault)
  /-- something else than a key, and what that is to readers of keys and to those who pass over
  them -/
  | stray (read skip : Fault)
  | member (key : String) (paired : Bool) (value : Node) (tail : Members)

end

deriving instance Repr for Node, Items, Members

/-- What stands in place of a comma or an end. -/
def cutFault : List Token → Fault
  | [] => .truncated
  | _ => .malformed

/-- The flaw of a missing colon. -/
def colonFlaw : List Token → Flaw
  | [] => .atEnd
  | _ => .junk

mutual

/-- The value at the head of some tokens, and the tokens after it. The number bounds the steps. -/
def takeValue : Nat → List Token → Node × List Token
  | 0, rest => (.flawed .atEnd, rest)
  | _ + 1, [] => (.flawed .atEnd, [])
  | _ + 1, .null :: rest => (.null, rest)
  | _ + 1, .bool value :: rest => (.bool value, rest)
  | _ + 1, .number literal :: rest => (.number literal, rest)
  | _ + 1, .string text paired :: rest => (.string text paired, rest)
  | _ + 1, .openArray :: .closeArray :: rest => (.array .closed, rest)
  | steps + 1, .openArray :: rest =>
    let (items, rest) := takeItems steps rest
    (.array items, rest)
  | _ + 1, .openObject :: .closeObject :: rest => (.object .closed, rest)
  | steps + 1, .openObject :: rest =>
    let (members, rest) := takeMembers steps rest
    (.object members, rest)
  | _ + 1, .flawed flaw :: rest => (.flawed flaw, rest)
  | _ + 1, _ :: rest => (.flawed .junk, rest)

/-- The items of an array, from one of them on. -/
def takeItems : Nat → List Token → Items × List Token
  | 0, rest => (.cut .truncated, rest)
  | steps + 1, tokens =>
    let (head, rest) := takeValue steps tokens
    match rest with
    | .closeArray :: rest => (.item head .closed, rest)
    | .comma :: rest =>
      let (tail, rest) := takeItems steps rest
      (.item head tail, rest)
    | rest => (.item head (.cut (cutFault rest)), rest)

/-- The members of an object, from one of them on. -/
def takeMembers : Nat → List Token → Members × List Token
  | 0, rest => (.cut .truncated, rest)
  | steps + 1, .string key paired :: .colon :: rest =>
    let (value, rest) := takeValue steps rest
    match rest with
    | .closeObject :: rest => (.member key paired value .closed, rest)
    | .comma :: rest =>
      let (tail, rest) := takeMembers steps rest
      (.member key paired value tail, rest)
    | rest => (.member key paired value (.cut (cutFault rest)), rest)
  | _ + 1, .string key paired :: rest =>
    (.member key paired (.flawed (colonFlaw rest)) .closed, rest)
  | _ + 1, [] => (.stray .truncated .truncated, [])
  | _ + 1, .flawed flaw :: rest => (.stray flaw.readText flaw.skipText, rest)
  | _ + 1, tokens => (.stray .malformed .malformed, tokens)

end

/-- The tree of a text, and the tokens that come after it. Every token takes at most two steps. -/
def ofTokens (tokens : List Token) : Node × List Token :=
  takeValue (2 * tokens.length + 2) tokens

mutual

/-- The first flaw that one meets who passes over a value. -/
def Node.skipFault? : Node → Option Fault
  | .flawed flaw => some flaw.skip
  | .array items => items.skipFault?
  | .object members => members.skipFault?
  | _ => none

/-- The first flaw in the items of an array. -/
def Items.skipFault? : Items → Option Fault
  | .closed => none
  | .cut fault => some fault
  | .item head tail =>
    match head.skipFault? with
    | some fault => some fault
    | none => tail.skipFault?

/-- The first flaw in the members of an object. -/
def Members.skipFault? : Members → Option Fault
  | .closed => none
  | .cut fault => some fault
  | .stray _ skip => some skip
  | .member _ _ value tail =>
    match value.skipFault? with
    | some fault => some fault
    | none => tail.skipFault?

end

end Polycore.Json
