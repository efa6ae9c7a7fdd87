import SchemaNodes.Node.Document
import SchemaNodes.Proofs.Node.Operation

/-!
# Procedures

What a caller does with a node, as data: a tree of operations, whose blocks are procedures
themselves. At every step a procedure goes on as what has happened so far suggests, so that it may
count, repeat, try something else after an error, or act on the documents of its items and answers;
and it keeps the items that its blocks are given, to use them as arguments wherever it likes. That
is all it can do with them: how an item is represented stays out of its sight.

A procedure has no means of its own. `Procedure.run` hands every operation to the library, and what
it remembers is the state that the library threads through its blocks. What it is told
(`Memory.events`) is therefore a full account of the run, operation by operation and block by block.
-/

namespace SchemaNodes

namespace Procedure

/-- An argument as a procedure gives it. -/
inductive Operand where
  /-- A value that is known in advance. -/
  | value (value : Value)
  /-- The item that stands at a place among all that blocks have been given so far. -/
  | item (place : Nat)
  /-- A list of arguments. -/
  | list (operands : List Operand)

mutual

/-- The value of an argument. An item that has not been given yet counts as null. -/
def Operand.eval (items : List Value) : Operand → Value
  | .value value => value
  | .item place => items.getD place (.json .null)
  | .list operands => .list (evalAll items operands)

/-- The values of arguments. -/
def evalAll (items : List Value) : List Operand → List Value
  | [] => []
  | operand :: rest => operand.eval items :: evalAll items rest

end

/-- What is asked for in an operation, apart from its block. -/
inductive Form where
  | invoke (operands : List Operand)
  /-- A call with a block. -/
  | configure (operands : List Operand)
  | query
  | set (operand : Operand)
  | append (operands : List Operand)
  | build
  | each (operands : List Operand)

/-- What a procedure is told about its run. Values are told by their documents. -/
inductive Event where
  /-- A block begins on a child of the kind, for the item if there is one. -/
  | entered (kind : String) (item? : Option Json)
  /-- An operation has ended, with the slot that it answers with, if any, or with an error. -/
  | answered (result : Except BuildError (Option Json))
  /-- There is no child to go on with. -/
  | noChild

/-- What a procedure remembers. -/
structure Memory where
  /-- What it has been told, in order. -/
  events : List Event
  /-- The items that its blocks have been given, in order. -/
  items : List Value

namespace Memory

/-- Nothing has happened yet. -/
def start : Memory := ⟨[], []⟩

/-- Adds an event. -/
def note (memory : Memory) (event : Event) : Memory :=
  { memory with events := memory.events ++ [event] }

/-- The memory with which a block begins. -/
def enter (memory : Memory) (child : Node) (item? : Option Value) : Memory :=
  ⟨memory.events ++ [.entered child.kindName (item?.map Value.toJson)],
    memory.items ++ item?.toList⟩

/-- The memory when an operation has ended. -/
def answer (memory : Memory) (result : Except BuildError (Option Slot)) : Memory :=
  memory.note (.answered (result.map fun slot? => slot?.map Slot.toJson))

end Memory

/-- The operation of a form, with a block where the form takes one. -/
def Form.operation (items : List Value) (block : Block Memory) : Form → Operation Memory
  | .invoke operands => .invoke (evalAll items operands) none
  | .configure operands => .invoke (evalAll items operands) (some block)
  | .query => .query
  | .set operand => .set (operand.eval items)
  | .append operands => .append (evalAll items operands)
  | .build => .build fun child memory => block child none memory
  | .each operands =>
    .each (evalAll items operands) fun child item memory => block child (some item) memory

/-- Acts on a child with the memory that the block begins with. -/
def onChild (act : List Event → Node → Memory → Outcome Memory Unit) : Block Memory :=
  fun child item? memory =>
    let entered := memory.enter child item?
    act entered.events child entered

/-- Goes on after what has been done to a child, if there was one. -/
def afterChild (next : List Event → Node → Memory → Outcome Memory Unit) (node : Node)
    (memory : Memory) : Option (Outcome Memory Unit) → Outcome Memory Unit
  | some outcome =>
    let told := outcome.state.answer (outcome.result.map fun _ => none)
    next told.events outcome.node told
  | none =>
    let told := memory.note .noChild
    next told.events node told

end Procedure

open Procedure in
/-- What to do with a node. -/
inductive Procedure where
  /-- Ends, as a block does or as a whole. -/
  | finish (result : Except BuildError Unit)
  /-- An operation on the attribute that a name leads to, with the block if its form takes one. -/
  | operate (name : String) (form : Form) (block next : List Event → Procedure)
  /-- A procedure for the child that a name leads to. -/
  | inside (name : String) (inner next : List Event → Procedure)

namespace Procedure

/-- Runs a procedure on a node. -/
def run : Procedure → Node → Memory → Outcome Memory Unit
  | .finish result, node, memory => ⟨node, result, memory⟩
  | .operate name form block next, node, memory =>
    let operation := form.operation memory.items (onChild fun events => (block events).run)
    let outcome := operation.run node name memory
    let told := outcome.state.answer outcome.result
    (next told.events).run outcome.node told
  | .inside name inner next, node, memory =>
    let block := onChild fun events => (inner events).run
    afterChild (fun events => (next events).run) node memory
      (node.withChild name (fun child memory => block child none memory) memory)

end Procedure

end SchemaNodes
