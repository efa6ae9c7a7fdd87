import SchemaNodes.Json.Writer
import SchemaNodes.Node.Basic

/-!
# Scripts

Operations on a node as data: a script is a list of steps, and a step that configures a child
carries a script for it. Arguments are constants, the nodes of variables, and the item that a block
is run for. Running a script answers every step; the answers are data too.
-/

namespace SchemaNodes

/-- An argument of a step. -/
inductive Argument where
  /-- A value that is known in advance. -/
  | value (value : Value)
  /-- A list of arguments. -/
  | list (items : List Argument)
  /-- The node of a variable. -/
  | var (name : String)
  /-- The item that the block is run for. -/
  | item
  /-- An argument of no known form. -/
  | unknown
  deriving Inhabited

/-- Why a step is not carried out at all. -/
inductive Refusal where
  | unknownStep
  | unknownArgument
  | noVariable
  | noItem
  deriving DecidableEq, Repr, Inhabited

/-- The words of a refusal. -/
def Refusal.message : Refusal → String
  | .unknownStep => "unknown step"
  | .unknownArgument => "value tag"
  | .noVariable => "no such variable"
  | .noItem => "no item"

/-- A step of a script. -/
inductive Step where
  /-- Calls an attribute with values. -/
  | invoke (name : String) (values : List Argument)
  /-- Calls an attribute with values and a block. -/
  | invokeWith (name : String) (values : List Argument) (block : List Step)
  /-- Adds or installs a child and configures it. -/
  | build (name : String) (block : List Step)
  /-- Adds a child for every value and configures each. -/
  | each (name : String) (values : List Argument) (block : List Step)
  /-- Assigns a value, or adds it to a list. -/
  | set (name : String) (value : Argument)
  /-- Adds values to a list as they are. -/
  | append (name : String) (values : List Argument)
  /-- Reads a slot, and fails if the name leads nowhere. -/
  | query (name : String)
  /-- Reads a slot. -/
  | attr (name : String)
  /-- Runs a script on the child that a name leads to. -/
  | child (name : String) (block : List Step)
  /-- Makes an empty node of a type of one of the registries, and keeps it as a variable. -/
  | create (var type : String) (registry : Nat)
  /-- Keeps the node as a variable. -/
  | save (var : String)
  /-- Compares the node with that of a variable. -/
  | compare (var : String)
  /-- Runs a script on the node of a variable. -/
  | visit (var : String) (block : List Step)
  /-- Shows the document of the node. -/
  | document
  /-- Shows the text of the document. -/
  | text (format : OutputFormat)
  /-- Shows what the node is. -/
  | describe
  /-- Runs a step, and goes on if it fails. -/
  | attempt (step : Step)
  /-- A step of no known form. -/
  | unknown
  deriving Inhabited

mutual

/-- What became of a step. -/
inductive Answer where
  /-- The step was not carried out. -/
  | refused (refusal : Refusal)
  /-- The step failed. -/
  | failed (error : BuildError)
  /-- The step was carried out, and there is nothing to tell. -/
  | done
  /-- The slot after a call, and whether the call was a mere look. -/
  | called (slot? : Option Slot) (isQuery : Bool)
  /-- The slot after a call with a block, or the error, and the runs of the block. -/
  | configured (result : Except BuildError (Option Slot)) (runs : List Run)
  /-- The runs of the block of a child that was built. -/
  | built (error? : Option BuildError) (runs : List Run)
  /-- The runs of the block for every value. -/
  | spread (error? : Option BuildError) (runs : List Run)
  /-- A slot that was asked for. -/
  | found (slot? : Option Slot)
  /-- A slot that was read. -/
  | read (slot? : Option Slot)
  /-- There is no child under the name. -/
  | noChild
  /-- The answers of the steps on a child. -/
  | inside (error? : Option BuildError) (answers : List Answer)
  /-- The kind of a node that was made. -/
  | created (kindId : Nat)
  /-- Whether two nodes are equal. -/
  | compared (equal : Bool)
  /-- The answers of the steps on the node of a variable, and that node afterwards. -/
  | visited (error? : Option BuildError) (answers : List Answer) (node : Node)
  /-- The node whose document is to be shown. -/
  | document (node : Node)
  /-- The text of a document. -/
  | text (text : String)
  /-- The node that is to be described. -/
  | description (node : Node)

/-- A run of a block: its item, the kind of the child and the answers of the steps. -/
inductive Run where
  | mk (item? : Option Value) (kind : String) (answers : List Answer)

end

instance : Inhabited Answer := ⟨.done⟩

namespace Answer

/-- The error that a step failed with. -/
def error? : Answer → Option BuildError
  | .failed error => some error
  | .configured (.error error) _ => some error
  | .built error? _ => error?
  | .spread error? _ => error?
  | .inside error? _ => error?
  | .visited error? _ _ => error?
  | _ => none

end Answer

end SchemaNodes
