import SchemaNodes.Node.Basic

/-!
# Calls

An attribute is changed by calling it: with values, with a block that configures a child, or with
both. A scalar attribute takes the first value, or a fresh child when there is none, in place of
what it held. A list attribute adds: the values with lists among them spliced in, or one fresh child
for each value when there is a block, or one fresh child for a block alone; without values and block
it is only looked at.

Blocks carry a state from run to run. A call that is refused before a block runs leaves the node as
it was; a block that fails ends the call, and what was done up to there stays.
-/

namespace SchemaNodes

/-- What an operation leads to: the node afterwards, its answer or the reason why it failed, and the
state that was handed through. -/
structure Outcome (σ α : Type) where
  node : Node
  result : Except BuildError α
  state : σ

/-- Configures a child, for an item or for none. -/
abbrev Block (σ : Type) := Node → Option Value → σ → Outcome σ Unit

/-- Splices lists into the values around them, one level deep: positional lists and leaves that are
arrays alike. -/
def splice : List Value → List Value
  | [] => []
  | .list items :: rest => items ++ splice rest
  | .json (.array items) :: rest => items.map .json ++ splice rest
  | other :: rest => other :: splice rest

namespace Node

/-- How a node is named that has no place under an attribute. -/
def foundName (node child : Node) : String :=
  if child.registry = node.registry then child.kindName
  else child.kindName ++ " from another registry"

/-- Refuses a node of another kind or registry as a value of an attribute; leaves and lists are
trusted. -/
def checkValue (node : Node) (a : Attribute) : Value → Except BuildError Unit
  | .node child =>
    if child.registry = node.registry && child.kindId == a.target then .ok ()
    else .error (.typeMismatch a.name (node.registry.kind a.target).name (node.foundName child))
  | _ => .ok ()

/-- Refuses the first value that has no place under an attribute. -/
def checkValues (node : Node) (a : Attribute) : List Value → Except BuildError Unit
  | [] => .ok ()
  | value :: rest => do
    node.checkValue a value
    node.checkValues a rest

/-- The outcome of an operation that is refused. -/
def refuse {σ α : Type} (node : Node) (error : BuildError) (state : σ) : Outcome σ α :=
  ⟨node, .error error, state⟩

/-- The outcome of a call that has left the node as given: the slot of the attribute. -/
def answer {σ : Type} (node : Node) (a : Attribute) (result : Except BuildError Unit) (state : σ) :
    Outcome σ (Option Slot) :=
  ⟨node, result.map fun _ => node.slot? a.name, state⟩

/-- The value that a call installs under a scalar attribute. -/
def scalarValue (node : Node) (a : Attribute) : List Value → Except BuildError Value
  | value :: _ => do
    node.checkValue a value
    return value
  | [] => .ok (.node (node.spawn a.target))

/-- Calls a scalar attribute. -/
def callScalar {σ : Type} (node : Node) (a : Attribute) (values : List Value)
    (block? : Option (Block σ)) (state : σ) : Outcome σ (Option Slot) :=
  match node.scalarValue a values, block? with
  | .error error, _ => node.refuse error state
  | .ok value, none => (node.put a.name (.single value)).answer a (.ok ()) state
  | .ok (.node child), some block =>
    let run := block child none state
    (node.put a.name (.single (.node run.node))).answer a run.result run.state
  | .ok _, some _ => node.refuse (.notANode a.name) state

/-- What a list attribute holds before a call. -/
def listOf (node : Node) (attr : String) : List Value :=
  match node.slot? attr with
  | some (.items values) => values
  | _ => []

/-- Configures a fresh child for every item in turn, up to the first failure: the children, the
outcome and the state. -/
def configureEach {σ : Type} (child : Node) (block : Block σ) :
    List (Option Value) → σ → List Value × Except BuildError Unit × σ
  | [], state => ([], .ok (), state)
  | item :: rest, state =>
    let run := block child item state
    match run.result with
    | .error error => ([.node run.node], .error error, run.state)
    | .ok () =>
      let (children, result, state) := configureEach child block rest run.state
      (.node run.node :: children, result, state)

/-- The items of a call with a block: the values, or none for a single child. -/
def blockItems : List Value → List (Option Value)
  | [] => [none]
  | values => (splice values).map some

/-- Calls a list attribute. -/
def callList {σ : Type} (node : Node) (a : Attribute) (values : List Value)
    (block? : Option (Block σ)) (state : σ) : Outcome σ (Option Slot) :=
  match block? with
  | some block =>
    let (children, result, state) :=
      configureEach (node.spawn a.target) block (blockItems values) state
    (node.put a.name (.items (node.listOf a.name ++ children))).answer a result state
  | none =>
    if values.isEmpty then node.answer a (.ok ()) state
    else match node.checkValues a (splice values) with
      | .error error => node.refuse error state
      | .ok () =>
        (node.put a.name (.items (node.listOf a.name ++ splice values))).answer a (.ok ()) state

/-- Calls the attribute that a name leads to; the answer is its slot afterwards. -/
def invoke {σ : Type} (node : Node) (name : String) (values : List Value)
    (block? : Option (Block σ)) (state : σ) : Outcome σ (Option Slot) :=
  match node.kind.accessor? name with
  | none => node.refuse (node.unknownAccessor name) state
  | some a =>
    if a.isList then node.callList a values block? state
    else node.callScalar a values block? state

end Node

/-- The outcome without its answer. -/
def Outcome.ignore {σ α : Type} (outcome : Outcome σ α) : Outcome σ Unit :=
  ⟨outcome.node, outcome.result.map fun _ => (), outcome.state⟩

namespace Node

/-- Assigns a scalar attribute, or adds one value to a list. -/
def set (node : Node) (name : String) (value : Value) : Outcome Unit Unit :=
  (node.invoke name [value] none ()).ignore

/-- Adds values to a list attribute as they are, one entry for each. -/
def append (node : Node) (name : String) (values : List Value) : Outcome Unit Unit :=
  match (node.kind.accessor? name).filter fun a => !a.isList with
  | some a =>
    node.refuse
      (.typeMismatch a.name (node.registry.kind a.target).name "list of values") ()
  | none => (node.invoke name [.list values] none ()).ignore

/-- Adds a child to a list, or installs one under a scalar attribute, and configures it. -/
def build {σ : Type} (node : Node) (name : String) (block : Node → σ → Outcome σ Unit) (state : σ) :
    Outcome σ Unit :=
  (node.invoke name [] (some fun child _ state => block child state) state).ignore

/-- Adds a child for every value, and configures each with its value. A run without an item, as a
scalar attribute asks for it, does nothing. -/
def each {σ : Type} (node : Node) (name : String) (values : List Value)
    (block : Node → Value → σ → Outcome σ Unit) (state : σ) : Outcome σ Unit :=
  let guarded : Block σ := fun child item? state =>
    match item? with
    | some item => block child item state
    | none => ⟨child, .ok (), state⟩
  (node.invoke name [.list values] (some guarded) state).ignore

/-- Runs an operation on the child that a name leads to, in its place. -/
def withChild {σ α : Type} (node : Node) (name : String)
    (operation : Node → σ → Outcome σ α) (state : σ) : Option (Outcome σ α) :=
  (node.child? name).map fun child =>
    let run := operation child state
    ⟨node.setChild name run.node, run.result, run.state⟩

end Node

end SchemaNodes
