import SchemaNodes.Node.Call
import SchemaNodes.Node.Document
import SchemaNodes.Script.Basic

/-!
# Running scripts

`Step.run` carries out one step on a node and `Step.runAll` a script. A step that fails ends the
script it stands in, and the error goes on through the call whose block the script is, unless the
step is attempted. A step that is refused is passed over. Variables live through the whole run; the
node of a variable that a script is run on is out of sight until the script ends.
-/

namespace SchemaNodes

/-- Nodes by variable. -/
abbrev Variables := Dict Node

mutual

/-- The value of an argument. -/
def Argument.value? (item? : Option Value) (store : Variables) :
    Argument → Except Refusal Value
  | .value value => .ok value
  | .list items => do return .list (← argumentValues item? store items)
  | .var name => match store.find? name with
    | some node => .ok (.node node)
    | none => .error .noVariable
  | .item => match item? with
    | some item => .ok item
    | none => .error .noItem
  | .unknown => .error .unknownArgument

/-- The values of arguments. -/
def argumentValues (item? : Option Value) (store : Variables) :
    List Argument → Except Refusal (List Value)
  | [] => .ok []
  | a :: rest => do
    let value ← a.value? item? store
    return value :: (← argumentValues item? store rest)

end

/-- What a step leads to. -/
structure StepOutcome where
  node : Node
  store : Variables
  answer : Answer

/-- What a script leads to: the answers of the steps it came to, and the error that ended it. -/
structure ScriptOutcome where
  node : Node
  store : Variables
  answers : List Answer
  error? : Option BuildError

/-- The error of a result. -/
def errorOf? {α : Type} : Except BuildError α → Option BuildError
  | .error error => some error
  | .ok _ => none

namespace ScriptOutcome

/-- Whether the script came to its end. -/
def result (outcome : ScriptOutcome) : Except BuildError Unit :=
  match outcome.error? with
  | some error => .error error
  | none => .ok ()

/-- The run of a block whose script led to the outcome, added to the runs before it. -/
def asRun (outcome : ScriptOutcome) (item? : Option Value) (runs : List Run) :
    Outcome (Variables × List Run) Unit :=
  ⟨outcome.node, outcome.result,
    (outcome.store, runs ++ [.mk item? outcome.node.kindName outcome.answers])⟩

end ScriptOutcome

namespace Step

/-- The outcome of a step that changes nothing. -/
def tell (node : Node) (store : Variables) (answer : Answer) : StepOutcome :=
  ⟨node, store, answer⟩

/-- The outcome of an operation without block. -/
def plain (store : Variables) (outcome : Outcome Unit Unit) : StepOutcome :=
  ⟨outcome.node, store, match outcome.result with
    | .ok () => .done
    | .error error => .failed error⟩

/-- The answer of a step whose arguments have values, or its refusal. -/
def withValues {α : Type} (node : Node) (store : Variables) (values : Except Refusal α)
    (go : α → StepOutcome) : StepOutcome :=
  match values with
  | .ok values => go values
  | .error refusal => tell node store (.refused refusal)

/-- Calls an attribute without a block. -/
def runInvoke (node : Node) (store : Variables) (name : String) (values : List Value) :
    StepOutcome :=
  let outcome := node.invoke (σ := Unit) name values none ()
  ⟨outcome.node, store, match outcome.result with
    | .ok slot? => .called slot? values.isEmpty
    | .error error => .failed error⟩

/-- Makes the node of a variable. -/
def runCreate (registries : List Registry) (node : Node) (store : Variables)
    (var type : String) (registry : Nat) : StepOutcome :=
  match (registries.getD registry default).instantiate type with
  | .ok made => ⟨node, store.insert var made, .created made.kindId⟩
  | .error error => tell node store (.failed error)

mutual

/-- Carries out a step on a node. -/
def run (registries : List Registry) (step : Step) (node : Node) (item? : Option Value)
    (store : Variables) : StepOutcome :=
  match step with
  | .invoke name values =>
    withValues node store (argumentValues item? store values) fun values =>
      runInvoke node store name values
  | .invokeWith name values block =>
    withValues node store (argumentValues item? store values) fun values =>
      let outcome := node.invoke name values
        (some fun child item? (vars, runs) =>
          (runAll registries block child item? vars).asRun item? runs) (store, [])
      ⟨outcome.node, outcome.state.1, .configured outcome.result outcome.state.2⟩
  | .build name block =>
    let outcome := node.build name
      (fun child (vars, runs) => (runAll registries block child none vars).asRun none runs)
      (store, [])
    ⟨outcome.node, outcome.state.1, .built (errorOf? outcome.result) outcome.state.2⟩
  | .each name values block =>
    withValues node store (argumentValues item? store values) fun values =>
      let outcome := node.each name values
        (fun child item (vars, runs) =>
          (runAll registries block child (some item) vars).asRun (some item) runs)
        (store, [])
      ⟨outcome.node, outcome.state.1, .spread (errorOf? outcome.result) outcome.state.2⟩
  | .set name value =>
    withValues node store (value.value? item? store) fun value =>
      plain store (node.set name value)
  | .append name values =>
    withValues node store (argumentValues item? store values) fun values =>
      plain store (node.append name values)
  | .query name => tell node store (match node.query name with
    | .ok slot? => .found slot?
    | .error error => .failed error)
  | .attr name => tell node store (.read (node.attr? name))
  | .child name block =>
    match node.child? name with
    | none => tell node store .noChild
    | some found =>
      let outcome := runAll registries block found none store
      ⟨node.setChild name outcome.node, outcome.store, .inside outcome.error? outcome.answers⟩
  | .create var type registry => runCreate registries node store var type registry
  | .save var => ⟨node, store.insert var node, .done⟩
  | .compare var => tell node store (match store.find? var with
    | some other => .compared (node.same other)
    | none => .refused .noVariable)
  | .visit var block =>
    match store.find? var with
    | none => tell node store (.refused .noVariable)
    | some other =>
      let outcome := runAll registries block other none (store.erase var)
      ⟨node, outcome.store.insert var outcome.node,
        .visited outcome.error? outcome.answers outcome.node⟩
  | .document => tell node store (.document node)
  | .text format => tell node store (.text (node.render format))
  | .describe => tell node store (.description node)
  | .attempt step => run registries step node item? store
  | .unknown => tell node store (.refused .unknownStep)

/-- Carries out the steps of a script on a node, up to the first that fails. -/
def runAll (registries : List Registry) (steps : List Step) (node : Node) (item? : Option Value)
    (store : Variables) : ScriptOutcome :=
  match steps with
  | [] => ⟨node, store, [], none⟩
  | step :: rest =>
    let outcome := run registries step node item? store
    match step, outcome.answer.error? with
    | .attempt _, _ | _, none =>
      let after := runAll registries rest outcome.node item? outcome.store
      { after with answers := outcome.answer :: after.answers }
    | _, some error => ⟨outcome.node, outcome.store, [outcome.answer], some error⟩

end

/-- Carries out steps on a node one by one, whether they fail or not: the answers, each with the
node behind it. -/
def trace (registries : List Registry) :
    List Step → Node → Variables → List (Answer × Node)
  | [], _, _ => []
  | step :: rest, node, store =>
    let outcome := run registries step node none store
    (outcome.answer, outcome.node) :: trace registries rest outcome.node outcome.store

end Step

end SchemaNodes
