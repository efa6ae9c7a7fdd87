import SchemaNodes.Proofs.Node.Call

/-!
# Builder operations

The operations on a node as data: what each hands to the call of the attribute, and what it leads to
as the library carries it out. `Operation.carried` brings all of them down to one call, so that
statements about operations follow from those about the courses of a call.
-/

namespace SchemaNodes

variable {σ : Type}

/-- An operation on the attribute that a name leads to. -/
inductive Operation (σ : Type) where
  /-- Calls the attribute with values, and with a block or without. -/
  | invoke (values : List Value) (block? : Option (Block σ))
  /-- Reads the slot. -/
  | query
  /-- Assigns a value, or adds it to a list. -/
  | set (value : Value)
  /-- Adds values to a list. -/
  | append (values : List Value)
  /-- Adds or installs a child and configures it. -/
  | build (block : Node → σ → Outcome σ Unit)
  /-- Adds a child for every value and configures each with its value. -/
  | each (values : List Value) (block : Node → Value → σ → Outcome σ Unit)

/-- An outcome whose answer is nothing but success. -/
def Outcome.silent {τ α : Type} (outcome : Outcome τ α) (state : σ) : Outcome σ (Option Slot) :=
  ⟨outcome.node, outcome.result.map fun _ => none, state⟩

namespace Operation

/-- The values that the attribute is called with. -/
def values : Operation σ → List Value
  | .invoke values _ => values
  | .query => []
  | .set value => [value]
  | .append values => [.list values]
  | .build _ => []
  | .each values _ => [.list values]

/-- The block that the attribute is called with. -/
def block? : Operation σ → Option (Block σ)
  | .invoke _ block? => block?
  | .build block => some fun child _ state => block child state
  | .each _ block => some fun child item? state =>
    match item? with
    | some item => block child item state
    | none => ⟨child, .ok (), state⟩
  | _ => none

/-- Carries the operation out on a node. -/
def run (op : Operation σ) (node : Node) (name : String) (state : σ) : Outcome σ (Option Slot) :=
  match op with
  | .invoke values block? => node.invoke name values block? state
  | .query => ⟨node, node.query name, state⟩
  | .set value => (node.set name value).silent state
  | .append values => (node.append name values).silent state
  | .build block =>
    let outcome := node.build name block state
    outcome.silent outcome.state
  | .each values block =>
    let outcome := node.each name values block state
    outcome.silent outcome.state

/-- The runs that the operation asks of its block, in order. -/
def runs (op : Operation σ) (node : Node) (name : String) (state : σ) : List (BlockRun σ) :=
  match op.block? with
  | some block => node.blockRuns name op.values block state
  | none => []

theorem runs_of_block {op : Operation σ} {block : Block σ} (hblock : op.block? = some block)
    (node : Node) (name : String) (state : σ) :
    op.runs node name state = node.blockRuns name op.values block state := by
  rw [runs, hblock]

theorem runs_of_no_block {op : Operation σ} (hblock : op.block? = none) (node : Node)
    (name : String) (state : σ) : op.runs node name state = [] := by
  rw [runs, hblock]

end Operation

namespace Node

/-- Without a block the state is only handed through. -/
theorem invoke_without_block (node : Node) (name : String) (values : List Value) (state : σ) :
    node.invoke name values none state =
      ⟨(node.invoke name values (none : Option (Block Unit)) ()).node,
        (node.invoke name values (none : Option (Block Unit)) ()).result, state⟩ := by
  cases ha : node.kind.accessor? name with
  | none => simp [invoke_of_unbound ha, refuse]
  | some a =>
    cases hshape : a.isList with
    | true =>
      simp only [invoke_of_list ha hshape, callList]
      cases values with
      | nil => rfl
      | cons value rest =>
        cases hcheck : node.checkValues a (splice (value :: rest)) with
        | error e => rfl
        | ok _ => rfl
    | false =>
      simp only [invoke_of_scalar ha hshape, callScalar]
      cases node.scalarValue a values with
      | error e => rfl
      | ok value => rfl

theorem append_of_scalar {node : Node} {name : String} {a : Attribute}
    (ha : node.kind.accessor? name = some a) (hshape : a.isList = false) (values : List Value) :
    node.append name values =
      node.refuse (.typeMismatch a.name (node.registry.kind a.target).name "list of values")
        () := by
  simp [append, ha, hshape, Option.filter]

/-- An append is the call with one list, unless the attribute is scalar. -/
theorem append_eq_invoke {node : Node} {name : String}
    (hlist : ∀ a, node.kind.accessor? name = some a → a.isList = true) (values : List Value) :
    node.append name values =
      (node.invoke name [.list values] (none : Option (Block Unit)) ()).ignore := by
  unfold append
  cases ha : node.kind.accessor? name with
  | none => rfl
  | some a => simp [hlist a ha, Option.filter]

/-! ## Operations that are not refused

What is left behind where the values fit, and by a build in any case. -/

/-- An append of values that fit adds them. -/
theorem append_of_list {node : Node} {name : String} {a : Attribute}
    (ha : node.kind.accessor? name = some a) (hshape : a.isList = true) {values : List Value}
    (hfits : ∀ value ∈ values, value.Fits node.registry a.target) :
    node.append name values =
      ⟨node.put a.name (.items (node.listOf a.name ++ values)), .ok (), ()⟩ := by
  have hlist : ∀ b, node.kind.accessor? name = some b → b.isList = true := by
    intro b hb
    rw [← Option.some.inj (ha.symm.trans hb)]
    exact hshape
  have hsplice : splice [.list values] = values := List.append_nil values
  rw [append_eq_invoke hlist, invoke_of_list ha hshape]
  simp only [callList, List.isEmpty_cons, Bool.false_eq_true, if_false, hsplice,
    checkValues_eq_ok_iff.2 hfits]
  rfl

/-- The assignment of a value that fits puts it in place. -/
theorem set_of_scalar {node : Node} {name : String} {a : Attribute}
    (ha : node.kind.accessor? name = some a) (hshape : a.isList = false) {value : Value}
    (hfits : value.Fits node.registry a.target) :
    node.set name value = ⟨node.put a.name (.single value), .ok (), ()⟩ := by
  have hvalue : node.scalarValue a [value] = .ok value :=
    scalarValue_eq_ok_iff.2 (.inr ⟨⟨[], rfl⟩, hfits⟩)
  rw [set, invoke_of_scalar ha hshape]
  simp only [callScalar, hvalue]
  rfl

/-- A build on a list attribute adds the child as the block leaves it, whether it fails or not. -/
theorem build_of_list {node : Node} {name : String} {a : Attribute}
    (ha : node.kind.accessor? name = some a) (hshape : a.isList = true)
    (block : Node → σ → Outcome σ Unit) (state : σ) :
    node.build name block state =
      ⟨node.put a.name
          (.items (node.listOf a.name ++ [.node (block (node.spawn a.target) state).node])),
        (block (node.spawn a.target) state).result, (block (node.spawn a.target) state).state⟩ := by
  rw [build, invoke_of_list ha hshape]
  simp only [callList, blockItems, configureEach]
  cases hresult : (block (node.spawn a.target) state).result with
  | error e => rfl
  | ok _ => rfl

end Node

namespace Operation

/-- The operation does to node and state what its call does, and fails as its call does. -/
structure FollowsCall (op : Operation σ) (node : Node) (name : String) (state : σ) : Prop where
  node_eq : (op.run node name state).node = (node.invoke name op.values op.block? state).node
  state_eq : (op.run node name state).state = (node.invoke name op.values op.block? state).state
  error_iff : ∀ e, (op.run node name state).result = .error e ↔
    (node.invoke name op.values op.block? state).result = .error e

/-- The courses of an operation: it reads, or it is an append to a scalar attribute and refused, or
it follows its call. -/
inductive Carried (op : Operation σ) (node : Node) (name : String) (state : σ) : Prop where
  | read (hop : op = .query)
  | appendRefused {values : List Value} {a : Attribute} (hop : op = .append values)
      (ha : node.kind.accessor? name = some a) (hshape : a.isList = false)
      (hrun : op.run node name state =
        node.refuse (.typeMismatch a.name (node.registry.kind a.target).name "list of values")
          state)
  | called (hquery : op ≠ .query)
      (happend : ∀ values a, op = .append values → node.kind.accessor? name = some a →
        a.isList = true)
      (hcall : op.FollowsCall node name state)

/-- What an operation without block that passes the node on does is what its call does. -/
theorem followsCall_of_silent {op : Operation σ} {node : Node} {name : String} {state : σ}
    (hblock : op.block? = none)
    (hrun : op.run node name state =
      (node.invoke name op.values (none : Option (Block Unit)) ()).ignore.silent state) :
    op.FollowsCall node name state where
  node_eq := by rw [hrun, hblock, Node.invoke_without_block node name op.values state]; rfl
  state_eq := by rw [hrun, hblock, Node.invoke_without_block node name op.values state]; rfl
  error_iff e := by
    rw [hrun, hblock, Node.invoke_without_block node name op.values state]
    simp only [Outcome.silent, Outcome.ignore, Node.map_eq_error_iff]

/-- Every operation takes one of its courses. -/
theorem carried (op : Operation σ) (node : Node) (name : String) (state : σ) :
    op.Carried node name state := by
  cases op with
  | invoke values block? => exact .called (by simp) (by simp) ⟨rfl, rfl, fun _ => Iff.rfl⟩
  | query => exact .read rfl
  | set value => exact .called (by simp) (by simp) (followsCall_of_silent rfl rfl)
  | append values =>
    -- an append looks the name up itself, and hands an unbound one on to the call
    cases ha : node.kind.accessor? name with
    | none =>
      refine .called (by simp) (by simp [ha]) (followsCall_of_silent rfl ?_)
      exact congrArg (Outcome.silent · state) (Node.append_eq_invoke (by simp [ha]) values)
    | some a =>
      cases hshape : a.isList with
      | false =>
        refine .appendRefused rfl ha hshape ?_
        exact congrArg (Outcome.silent · state) (Node.append_of_scalar ha hshape values)
      | true =>
        have hlist : ∀ b, node.kind.accessor? name = some b → b.isList = true := by
          intro b hb
          rw [← Option.some.inj (ha.symm.trans hb)]
          exact hshape
        refine .called (by simp) (fun _ b _ hb => hlist b hb) (followsCall_of_silent rfl ?_)
        exact congrArg (Outcome.silent · state) (Node.append_eq_invoke hlist values)
  | build block =>
    refine .called (by simp) (by simp) ⟨rfl, rfl, fun e => ?_⟩
    simp only [run, Node.build, Outcome.silent, Outcome.ignore, Node.map_eq_error_iff]
    rfl
  | each values block =>
    refine .called (by simp) (by simp) ⟨rfl, rfl, fun e => ?_⟩
    simp only [run, Node.each, Outcome.silent, Outcome.ignore, Node.map_eq_error_iff]
    rfl

end Operation

end SchemaNodes
