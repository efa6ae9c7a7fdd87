import SchemaNodes.Node.Call

/-!
# What a call can do

The courses that a call of an attribute can take, and the runs of its block. The later modules cite
this one and never unfold `Node.invoke`:

* **`Value.pieces`**, **`splice_eq_flatMap`**: what an argument is replaced by, and that splicing does
  this to one argument after the other and nothing else.
* **`Value.Fits`**: a value has a place under an attribute. `checkValue`, `checkValues` and
  `scalarValue` are characterized by it, with the exact refusal.
* **`Invoked`**, **`invoke_invoked`**: the nine courses of a call, with what is left behind.
* **`Node.blockRuns`**: the runs that a call asks of its block, as the block itself can record them.
* **`configureEach_children`**, **`configureEach_recording`**: the loop over the items in terms of
  the runs that it attempts.
-/

namespace SchemaNodes

variable {σ : Type}

/-! ## Splicing -/

/-- What an argument of a list attribute is replaced by: a list and an array leaf by their items,
which are not looked into, anything else by itself. -/
def Value.pieces : Value → List Value
  | .list items => items
  | .json (.array items) => items.map .json
  | other => [other]

theorem splice_cons (value : Value) (rest : List Value) :
    splice (value :: rest) = splice [value] ++ splice rest := by
  cases value with
  | node _ => rfl
  | list items => simp [splice]
  | json leaf =>
    cases leaf with
    | array items => simp [splice]
    | null | bool _ | number _ | string _ | object _ => rfl

theorem splice_singleton (value : Value) : splice [value] = value.pieces := by
  cases value with
  | node _ => rfl
  | list items => exact List.append_nil items
  | json leaf =>
    cases leaf with
    | array items => exact List.append_nil _
    | null | bool _ | number _ | string _ | object _ => rfl

theorem splice_eq_flatMap (values : List Value) : splice values = values.flatMap Value.pieces := by
  induction values with
  | nil => rfl
  | cons value rest ih => rw [splice_cons, splice_singleton, ih, List.flatMap_cons]

theorem splice_append (xs ys : List Value) : splice (xs ++ ys) = splice xs ++ splice ys := by
  simp only [splice_eq_flatMap, List.flatMap_append]

/-! ## Values that have a place

Only nodes are looked at, and only those directly in place: leaves and lists are trusted. -/

/-- A node fits if it is of the registry and the kind; leaves and lists fit anywhere. -/
def Value.Fits (registry : Registry) (target : Nat) : Value → Prop
  | .node child => child.registry = registry ∧ child.kindId = target
  | _ => True

/-- What does not fit is a node. -/
theorem Value.exists_node_of_not_fits {registry : Registry} {target : Nat} {value : Value}
    (h : ¬ value.Fits registry target) : ∃ child, value = .node child := by
  cases value with
  | node child => exact ⟨child, rfl⟩
  | list _ => exact absurd trivial h
  | json _ => exact absurd trivial h

namespace Node

/-- The refusal of a node under an attribute. -/
def mismatch (node : Node) (a : Attribute) (child : Node) : BuildError :=
  .typeMismatch a.name (node.registry.kind a.target).name (node.foundName child)

theorem checkValue_eq_ok_iff {node : Node} {a : Attribute} {value : Value} :
    node.checkValue a value = .ok () ↔ value.Fits node.registry a.target := by
  cases value with
  | node child => simp [checkValue, Value.Fits]
  | list _ => simp [checkValue, Value.Fits]
  | json _ => simp [checkValue, Value.Fits]

theorem checkValue_eq_error_iff {node : Node} {a : Attribute} {value : Value} {e : BuildError} :
    node.checkValue a value = .error e ↔
      ∃ child, value = .node child ∧ ¬ value.Fits node.registry a.target ∧
        e = node.mismatch a child := by
  cases value with
  | node child =>
    by_cases hfits : child.registry = node.registry ∧ child.kindId = a.target
    · simp [checkValue, Value.Fits, hfits]
    · have hrefused : node.checkValue a (.node child) = .error (node.mismatch a child) := by
        simpa [checkValue, mismatch] using hfits
      rw [hrefused, Except.error.injEq]
      constructor
      · rintro rfl
        exact ⟨child, rfl, hfits, rfl⟩
      · rintro ⟨other, hother, -, rfl⟩
        rw [Value.node.inj hother]
  | list _ => simp [checkValue]
  | json _ => simp [checkValue]

theorem checkValues_eq_ok_iff {node : Node} {a : Attribute} {values : List Value} :
    node.checkValues a values = .ok () ↔ ∀ value ∈ values, value.Fits node.registry a.target := by
  induction values with
  | nil => simp [checkValues]
  | cons value rest ih =>
    rw [checkValues, List.forall_mem_cons, ← ih, ← checkValue_eq_ok_iff]
    cases node.checkValue a value with
    | error e => simp [bind, Except.bind]
    | ok _ => simp [bind, Except.bind]

theorem checkValues_cons_of_fits {node : Node} {a : Attribute} {value : Value}
    (h : value.Fits node.registry a.target) (rest : List Value) :
    node.checkValues a (value :: rest) = node.checkValues a rest := by
  rw [checkValues, checkValue_eq_ok_iff.2 h]
  rfl

theorem checkValues_cons_of_not_fits {node : Node} {a : Attribute} {child : Node}
    (h : ¬ Value.Fits node.registry a.target (.node child)) (rest : List Value) :
    node.checkValues a (.node child :: rest) = .error (node.mismatch a child) := by
  rw [checkValues, checkValue_eq_error_iff.2 ⟨child, rfl, h, rfl⟩]
  rfl

/-- The first value without a place is the one that is refused. -/
theorem checkValues_eq_error_iff {node : Node} {a : Attribute} {values : List Value}
    {e : BuildError} :
    node.checkValues a values = .error e ↔
      ∃ before child after, values = before ++ .node child :: after ∧
        (∀ value ∈ before, value.Fits node.registry a.target) ∧
        ¬ Value.Fits node.registry a.target (.node child) ∧ e = node.mismatch a child := by
  constructor
  · intro h
    induction values with
    | nil => simp [checkValues] at h
    | cons value rest ih =>
      by_cases hfits : value.Fits node.registry a.target
      · rw [checkValues_cons_of_fits hfits] at h
        obtain ⟨before, child, after, rfl, hbefore, hchild, rfl⟩ := ih h
        exact ⟨value :: before, child, after, rfl, List.forall_mem_cons.2 ⟨hfits, hbefore⟩,
          hchild, rfl⟩
      · obtain ⟨child, rfl⟩ := Value.exists_node_of_not_fits hfits
        rw [checkValues_cons_of_not_fits hfits] at h
        exact ⟨[], child, rest, rfl, by simp, hfits, (Except.error.inj h).symm⟩
  · rintro ⟨before, child, after, rfl, hbefore, hchild, rfl⟩
    induction before with
    | nil => exact checkValues_cons_of_not_fits hchild after
    | cons value before ih =>
      rw [List.forall_mem_cons] at hbefore
      rw [List.cons_append, checkValues_cons_of_fits hbefore.1]
      exact ih hbefore.2

/-- The value that is installed is the first one if it fits, or a fresh child if there is none. -/
theorem scalarValue_eq_ok_iff {node : Node} {a : Attribute} {values : List Value} {value : Value} :
    node.scalarValue a values = .ok value ↔
      values = [] ∧ value = .node (node.spawn a.target) ∨
        (∃ rest, values = value :: rest) ∧ value.Fits node.registry a.target := by
  cases values with
  | nil => simp [scalarValue, eq_comm]
  | cons first rest =>
    rw [scalarValue]
    cases hcheck : node.checkValue a first with
    | error e =>
      obtain ⟨child, -, hfits, -⟩ := checkValue_eq_error_iff.1 hcheck
      simp only [bind, Except.bind, reduceCtorEq, false_and, List.cons.injEq, false_or, false_iff]
      rintro ⟨⟨_, rfl, -⟩, hvalue⟩
      exact hfits hvalue
    | ok _ =>
      have hfits := checkValue_eq_ok_iff.1 hcheck
      simp only [bind, Except.bind, pure, Except.pure, Except.ok.injEq, reduceCtorEq, false_and,
        List.cons.injEq, false_or]
      constructor
      · rintro rfl
        exact ⟨⟨rest, rfl, rfl⟩, hfits⟩
      · rintro ⟨⟨_, rfl, -⟩, -⟩
        rfl

theorem scalarValue_eq_error_iff {node : Node} {a : Attribute} {values : List Value}
    {e : BuildError} :
    node.scalarValue a values = .error e ↔
      ∃ child rest, values = .node child :: rest ∧
        ¬ Value.Fits node.registry a.target (.node child) ∧ e = node.mismatch a child := by
  cases values with
  | nil => simp [scalarValue]
  | cons first rest =>
    have hcheck : node.scalarValue a (first :: rest) = .error e ↔
        node.checkValue a first = .error e := by
      rw [scalarValue]
      cases node.checkValue a first with
      | error _ => simp [bind, Except.bind]
      | ok _ => simp [bind, Except.bind, pure, Except.pure]
    rw [hcheck, checkValue_eq_error_iff]
    constructor
    · rintro ⟨child, rfl, hfits, rfl⟩
      exact ⟨child, rest, rfl, hfits, rfl⟩
    · rintro ⟨child, _, hvalues, hfits, rfl⟩
      obtain ⟨rfl, -⟩ := List.cons.inj hvalues
      exact ⟨child, rfl, hfits, rfl⟩

end Node

/-! ## Runs of a block

A block is a function, so what is asked of it is observed by handing the call a block that records.
Recording changes neither the children nor the outcome (`configureEach_recording`). -/

/-- A run of a block: the child and the item that it is for, and the state that it starts from. -/
structure BlockRun (σ : Type) where
  child : Node
  item? : Option Value
  state : σ

namespace BlockRun

/-- What the run leads to. -/
def outcome (run : BlockRun σ) (block : Block σ) : Outcome σ Unit :=
  block run.child run.item? run.state

/-- The child as the run leaves it, as a value. -/
def made (run : BlockRun σ) (block : Block σ) : Value := .node (run.outcome block).node

end BlockRun

namespace Block

/-- The block that also records every run that is asked of it. -/
def recording (block : Block σ) : Block (σ × List (BlockRun σ)) :=
  fun child item? (state, runs) =>
    let run := block child item? state
    ⟨run.node, run.result, (run.state, runs ++ [⟨child, item?, state⟩])⟩

/-- The runs for the items in turn on one child each, up to the first that fails. -/
def attempts (block : Block σ) (child : Node) : List (Option Value) → σ → List (BlockRun σ)
  | [], _ => []
  | item? :: rest, state =>
    ⟨child, item?, state⟩ ::
      match (block child item? state).result with
      | .ok () => attempts block child rest (block child item? state).state
      | .error _ => []

theorem child_of_mem_attempts {block : Block σ} {child : Node} {items : List (Option Value)}
    {state : σ} {run : BlockRun σ} (h : run ∈ block.attempts child items state) :
    run.child = child := by
  induction items generalizing state with
  | nil => simp [attempts] at h
  | cons item? rest ih =>
    rw [attempts] at h
    rcases List.mem_cons.1 h with rfl | h
    · rfl
    · cases hresult : (block child item? state).result with
      | error e => simp [hresult] at h
      | ok _ =>
        rw [hresult] at h
        exact ih h

end Block

namespace Node

theorem listOf_put_items (node : Node) (attr : String) (values : List Value) :
    (node.put attr (.items values)).listOf attr = values := by
  rw [listOf, slot?_put, if_pos rfl]

/-- The children that the loop over the items makes are those of the runs that it attempts. -/
theorem configureEach_children (child : Node) (block : Block σ) (items : List (Option Value))
    (state : σ) :
    (configureEach child block items state).1 =
      (block.attempts child items state).map (·.made block) := by
  induction items generalizing state with
  | nil => rfl
  | cons item? rest ih =>
    unfold configureEach Block.attempts
    cases hresult : (block child item? state).result with
    | error e => simp [hresult, BlockRun.made, BlockRun.outcome]
    | ok _ => simp [hresult, ih, BlockRun.made, BlockRun.outcome]

/-- A recording block leaves the same children, result and state behind, and what it records are the
runs that are attempted. -/
theorem configureEach_recording (child : Node) (block : Block σ) (items : List (Option Value))
    (state : σ) (runs : List (BlockRun σ)) :
    configureEach child block.recording items (state, runs) =
      ((configureEach child block items state).1, (configureEach child block items state).2.1,
        (configureEach child block items state).2.2,
          runs ++ block.attempts child items state) := by
  induction items generalizing state runs with
  | nil => simp [configureEach, Block.attempts]
  | cons item? rest ih =>
    unfold configureEach Block.attempts
    cases hresult : (block child item? state).result with
    | error e => simp [Block.recording, hresult]
    | ok _ =>
      -- the induction hypothesis is for the longer record
      simp [Block.recording, hresult, ih]

/-- The error that the loop over the items ends with is that of a run that it attempts. -/
theorem error_of_configureEach {child : Node} {block : Block σ} {items : List (Option Value)}
    {state : σ} {e : BuildError} (h : (configureEach child block items state).2.1 = .error e) :
    ∃ run ∈ block.attempts child items state, (run.outcome block).result = .error e := by
  induction items generalizing state with
  | nil => simp [configureEach] at h
  | cons item? rest ih =>
    unfold configureEach at h
    rw [Block.attempts]
    cases hresult : (block child item? state).result with
    | error e' =>
      simp only [hresult, Except.error.injEq] at h
      subst h
      exact ⟨_, List.mem_cons_self, hresult⟩
    | ok _ =>
      simp only [hresult] at h
      obtain ⟨run, hrun, he⟩ := ih h
      exact ⟨run, List.mem_cons_of_mem _ hrun, he⟩

/-- The runs that a call asks of its block, in order. -/
def blockRuns (node : Node) (name : String) (values : List Value) (block : Block σ) (state : σ) :
    List (BlockRun σ) :=
  (node.invoke name values (some block.recording) (state, [])).state.2

/-! ## The courses of a call

Nine constructors, one for each course: the name leads nowhere; a scalar attribute refuses its
value, takes it, configures the child that it takes, or has no child to configure; a list attribute
is only looked at, refuses an item, adds the items, or adds configured children. -/

/-- The call of a name comes to the outcome by one of its courses. -/
inductive Invoked (node : Node) (name : String) (values : List Value) (block? : Option (Block σ))
    (state : σ) : Outcome σ (Option Slot) → Prop where
  | unbound (ha : node.kind.accessor? name = none) :
      Invoked node name values block? state (node.refuse (node.unknownAccessor name) state)
  | valueRefused {a : Attribute} {e : BuildError} (ha : node.kind.accessor? name = some a)
      (hshape : a.isList = false) (hvalue : node.scalarValue a values = .error e) :
      Invoked node name values block? state (node.refuse e state)
  | valueTaken {a : Attribute} {value : Value} (ha : node.kind.accessor? name = some a)
      (hshape : a.isList = false) (hblock : block? = none)
      (hvalue : node.scalarValue a values = .ok value) :
      Invoked node name values block? state
        ((node.put a.name (.single value)).answer a (.ok ()) state)
  | childConfigured {a : Attribute} {child : Node} {block : Block σ}
      (ha : node.kind.accessor? name = some a) (hshape : a.isList = false)
      (hblock : block? = some block) (hvalue : node.scalarValue a values = .ok (.node child)) :
      Invoked node name values block? state
        ((node.put a.name (.single (.node (block child none state).node))).answer a
          (block child none state).result (block child none state).state)
  | noChild {a : Attribute} {value : Value} {block : Block σ}
      (ha : node.kind.accessor? name = some a) (hshape : a.isList = false)
      (hblock : block? = some block) (hvalue : node.scalarValue a values = .ok value)
      (hleaf : ∀ child, value ≠ .node child) :
      Invoked node name values block? state (node.refuse (.notANode a.name) state)
  | looked {a : Attribute} (ha : node.kind.accessor? name = some a) (hshape : a.isList = true)
      (hblock : block? = none) (hvalues : values = []) :
      Invoked node name values block? state (node.answer a (.ok ()) state)
  | itemRefused {a : Attribute} {e : BuildError} (ha : node.kind.accessor? name = some a)
      (hshape : a.isList = true) (hblock : block? = none) (hvalues : values ≠ [])
      (hcheck : node.checkValues a (splice values) = .error e) :
      Invoked node name values block? state (node.refuse e state)
  | itemsAdded {a : Attribute} (ha : node.kind.accessor? name = some a)
      (hshape : a.isList = true) (hblock : block? = none) (hvalues : values ≠ [])
      (hcheck : node.checkValues a (splice values) = .ok ()) :
      Invoked node name values block? state
        ((node.put a.name (.items (node.listOf a.name ++ splice values))).answer a (.ok ()) state)
  | childrenAdded {a : Attribute} {block : Block σ} (ha : node.kind.accessor? name = some a)
      (hshape : a.isList = true) (hblock : block? = some block) :
      Invoked node name values block? state
        ((node.put a.name (.items (node.listOf a.name ++
          (configureEach (node.spawn a.target) block (blockItems values) state).1))).answer a
            (configureEach (node.spawn a.target) block (blockItems values) state).2.1
            (configureEach (node.spawn a.target) block (blockItems values) state).2.2)

theorem invoke_of_unbound {node : Node} {name : String} (ha : node.kind.accessor? name = none)
    (values : List Value) (block? : Option (Block σ)) (state : σ) :
    node.invoke name values block? state = node.refuse (node.unknownAccessor name) state := by
  rw [invoke, ha]

theorem invoke_of_list {node : Node} {name : String} {a : Attribute}
    (ha : node.kind.accessor? name = some a) (hshape : a.isList = true) (values : List Value)
    (block? : Option (Block σ)) (state : σ) :
    node.invoke name values block? state = node.callList a values block? state := by
  rw [invoke, ha]
  exact if_pos hshape

theorem invoke_of_scalar {node : Node} {name : String} {a : Attribute}
    (ha : node.kind.accessor? name = some a) (hshape : a.isList = false) (values : List Value)
    (block? : Option (Block σ)) (state : σ) :
    node.invoke name values block? state = node.callScalar a values block? state := by
  rw [invoke, ha]
  exact if_neg (by simp [hshape])

theorem invoke_of_valueRefused {node : Node} {name : String} {a : Attribute}
    (ha : node.kind.accessor? name = some a) (hshape : a.isList = false) {values : List Value}
    {e : BuildError} (hvalue : node.scalarValue a values = .error e) (block? : Option (Block σ))
    (state : σ) : node.invoke name values block? state = node.refuse e state := by
  rw [invoke_of_scalar ha hshape]
  simp only [callScalar, hvalue]

theorem invoke_of_noChild {node : Node} {name : String} {a : Attribute}
    (ha : node.kind.accessor? name = some a) (hshape : a.isList = false) {values : List Value}
    {value : Value} (hvalue : node.scalarValue a values = .ok value)
    (hleaf : ∀ child, value ≠ .node child) (block : Block σ) (state : σ) :
    node.invoke name values (some block) state = node.refuse (.notANode a.name) state := by
  rw [invoke_of_scalar ha hshape]
  cases value with
  | node child => exact absurd rfl (hleaf child)
  | list items => simp only [callScalar, hvalue]
  | json leaf => simp only [callScalar, hvalue]

theorem invoke_of_itemRefused {node : Node} {name : String} {a : Attribute}
    (ha : node.kind.accessor? name = some a) (hshape : a.isList = true) {values : List Value}
    {e : BuildError} (hcheck : node.checkValues a (splice values) = .error e) (state : σ) :
    node.invoke name values none state = node.refuse e state := by
  rw [invoke_of_list ha hshape]
  cases values with
  | nil => simp [splice, checkValues] at hcheck
  | cons value rest => simp [callList, hcheck]

/-- Every call takes one of the courses. -/
theorem invoke_invoked (node : Node) (name : String) (values : List Value)
    (block? : Option (Block σ)) (state : σ) :
    Invoked node name values block? state (node.invoke name values block? state) := by
  cases ha : node.kind.accessor? name with
  | none =>
    rw [invoke_of_unbound ha]
    exact .unbound ha
  | some a =>
    cases hshape : a.isList with
    | true =>
      rw [invoke_of_list ha hshape]
      unfold callList
      cases block? with
      | some block => exact .childrenAdded ha hshape rfl
      | none =>
        cases values with
        | nil => exact .looked ha hshape rfl rfl
        | cons value rest =>
          cases hcheck : node.checkValues a (splice (value :: rest)) with
          | error e =>
            exact .itemRefused ha hshape rfl (by simp) hcheck
          | ok _ =>
            exact .itemsAdded ha hshape rfl (by simp) hcheck
    | false =>
      rw [invoke_of_scalar ha hshape]
      unfold callScalar
      cases hvalue : node.scalarValue a values with
      | error e => exact .valueRefused ha hshape hvalue
      | ok value =>
        cases block? with
        | none => exact .valueTaken ha hshape rfl hvalue
        | some block =>
          cases value with
          | node child => exact .childConfigured ha hshape rfl hvalue
          | list items => exact .noChild ha hshape rfl hvalue (by simp)
          | json leaf => exact .noChild ha hshape rfl hvalue (by simp)

theorem invoke_block_of_list {node : Node} {name : String} {a : Attribute}
    (ha : node.kind.accessor? name = some a) (hshape : a.isList = true) (values : List Value)
    (block : Block σ) (state : σ) :
    node.invoke name values (some block) state =
      (node.put a.name (.items (node.listOf a.name ++
        (configureEach (node.spawn a.target) block (blockItems values) state).1))).answer a
          (configureEach (node.spawn a.target) block (blockItems values) state).2.1
          (configureEach (node.spawn a.target) block (blockItems values) state).2.2 := by
  rw [invoke_of_list ha hshape]
  rfl

theorem map_eq_error_iff {α β : Type} {r : Except BuildError α} {f : α → β} {e : BuildError} :
    r.map f = .error e ↔ r = .error e := by
  cases r with
  | error _ => simp [Except.map]
  | ok _ => simp [Except.map]

/-! ## The runs of each course -/

theorem blockRuns_of_unbound {node : Node} {name : String} {values : List Value} {block : Block σ}
    {state : σ} (ha : node.kind.accessor? name = none) :
    node.blockRuns name values block state = [] := by
  simp [blockRuns, invoke, ha, refuse]

theorem blockRuns_of_list {node : Node} {name : String} {values : List Value} {block : Block σ}
    {state : σ} {a : Attribute} (ha : node.kind.accessor? name = some a)
    (hshape : a.isList = true) :
    node.blockRuns name values block state =
      block.attempts (node.spawn a.target) (blockItems values) state := by
  simp [blockRuns, invoke, ha, hshape, callList, configureEach_recording, answer]

theorem blockRuns_of_valueRefused {node : Node} {name : String} {values : List Value}
    {block : Block σ} {state : σ} {a : Attribute} {e : BuildError}
    (ha : node.kind.accessor? name = some a) (hshape : a.isList = false)
    (hvalue : node.scalarValue a values = .error e) :
    node.blockRuns name values block state = [] := by
  simp [blockRuns, invoke, ha, hshape, callScalar, hvalue, refuse]

theorem blockRuns_of_child {node : Node} {name : String} {values : List Value}
    {block : Block σ} {state : σ} {a : Attribute} {child : Node}
    (ha : node.kind.accessor? name = some a) (hshape : a.isList = false)
    (hvalue : node.scalarValue a values = .ok (.node child)) :
    node.blockRuns name values block state = [⟨child, none, state⟩] := by
  simp [blockRuns, invoke, ha, hshape, callScalar, hvalue, answer, Block.recording]

theorem blockRuns_of_noChild {node : Node} {name : String} {values : List Value}
    {block : Block σ} {state : σ} {a : Attribute} {value : Value}
    (ha : node.kind.accessor? name = some a) (hshape : a.isList = false)
    (hvalue : node.scalarValue a values = .ok value) (hleaf : ∀ child, value ≠ .node child) :
    node.blockRuns name values block state = [] := by
  cases value with
  | node child => exact absurd rfl (hleaf child)
  | list items => simp [blockRuns, invoke, ha, hshape, callScalar, hvalue, refuse]
  | json leaf => simp [blockRuns, invoke, ha, hshape, callScalar, hvalue, refuse]

/-- On a scalar attribute a block is run on the child that is installed, if a child is installed. -/
theorem mem_blockRuns_of_scalar {node : Node} {name : String} {values : List Value}
    {block : Block σ} {state : σ} {a : Attribute} (ha : node.kind.accessor? name = some a)
    (hshape : a.isList = false) {run : BlockRun σ} :
    run ∈ node.blockRuns name values block state ↔
      ∃ child, node.scalarValue a values = .ok (.node child) ∧ run = ⟨child, none, state⟩ := by
  cases hvalue : node.scalarValue a values with
  | error e => simp [blockRuns_of_valueRefused ha hshape hvalue]
  | ok value =>
    cases value with
    | node child => simp [blockRuns_of_child ha hshape hvalue]
    | list items => simp [blockRuns_of_noChild ha hshape hvalue]
    | json leaf => simp [blockRuns_of_noChild ha hshape hvalue]

end Node

end SchemaNodes
