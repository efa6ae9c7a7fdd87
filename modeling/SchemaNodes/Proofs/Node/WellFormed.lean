import SchemaNodes.Proofs.Node.Reach

/-!
# Well-formed trees

The shape that nodes keep through every run. A slot is stored under the non-empty name of a declared
attribute, holds one value or many as the attribute says, and the nodes directly in it are of the
attribute's kind and of the node's registry; nodes inside lists were handed in from elsewhere, and
keep to their own registry.

* **`Node.WellFormed`**: the shape of one node. **`Node.Contains`**: the nodes of a tree, those in
  nested lists included.
* **`Node.Grown`**: the invariant. A node is well formed, and what it holds was made by runs.
  `Grown.invoked` is the step over the courses of a call, `Node.RunsTo.grown` the induction over
  a run.
* **`Node.RunsTo.tree_wellFormed`**: every node of the tree that a run leads to is well formed.
-/

namespace SchemaNodes

variable {σ : Type}

/-! ## The shape of a node -/

/-- The values that a slot holds. -/
def Slot.values : Slot → List Value
  | .single value => [value]
  | .items values => values

/-- A slot has the shape of its attribute, and the nodes directly in it are of the target kind. -/
inductive Slot.Fits (registry : Registry) (a : Attribute) : Slot → Prop where
  | single {value : Value} (hshape : a.isList = false) (hvalue : value.Fits registry a.target) :
      Slot.Fits registry a (.single value)
  | items {values : List Value} (hshape : a.isList = true)
      (hvalues : ∀ value ∈ values, value.Fits registry a.target) :
      Slot.Fits registry a (.items values)

/-- A value is a node, or holds it at some depth of its lists. -/
inductive Value.Holds : Value → Node → Prop where
  | node (n : Node) : Value.Holds (.node n) n
  | item {items : List Value} {value : Value} {n : Node} (hitem : value ∈ items)
      (h : value.Holds n) : Value.Holds (.list items) n

namespace Node

/-- The tree of a node contains another: the node itself, or what the values of its slots hold, and
so on. -/
inductive Contains : Node → Node → Prop where
  | self (node : Node) : Contains node node
  | within {node child n : Node} {attr : String} {slot : Slot} {value : Value}
      (hslot : (attr, slot) ∈ node.slots) (hvalue : value ∈ slot.values)
      (hchild : value.Holds child) (h : Contains child n) : Contains node n

/-- The shape of a node by itself. -/
structure WellFormed (node : Node) : Prop where
  /-- The registry was compiled. -/
  compiled : node.registry.Compiled
  /-- The kind is one of the registry. -/
  kind_lt : node.kindId < node.registry.size
  /-- The slots are in name order, one for a name. -/
  sorted : node.slots.Sorted
  /-- Every slot is stored under the name of a declared attribute, and fits it. -/
  declared : ∀ attr slot, (attr, slot) ∈ node.slots →
    attr ≠ "" ∧ ∃ a, node.kind.attribute? attr = some a ∧ slot.Fits node.registry a

/-- A node is well formed, and what it holds was made by runs. -/
structure Grown (node : Node) : Prop where
  wellFormed : node.WellFormed
  made : ∀ attr slot, (attr, slot) ∈ node.slots → ∀ value ∈ slot.values, Made value

/-! ## Reading a well-formed node -/

/-- A callable name leads to a declared attribute, which has a name and refers to a kind of the
registry. -/
theorem WellFormed.accessor?_declared {node : Node} (h : node.WellFormed) {name : String}
    {a : Attribute} (ha : node.kind.accessor? name = some a) :
    node.kind.attribute? a.name = some a ∧ a.name ≠ "" ∧ a.target < node.registry.size :=
  h.compiled.declared_of_accessor? h.kind_lt ha

/-- The slot of a callable attribute fits it. -/
theorem WellFormed.fits_of_slot? {node : Node} (h : node.WellFormed) {name : String}
    {a : Attribute} (ha : node.kind.accessor? name = some a) {slot : Slot}
    (hslot : node.slot? a.name = some slot) : slot.Fits node.registry a := by
  obtain ⟨-, b, hb, hfits⟩ := h.declared a.name slot (Entries.mem_of_find? hslot)
  obtain ⟨hdeclared, -⟩ := h.accessor?_declared ha
  rw [hdeclared] at hb
  rw [Option.some.inj hb]
  exact hfits

/-- Where a list attribute has a slot, it is a list: its values are the slot's. -/
theorem WellFormed.slot?_of_list {node : Node} (h : node.WellFormed) {name : String}
    {a : Attribute} (ha : node.kind.accessor? name = some a) (hshape : a.isList = true) :
    node.slot? a.name = none ∧ node.listOf a.name = [] ∨
      node.slot? a.name = some (.items (node.listOf a.name)) := by
  cases hslot : node.slot? a.name with
  | none => exact .inl ⟨rfl, by rw [listOf, hslot]⟩
  | some slot =>
    cases h.fits_of_slot? ha hslot with
    | single hscalar _ => simp [hshape] at hscalar
    | items _ _ => exact .inr (by rw [listOf, hslot])

/-- What a list attribute holds fits it. -/
theorem WellFormed.fits_of_mem_listOf {node : Node} (h : node.WellFormed) {name : String}
    {a : Attribute} (ha : node.kind.accessor? name = some a) (hshape : a.isList = true)
    {value : Value} (hvalue : value ∈ node.listOf a.name) :
    value.Fits node.registry a.target := by
  rcases h.slot?_of_list ha hshape with ⟨-, hnone⟩ | hslot
  · simp [hnone] at hvalue
  · cases h.fits_of_slot? ha hslot with
    | items _ hvalues => exact hvalues value hvalue

/-- What a list attribute holds was made by runs. -/
theorem Grown.made_of_mem_listOf {node : Node} (h : node.Grown) {name : String}
    {a : Attribute} (ha : node.kind.accessor? name = some a) (hshape : a.isList = true)
    {value : Value} (hvalue : value ∈ node.listOf a.name) : Made value := by
  rcases h.wellFormed.slot?_of_list ha hshape with ⟨-, hnone⟩ | hslot
  · simp [hnone] at hvalue
  · exact h.made a.name _ (Entries.mem_of_find? hslot) value hvalue

/-! ## Putting a slot in place -/

theorem WellFormed.put {node : Node} (h : node.WellFormed) {attr : String} {a : Attribute}
    (hname : attr ≠ "") (ha : node.kind.attribute? attr = some a) {slot : Slot}
    (hfits : slot.Fits node.registry a) : (node.put attr slot).WellFormed where
  compiled := h.compiled
  kind_lt := h.kind_lt
  sorted := h.sorted.insert attr slot
  declared := by
    intro other stored hstored
    rcases Entries.mem_insert hstored with heq | hstored
    · obtain ⟨rfl, rfl⟩ := Prod.mk.inj heq
      exact ⟨hname, a, ha, hfits⟩
    · exact h.declared other stored hstored

theorem Grown.put {node : Node} (h : node.Grown) {attr : String} {a : Attribute}
    (hname : attr ≠ "") (ha : node.kind.attribute? attr = some a) {slot : Slot}
    (hfits : slot.Fits node.registry a) (hmade : ∀ value ∈ slot.values, Made value) :
    (node.put attr slot).Grown where
  wellFormed := h.wellFormed.put hname ha hfits
  made := by
    intro other stored hstored
    rcases Entries.mem_insert hstored with heq | hstored
    · obtain ⟨rfl, rfl⟩ := Prod.mk.inj heq
      exact hmade
    · exact h.made other stored hstored

/-- A value in the slot of a scalar attribute that is called. -/
theorem Grown.put_single {node : Node} (h : node.Grown) {name : String} {a : Attribute}
    (ha : node.kind.accessor? name = some a) (hshape : a.isList = false) {value : Value}
    (hfits : value.Fits node.registry a.target) (hmade : Made value) :
    (node.put a.name (.single value)).Grown := by
  obtain ⟨hdeclared, hname, -⟩ := h.wellFormed.accessor?_declared ha
  refine h.put hname hdeclared (.single hshape hfits) ?_
  intro v hv
  rw [List.mem_singleton.1 hv]
  exact hmade

/-- Further values in the slot of a list attribute that is called. -/
theorem Grown.put_items {node : Node} (h : node.Grown) {name : String} {a : Attribute}
    (ha : node.kind.accessor? name = some a) (hshape : a.isList = true) {values : List Value}
    (hfits : ∀ value ∈ values, value.Fits node.registry a.target)
    (hmade : ∀ value ∈ values, Made value) :
    (node.put a.name (.items (node.listOf a.name ++ values))).Grown := by
  obtain ⟨hdeclared, hname, -⟩ := h.wellFormed.accessor?_declared ha
  refine h.put hname hdeclared (.items hshape ?_) ?_
  · intro v hv
    rcases List.mem_append.1 hv with hv | hv
    · exact h.wellFormed.fits_of_mem_listOf ha hshape hv
    · exact hfits v hv
  · intro v hv
    rcases List.mem_append.1 hv with hv | hv
    · exact h.made_of_mem_listOf ha hshape hv
    · exact hmade v hv

/-! ## Every course of a call keeps the invariant

Fresh children are roots themselves, since a kind is found by its name; so are, by the invariant and
by what is asked of blocks, the children that a block is run on. -/

theorem grown_fresh {registry : Registry} (h : registry.Compiled) {id : Nat}
    (hid : id < registry.size) : (fresh registry id).Grown where
  wellFormed := ⟨h, hid, .nil, fun _ _ hslot => absurd hslot (by simp [fresh, slots])⟩
  made _ _ hslot := absurd hslot (by simp [fresh, slots])

theorem WellFormed.spawn_reachable {node : Node} (h : node.WellFormed) {target : Nat}
    (htarget : target < node.registry.size) : (node.spawn target).Reachable :=
  h.compiled.reachable_fresh htarget

theorem spawn_fits (node : Node) (target : Nat) :
    Value.Fits node.registry target (.node (node.spawn target)) := ⟨rfl, rfl⟩

/-- The value that a scalar attribute takes fits it. -/
theorem fits_of_scalarValue {node : Node} {a : Attribute} {values : List Value} {value : Value}
    (h : node.scalarValue a values = .ok value) : value.Fits node.registry a.target := by
  rcases scalarValue_eq_ok_iff.1 h with ⟨-, rfl⟩ | ⟨-, hfits⟩
  · exact spawn_fits node a.target
  · exact hfits

/-- The value that a scalar attribute takes was made by runs. -/
theorem WellFormed.made_of_scalarValue {node : Node} (h : node.WellFormed) {name : String}
    {a : Attribute} (ha : node.kind.accessor? name = some a) {values : List Value} {value : Value}
    (hvalues : ∀ value ∈ values, Made value) (hvalue : node.scalarValue a values = .ok value) :
    Made value := by
  obtain ⟨-, -, htarget⟩ := h.accessor?_declared ha
  rcases scalarValue_eq_ok_iff.1 hvalue with ⟨-, rfl⟩ | ⟨⟨rest, rfl⟩, -⟩
  · exact made_node_iff.2 (h.spawn_reachable htarget)
  · exact hvalues value List.mem_cons_self

/-- The child that a call runs its block on is reachable and fits the attribute. -/
theorem WellFormed.child_of_mem_blockRuns {node : Node} (h : node.WellFormed) {name : String}
    {a : Attribute} (ha : node.kind.accessor? name = some a) {values : List Value}
    (hvalues : ∀ value ∈ values, Made value) {block : Block σ} {state : σ} {run : BlockRun σ}
    (hrun : run ∈ node.blockRuns name values block state) :
    run.child.Reachable ∧ Value.Fits node.registry a.target (.node run.child) := by
  obtain ⟨-, -, htarget⟩ := h.accessor?_declared ha
  cases hshape : a.isList with
  | true =>
    rw [blockRuns_of_list ha hshape] at hrun
    rw [Block.child_of_mem_attempts hrun]
    exact ⟨h.spawn_reachable htarget, spawn_fits node a.target⟩
  | false =>
    obtain ⟨child, hvalue, rfl⟩ := (mem_blockRuns_of_scalar ha hshape).1 hrun
    exact ⟨made_node_iff.1 (h.made_of_scalarValue ha hvalues hvalue), fits_of_scalarValue hvalue⟩

/-- A child that a block has acted on by a run can be made and still fits the attribute. -/
theorem WellFormed.made_of_mem_blockRuns {node : Node} (h : node.WellFormed) {name : String}
    {a : Attribute} (ha : node.kind.accessor? name = some a) {values : List Value}
    (hvalues : ∀ value ∈ values, Made value) {block : Block σ} {state : σ} {run : BlockRun σ}
    (hrun : run ∈ node.blockRuns name values block state)
    (hblock : run.child.RunsTo (run.outcome block).node) :
    Made (run.made block) ∧ (run.made block).Fits node.registry a.target := by
  obtain ⟨hchild, hfits⟩ := h.child_of_mem_blockRuns ha hvalues hrun
  exact ⟨made_node_iff.2 (hchild.run hblock), hblock.sameKind.fits hfits⟩

/-- **The step.** Whatever course a call takes, it leaves a grown node grown. -/
theorem Grown.invoked {node : Node} (h : node.Grown) {name : String} {values : List Value}
    {block? : Option (Block σ)} {state : σ} {outcome : Outcome σ (Option Slot)}
    (hvalues : ∀ value ∈ values, Made value)
    (hblock : ∀ block, block? = some block → ∀ run ∈ node.blockRuns name values block state,
      run.child.RunsTo (run.outcome block).node)
    (hcall : Invoked node name values block? state outcome) : outcome.node.Grown := by
  cases hcall with
  | unbound | valueRefused | noChild | looked | itemRefused => exact h
  | valueTaken ha hshape _ hvalue =>
    exact h.put_single ha hshape (fits_of_scalarValue hvalue)
      (h.wellFormed.made_of_scalarValue ha hvalues hvalue)
  | @childConfigured a child block ha hshape hsome hvalue =>
    have hrun : ⟨child, none, state⟩ ∈ node.blockRuns name values block state :=
      (mem_blockRuns_of_scalar ha hshape).2 ⟨child, hvalue, rfl⟩
    obtain ⟨hmade, hfits⟩ :=
      h.wellFormed.made_of_mem_blockRuns ha hvalues hrun (hblock block hsome _ hrun)
    exact h.put_single ha hshape hfits hmade
  | itemsAdded ha hshape _ _ hcheck =>
    exact h.put_items ha hshape (checkValues_eq_ok_iff.1 hcheck)
      fun item hitem => made_of_mem_splice hvalues hitem
  | @childrenAdded a block ha hshape hsome =>
    -- the children are those of the runs that the call asked of the block
    rw [configureEach_children, ← blockRuns_of_list ha hshape]
    have hchildren : ∀ value ∈ (node.blockRuns name values block state).map (·.made block),
        Made value ∧ value.Fits node.registry a.target := by
      intro value hvalue
      obtain ⟨run, hrun, rfl⟩ := List.mem_map.1 hvalue
      exact h.wellFormed.made_of_mem_blockRuns ha hvalues hrun (hblock block hsome run hrun)
    exact h.put_items ha hshape (fun value hvalue => (hchildren value hvalue).2)
      fun value hvalue => (hchildren value hvalue).1

/-- A name leads to the child in a slot of its own, and to no other value. -/
theorem child?_eq_some_iff {node child : Node} {name : String} :
    node.child? name = some child ↔
      node.slot? (node.storageName name) = some (.single (.node child)) := by
  unfold child? attr?
  cases node.slot? (node.storageName name) with
  | none => simp
  | some slot =>
    cases slot with
    | items values => simp [Slot.asNode?, Slot.asSingle?]
    | single value =>
      cases value with
      | node n => simp [Slot.asNode?, Slot.asSingle?, Value.asNode?]
      | list items => simp [Slot.asNode?, Slot.asSingle?, Value.asNode?]
      | json leaf => simp [Slot.asNode?, Slot.asSingle?, Value.asNode?]

/-- A run of a child in its place leaves a grown node grown. -/
theorem Grown.setChild {node child child' : Node} (h : node.Grown) {name : String}
    (hchild : node.child? name = some child) (inner : child.RunsTo child') :
    (node.setChild name child').Grown := by
  -- the child has a slot already, which tells the attribute even if the name is not callable
  have hslot := Entries.mem_of_find? (child?_eq_some_iff.1 hchild)
  obtain ⟨hname, a, ha, hfits⟩ := h.wellFormed.declared _ _ hslot
  have hmade : Made (.node child) := h.made _ _ hslot _ List.mem_cons_self
  cases hfits with
  | single hshape hvalue =>
    refine h.put hname ha (.single hshape (inner.sameKind.fits hvalue)) ?_
    intro value hmem
    rw [List.mem_singleton.1 hmem]
    exact made_node_iff.2 ((made_node_iff.1 hmade).run inner)

end Node

/-! ## Runs -/

theorem Operation.run_grown (op : Operation σ) {node : Node} (h : node.Grown) {name : String}
    {state : σ} (hvalues : ∀ value ∈ op.values, Made value)
    (hblock : ∀ block, op.block? = some block → ∀ run ∈ op.runs node name state,
      run.child.RunsTo (run.outcome block).node) : (op.run node name state).node.Grown := by
  cases op.carried node name state with
  | read hop =>
    rw [hop]
    exact h
  | appendRefused _ _ _ hrun =>
    rw [hrun]
    exact h
  | called _ _ hcall =>
    rw [hcall.node_eq]
    refine h.invoked hvalues (fun block hsome run hrun => ?_) (node.invoke_invoked _ _ _ _)
    refine hblock block hsome run ?_
    rwa [Operation.runs_of_block hsome]

/-- **The invariant.** A run leaves a grown node grown. -/
theorem Node.RunsTo.grown {start node : Node} (h : start.RunsTo node) (hstart : start.Grown) :
    node.Grown :=
  match h with
  | .refl _ => hstart
  | .operate before op _ _ hvalues hblock => op.run_grown (before.grown hstart) hvalues hblock
  | .inside before _ hchild inner => (before.grown hstart).setChild hchild inner
termination_by structural h

theorem Node.Reachable.grown {node : Node} (h : node.Reachable) : node.Grown := by
  obtain ⟨registry, type, root, hcompiled, hroot, run⟩ := h
  obtain ⟨id, hid, rfl⟩ := hcompiled.fresh_of_instantiate hroot
  exact run.grown (Node.grown_fresh hcompiled hid)

/-! ## Trees

What is below a reachable node is reachable itself: it was handed in, or a block has made it. -/

theorem Value.Holds.reachable {value : Value} {n : Node} (h : value.Holds n) (hvalue : Made value) :
    n.Reachable := by
  induction h with
  | node n => exact made_node_iff.1 hvalue
  | item hitem _ ih => exact ih (made_list_iff.1 hvalue _ hitem)

theorem Node.Contains.reachable {node n : Node} (h : node.Contains n) (hnode : node.Reachable) :
    n.Reachable := by
  induction h with
  | self _ => exact hnode
  | within hslot hvalue hchild _ ih =>
    exact ih (hchild.reachable (hnode.grown.made _ _ hslot _ hvalue))

/-- **Every node of the tree that a run leads to is well formed.** For every schema that compiles,
under any naming settings, every root and every run: the nodes of the tree keep to the declarations
of their own registry, at any depth and inside lists. A list attribute therefore never finds a
single value in its slot, so that no call has to replace one. -/
theorem Node.RunsTo.tree_wellFormed {schema : Schema} {naming : NamingSettings}
    {label? : Option String} {serial : Nat} {registry : Registry}
    (hcompile : Registry.compile schema naming label? serial = .ok registry) {type : String}
    {root : Node} (hroot : registry.instantiate type = .ok root) {node : Node}
    (run : root.RunsTo node) {n : Node} (hn : node.Contains n) :
    n.WellFormed ∧
      ∀ name a, n.kind.accessor? name = some a → a.isList = true →
        ∀ value, n.slot? a.name ≠ some (.single value) := by
  have hnode : node.Reachable := ⟨registry, type, root, ⟨_, _, _, _, hcompile⟩, hroot, run⟩
  have hwellFormed := (hn.reachable hnode).grown.wellFormed
  refine ⟨hwellFormed, ?_⟩
  intro name a ha hshape value hslot
  cases hwellFormed.fits_of_slot? ha hslot with
  | single hscalar _ => simp [hshape] at hscalar

/-- A policy that is given a rule by a block, which sets the rule's title. -/
theorem Node.RunsTo.tree_wellFormed_sample :
    let rule := sampleRule (.string "first")
    let policy := (Node.fresh sampleRegistry 0).put "rules" (.items [.node rule])
    (Node.fresh sampleRegistry 0).RunsTo policy ∧ policy.Contains rule ∧ rule.WellFormed := by
  intro rule policy
  have ha : (Node.fresh sampleRegistry 0).kind.accessor? "rules" = some ⟨"rules", true, 1⟩ :=
    Registry.accessor?_sample 0 ⟨"rules", true, 1⟩ (by decide) (.tail _ (.head _)) (by decide)
  let configure : Node → Unit → Outcome Unit Unit := fun child _ =>
    child.set "title" (.json (.string "first"))
  let op : Operation Unit := .build configure
  have hset : configure (.fresh sampleRegistry 1) () = ⟨rule, .ok (), ()⟩ := set_title_sample _
  have hop : (op.run (.fresh sampleRegistry 0) "rules" ()).node = policy := by
    have hspawn : configure ((Node.fresh sampleRegistry 0).spawn 1) () = ⟨rule, .ok (), ()⟩ := hset
    show (Node.build (.fresh sampleRegistry 0) "rules" configure ()).node = policy
    rw [Node.build_of_list ha rfl, hspawn]
    rfl
  have run : (Node.fresh sampleRegistry 0).RunsTo policy := by
    rw [← hop]
    refine .operate (.refl _) op "rules" () (fun _ hvalue => nomatch hvalue) ?_
    intro block hblock run hrun
    obtain rfl := Option.some.inj hblock
    rw [Operation.runs_of_block rfl, Node.blockRuns_of_list ha rfl] at hrun
    have hchild : run.child = .fresh sampleRegistry 1 := Block.child_of_mem_attempts hrun
    show run.child.RunsTo (configure run.child ()).node
    rw [hchild, hset]
    exact runsTo_sampleRule _
  have hcontains : policy.Contains rule := .within (.head _) (.head _) (.node rule) (.self rule)
  have hroot : sampleRegistry.instantiate "Policy" = .ok (.fresh sampleRegistry 0) :=
    Registry.compiled_sample.instantiate_kind_name (show 0 < sampleRegistry.size by decide)
  exact ⟨run, hcontains, (run.tree_wellFormed Registry.compile_sample hroot hcontains).1⟩

end SchemaNodes
