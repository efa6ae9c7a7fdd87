import SchemaNodes.Proofs.Node.Operation
import SchemaNodes.Proofs.Registry.Compiled

/-!
# Reachable nodes

What can be made of nodes by the library's operations alone. A run takes a node through any number
of operations, with any names and states, whether they succeed or fail; the values that it hands in
are themselves made by runs, of this registry or of another one, and the blocks act on their
children by runs. Runs of children in their place (`Node.withChild`) belong to it as well.

* **`Node.RunsTo`**, **`Made`**: the two closures, defined together.
* **`Node.RunsTo.sameKind`**: no run changes the registry or the kind of its node.
* **`Node.RunsTo.withChild`**: an operation on a child in its place is part of a run.
* **`Node.Reachable`**: what runs make of the roots of compiled registries.
-/

namespace SchemaNodes

variable {σ : Type}

/-! ## Registry and kind

Every operation only puts slots in place, so a node stays of its registry and kind. This is what
lets the children that a block was run on pass as values afterwards. -/

namespace Node

/-- The second node is of the registry and of the kind of the first. -/
def SameKind (node other : Node) : Prop :=
  other.registry = node.registry ∧ other.kindId = node.kindId

theorem SameKind.refl (node : Node) : node.SameKind node := ⟨rfl, rfl⟩

theorem SameKind.trans {node middle last : Node} (h : node.SameKind middle)
    (h' : middle.SameKind last) : node.SameKind last :=
  ⟨h'.1.trans h.1, h'.2.trans h.2⟩

theorem sameKind_put (node : Node) (attr : String) (slot : Slot) :
    node.SameKind (node.put attr slot) := ⟨rfl, rfl⟩

/-- A node of the same kind fits where the node fits. -/
theorem SameKind.fits {node other : Node} {registry : Registry} {target : Nat}
    (h : node.SameKind other) (hfits : Value.Fits registry target (.node node)) :
    Value.Fits registry target (.node other) :=
  ⟨h.1.trans hfits.1, h.2.trans hfits.2⟩

theorem Invoked.sameKind {node : Node} {name : String} {values : List Value}
    {block? : Option (Block σ)} {state : σ} {outcome : Outcome σ (Option Slot)}
    (h : Invoked node name values block? state outcome) : node.SameKind outcome.node := by
  cases h with
  | unbound | valueRefused | noChild | looked | itemRefused => exact .refl node
  | valueTaken | childConfigured | itemsAdded | childrenAdded => exact sameKind_put node _ _

end Node

theorem Operation.run_sameKind (op : Operation σ) (node : Node) (name : String) (state : σ) :
    node.SameKind (op.run node name state).node := by
  cases op.carried node name state with
  | read hop =>
    rw [hop]
    exact .refl node
  | appendRefused _ _ _ hrun =>
    rw [hrun]
    exact .refl node
  | called _ _ hcall =>
    rw [hcall.node_eq]
    exact (node.invoke_invoked name op.values op.block? state).sameKind

/-! ## Runs

A run is a sequence of operations on a node, and of runs of its children in their place. What an
operation is handed has to be made of runs itself, and its block has to act on every child that it
is run on by a run. The two closures are one definition. -/

mutual

/-- The first node can be taken to the second by the operations. -/
inductive Node.RunsTo : Node → Node → Prop where
  | refl (node : Node) : node.RunsTo node
  /-- Another operation, carried out or refused, or failed on the way. -/
  | operate {start node : Node} {σ : Type} (before : start.RunsTo node) (op : Operation σ)
      (name : String) (state : σ) (hvalues : ∀ value ∈ op.values, Made value)
      (hblock : ∀ block, op.block? = some block → ∀ run ∈ op.runs node name state,
        run.child.RunsTo (run.outcome block).node) :
      start.RunsTo (op.run node name state).node
  /-- A run of the child that a name leads to. -/
  | inside {start node child child' : Node} (before : start.RunsTo node) (name : String)
      (hchild : node.child? name = some child) (inner : child.RunsTo child') :
      start.RunsTo (node.setChild name child')

/-- The value can be made: its nodes come from the roots of compiled registries by runs. -/
inductive Made : Value → Prop where
  | node {registry : Registry} {type : String} {root node : Node} (hcompiled : registry.Compiled)
      (hroot : registry.instantiate type = .ok root) (run : root.RunsTo node) : Made (.node node)
  | list {items : List Value} (hitems : ∀ item ∈ items, Made item) : Made (.list items)
  | json (leaf : Json) : Made (.json leaf)

end

namespace Node.RunsTo

/-- Runs follow one another. -/
theorem trans {start node last : Node} (h : start.RunsTo node) (h' : node.RunsTo last) :
    start.RunsTo last :=
  match h' with
  | .refl _ => h
  | .operate before op name state hvalues hblock =>
    .operate (h.trans before) op name state hvalues hblock
  | .inside before name hchild inner => .inside (h.trans before) name hchild inner
termination_by structural h'

/-- A run stays within registry and kind. -/
theorem sameKind {start node : Node} (h : start.RunsTo node) : start.SameKind node :=
  match h with
  | .refl node => .refl node
  | @RunsTo.operate _ node _ before op name state _ _ =>
    before.sameKind.trans (op.run_sameKind node name state)
  | .inside before _ _ _ => before.sameKind.trans (Node.sameKind_put _ _ _)
termination_by structural h

/-- An operation on the child that a name leads to, in its place, is part of a run. -/
theorem withChild {start node : Node} (h : start.RunsTo node) {name : String} {α : Type}
    {operation : Node → σ → Outcome σ α} {state : σ} {outcome : Outcome σ α}
    (hrun : ∀ child, node.child? name = some child → child.RunsTo (operation child state).node)
    (houtcome : node.withChild name operation state = some outcome) :
    start.RunsTo outcome.node := by
  obtain ⟨child, hchild, rfl⟩ := Option.map_eq_some_iff.1 houtcome
  exact .inside h name hchild (hrun child hchild)

end Node.RunsTo

/-! ## Reachable nodes -/

/-- The node comes from a root of a compiled registry by a run. -/
def Node.Reachable (node : Node) : Prop :=
  ∃ (registry : Registry) (type : String) (root : Node),
    registry.Compiled ∧ registry.instantiate type = .ok root ∧ root.RunsTo node

/-- A node without slots of a kind of a compiled registry is a root. -/
theorem Registry.Compiled.reachable_fresh {registry : Registry} (h : registry.Compiled) {id : Nat}
    (hid : id < registry.size) : (Node.fresh registry id).Reachable :=
  ⟨registry, _, _, h, h.instantiate_kind_name hid, .refl _⟩

theorem made_node_iff {node : Node} : Made (.node node) ↔ node.Reachable := by
  constructor
  · rintro ⟨hcompiled, hroot, run⟩
    exact ⟨_, _, _, hcompiled, hroot, run⟩
  · rintro ⟨_, _, _, hcompiled, hroot, run⟩
    exact .node hcompiled hroot run

theorem made_list_iff {items : List Value} : Made (.list items) ↔ ∀ item ∈ items, Made item := by
  constructor
  · intro h
    cases h with
    | list hitems => exact hitems
  · exact .list

/-- What can be reached can be taken further. -/
theorem Node.Reachable.run {node last : Node} (h : node.Reachable) (h' : node.RunsTo last) :
    last.Reachable := by
  obtain ⟨registry, type, root, hcompiled, hroot, before⟩ := h
  exact ⟨registry, type, root, hcompiled, hroot, before.trans h'⟩

/-- Splicing gives values that can be made. -/
theorem made_of_mem_splice {values : List Value} (h : ∀ value ∈ values, Made value) {item : Value}
    (hitem : item ∈ splice values) : Made item := by
  induction values with
  | nil => simp [splice] at hitem
  | cons value rest ih =>
    have hrest := ih fun v hv => h v (List.mem_cons_of_mem _ hv)
    have hvalue := h value List.mem_cons_self
    unfold splice at hitem
    -- lists and arrays give their items, anything else stays
    split at hitem
    · simp at hitem
    · next items rest' heq =>
      obtain ⟨rfl, rfl⟩ := List.cons.inj heq
      rcases List.mem_append.1 hitem with hitem | hitem
      · exact made_list_iff.1 hvalue item hitem
      · exact hrest hitem
    · next items rest' heq =>
      obtain ⟨rfl, rfl⟩ := List.cons.inj heq
      rcases List.mem_append.1 hitem with hitem | hitem
      · obtain ⟨leaf, -, rfl⟩ := List.mem_map.1 hitem
        exact .json leaf
      · exact hrest hitem
    · next other rest' _ _ heq =>
      obtain ⟨rfl, rfl⟩ := List.cons.inj heq
      rcases List.mem_cons.1 hitem with rfl | hitem
      · exact hvalue
      · exact hrest hitem

/-! ## Rules of the sample -/

/-- A rule of `sampleRegistry` with a title. -/
def sampleRule (title : Json) : Node :=
  (Node.fresh sampleRegistry 1).put "title" (.single (.json title))

theorem set_title_sample (title : Json) :
    (Node.fresh sampleRegistry 1).set "title" (.json title) = ⟨sampleRule title, .ok (), ()⟩ := by
  have ha : (Node.fresh sampleRegistry 1).kind.accessor? "title" = some ⟨"title", false, 2⟩ :=
    Registry.accessor?_title
  exact Node.set_of_scalar ha rfl trivial

theorem runsTo_sampleRule (title : Json) :
    (Node.fresh sampleRegistry 1).RunsTo (sampleRule title) := by
  let op : Operation Unit := .set (.json title)
  have hop : (op.run (.fresh sampleRegistry 1) "title" ()).node = sampleRule title :=
    congrArg Outcome.node (set_title_sample title)
  rw [← hop]
  refine .operate (.refl _) op "title" () ?_ (fun _ hblock => nomatch hblock)
  intro value hvalue
  rw [List.mem_singleton.1 hvalue]
  exact .json title

end SchemaNodes
