import SchemaNodes.Proofs.Node.WellFormed

/-!
# Construction by declared names

A well-formed tree can be built with nothing but instantiation, `Node.set` and `Node.append`, each
called by the declared name of an attribute, and no call on the way fails. So the accessors neither
forbid nor distort a tree that the schema admits, whatever aliases compete for the names.

An assembly works on a stack of values, with the top at the head: a node is instantiated, its slots
are filled one after another from the values above it, and what is finished is a value itself.
Leaves and lists are only laid out there, as what the calls are given.

* **`AssemblyStep.perform`**, **`AssemblyStep.run`**: the steps. None of them carries a node.
* **`Node.recipe`**: the steps for a tree, read off its slots. `Node.recipe_assembles` is the
  induction over the tree, with one lemma for each part of it.
* **`AssemblyStep.perform_made`**: the other way round, a step only leaves what runs can make.
* **`Node.reachable_iff_tree_wellFormed`**, **`Node.tree_wellFormed_iff_assembled`**: the trees that
  can be reached by any runs, and those that can be assembled, are the well-formed ones.
-/

namespace SchemaNodes

/-! ## Assemblies -/

/-- A step of an assembly. -/
inductive AssemblyStep where
  /-- Puts an empty node of the kind of a name on the stack. -/
  | instantiate (registry : Registry) (type : String)
  /-- Puts a leaf on the stack. -/
  | leaf (value : Json)
  /-- Turns the uppermost values into one list. -/
  | gather (count : Nat)
  /-- Takes the uppermost value for an attribute of the node below it. -/
  | set (attr : String)
  /-- Takes the uppermost values for a list attribute of the node below them. -/
  | append (attr : String) (count : Nat)

/-- What a call of an attribute leaves of its node. The name has to be declared, not just callable,
and the call must not fail. -/
def Node.called? (node : Node) (attr : String) (outcome : Outcome Unit Unit) : Option Node :=
  match node.kind.attribute? attr, outcome.result with
  | some _, .ok () => some outcome.node
  | _, _ => none

namespace AssemblyStep

/-- Carries the step out, if nothing in it fails. -/
def perform : AssemblyStep → List Value → Option (List Value)
  | .instantiate registry type, stack =>
    (registry.instantiate type).toOption.map fun root => .node root :: stack
  | .leaf value, stack => some (.json value :: stack)
  | .gather count, stack => some (.list (stack.take count) :: stack.drop count)
  | .set attr, value :: .node node :: rest =>
    (node.called? attr (node.set attr value)).map fun called => .node called :: rest
  | .set _, _ => none
  | .append attr count, stack =>
    match stack.drop count with
    | .node node :: rest =>
      (node.called? attr (node.append attr (stack.take count))).map fun called =>
        .node called :: rest
    | _ => none

/-- Carries steps out in turn. -/
def run (steps : List AssemblyStep) (stack : List Value) : Option (List Value) :=
  steps.foldlM (fun stack step => step.perform stack) stack

/-- The registry that a step instantiates from was compiled. -/
def Sound : AssemblyStep → Prop
  | .instantiate registry _ => registry.Compiled
  | _ => True

/-- Sound steps that lead from one stack to another without a failure. -/
structure Assembles (steps : List AssemblyStep) (before after : List Value) : Prop where
  sound : ∀ step ∈ steps, step.Sound
  run_eq : run steps before = some after

theorem Assembles.refl (stack : List Value) : Assembles [] stack stack := ⟨by simp, rfl⟩

theorem Assembles.trans {first second : List AssemblyStep} {before middle after : List Value}
    (h : Assembles first before middle) (h' : Assembles second middle after) :
    Assembles (first ++ second) before after where
  sound step hstep := (List.mem_append.1 hstep).elim (h.sound step) (h'.sound step)
  run_eq := by
    rw [run, List.foldlM_append]
    show (run first before).bind (run second) = some after
    rw [h.run_eq]
    exact h'.run_eq

theorem assembles_singleton {step : AssemblyStep} {before after : List Value} (hsound : step.Sound)
    (h : step.perform before = some after) : Assembles [step] before after where
  sound _ hstep := List.mem_singleton.1 hstep ▸ hsound
  run_eq := by
    rw [run, List.foldlM_cons, h]
    rfl

end AssemblyStep

open AssemblyStep (Assembles assembles_singleton)

/-! ## The recipe of a tree

Values are made last first, so that they lie on the stack in their order. -/

/-- The step that fills the slot of an attribute from the values on the stack. -/
def Slot.fill : Slot → String → AssemblyStep
  | .single _, attr => .set attr
  | .items values, attr => .append attr values.length

mutual

/-- The steps that make a node: an empty node, and its slots one after another. -/
def Node.recipe : Node → List AssemblyStep
  | .mk registry kindId slots =>
    .instantiate registry (registry.kind kindId).name :: slotsRecipe slots

def slotsRecipe : List (String × Slot) → List AssemblyStep
  | [] => []
  | (attr, slot) :: rest => slot.recipe ++ slot.fill attr :: slotsRecipe rest

def Slot.recipe : Slot → List AssemblyStep
  | .single value => value.recipe
  | .items values => valuesRecipe values

def Value.recipe : Value → List AssemblyStep
  | .node node => node.recipe
  | .list items => valuesRecipe items ++ [.gather items.length]
  | .json leaf => [.leaf leaf]

def valuesRecipe : List Value → List AssemblyStep
  | [] => []
  | value :: rest => valuesRecipe rest ++ value.recipe

end

/-! ## One slot -/

theorem Slot.sound_fill (slot : Slot) (attr : String) : (slot.fill attr).Sound := by
  cases slot with
  | single value => trivial
  | items values => trivial

namespace Node

/-- The name of a declared attribute calls this attribute and no other. -/
theorem WellFormed.accessor?_of_attribute? {node : Node} (h : node.WellFormed) {attr : String}
    {a : Attribute} (hname : attr ≠ "") (ha : node.kind.attribute? attr = some a) :
    node.kind.accessor? attr = some a ∧ a.name = attr := by
  have hmem : a ∈ node.kind.attributes := List.mem_of_find?_eq_some ha
  have heq : a.name = attr := by simpa using List.find?_some ha
  obtain ⟨-, hsound⟩ := h.compiled.kind_sound h.kind_lt
  have hcall := hsound.accessor?_declared hmem (heq ▸ hname)
  rw [heq] at hcall
  exact ⟨hcall, heq⟩

/-- One call fills a slot that fits and is not there yet. A list is appended in one piece, so that
none of its items is spliced, and an empty one is stored as well. -/
theorem WellFormed.perform_fill {node : Node} (h : node.WellFormed) {attr : String}
    {a : Attribute} (hname : attr ≠ "") (ha : node.kind.attribute? attr = some a) {slot : Slot}
    (hfits : slot.Fits node.registry a) (hfree : node.slot? attr = none) (stack : List Value) :
    (slot.fill attr).perform (slot.values ++ .node node :: stack) =
      some (.node (node.put attr slot) :: stack) := by
  obtain ⟨hcall, heq⟩ := h.accessor?_of_attribute? hname ha
  cases hfits with
  | @single value hshape hvalue =>
    have hset : node.set attr value = ⟨node.put attr (.single value), .ok (), ()⟩ := by
      rw [set_of_scalar hcall hshape hvalue, heq]
    show (node.called? attr (node.set attr value)).map _ = _
    rw [hset, called?, ha]
    rfl
  | @items values hshape hvalues =>
    have hempty : node.listOf attr = [] := by rw [listOf, hfree]
    have happend : node.append attr values = ⟨node.put attr (.items values), .ok (), ()⟩ := by
      rw [append_of_list hcall hshape hvalues, heq, hempty, List.nil_append]
    have htake : (values ++ .node node :: stack).take values.length = values := by simp
    have hdrop : (values ++ .node node :: stack).drop values.length = .node node :: stack := by simp
    simp only [Slot.fill, Slot.values, AssemblyStep.perform, htake, hdrop]
    rw [happend, called?, ha]
    rfl

end Node

/-! ## The whole tree -/

/-- Every node in the value keeps to its shape, at any depth. -/
def Value.TreeWellFormed (value : Value) : Prop :=
  ∀ child, value.Holds child → ∀ n, child.Contains n → n.WellFormed

mutual

/-- **The induction over the tree.** The recipe of a well-formed tree puts it on the stack. -/
theorem Node.recipe_assembles : ∀ (node : Node), (∀ n, node.Contains n → n.WellFormed) →
    ∀ stack, Assembles node.recipe stack (.node node :: stack)
  | .mk registry kindId slots, h, stack => by
    have hself : (Node.mk registry kindId slots).WellFormed := h _ (.self _)
    have hroot : Assembles [.instantiate registry (registry.kind kindId).name] stack
        (.node (.fresh registry kindId) :: stack) := by
      refine assembles_singleton hself.compiled ?_
      have hname : registry.instantiate (registry.kind kindId).name =
          .ok (.fresh registry kindId) := hself.compiled.instantiate_kind_name hself.kind_lt
      show (registry.instantiate _).toOption.map _ = _
      rw [hname]
      rfl
    rw [Node.recipe]
    refine hroot.trans (slotsRecipe_assembles slots [] hself ?_ stack)
    intro attr slot hslot value hvalue child hchild n hn
    exact h n (.within hslot hvalue hchild hn)

/-- The slots are in name order, so that each goes behind the ones that are there. -/
theorem slotsRecipe_assembles : ∀ (slots done : List (String × Slot)) {registry : Registry}
    {kindId : Nat}, (Node.mk registry kindId (done ++ slots)).WellFormed →
    (∀ attr slot, (attr, slot) ∈ slots → ∀ value ∈ slot.values, value.TreeWellFormed) →
    ∀ stack, Assembles (slotsRecipe slots) (.node (.mk registry kindId done) :: stack)
      (.node (.mk registry kindId (done ++ slots)) :: stack)
  | [], done, registry, kindId, _, _, stack => by
    rw [slotsRecipe, List.append_nil]
    exact .refl _
  | (attr, slot) :: rest, done, registry, kindId, h, hvalues, stack => by
    have hsnoc : done ++ (attr, slot) :: rest = (done ++ [(attr, slot)]) ++ rest := by simp
    have hlt : ∀ entry ∈ done, entry.1 < attr := fun entry hentry =>
      (List.pairwise_append.1 h.sorted).2.2 entry hentry _ List.mem_cons_self
    obtain ⟨hname, a, ha, hfits⟩ := h.declared attr slot (by simp [Node.slots])
    -- what has been filled so far is a well-formed node itself
    have hdone : (Node.mk registry kindId done).WellFormed :=
      ⟨h.compiled, h.kind_lt, (List.pairwise_append.1 h.sorted).1, fun other stored hstored =>
        h.declared other stored (List.mem_append_left _ hstored)⟩
    have hfree : (Node.mk registry kindId done).slot? attr = none := by
      refine Entries.find?_eq_none_iff.2 fun hmem => ?_
      obtain ⟨entry, hentry, heq⟩ := List.mem_map.1 hmem
      exact String.lt_irrefl _ (heq ▸ hlt entry hentry)
    have hput : (Node.mk registry kindId done).put attr slot =
        .mk registry kindId (done ++ [(attr, slot)]) :=
      congrArg (Node.mk registry kindId) (Entries.insert_of_forall_lt hlt slot)
    have hvalue := slot.recipe_assembles (hvalues attr slot List.mem_cons_self)
      (.node (.mk registry kindId done) :: stack)
    have hfill := hdone.perform_fill hname ha hfits hfree stack
    rw [hput] at hfill
    have hrest := slotsRecipe_assembles rest (done ++ [(attr, slot)]) (hsnoc ▸ h)
      (fun other stored hstored => hvalues other stored (List.mem_cons_of_mem _ hstored)) stack
    rw [slotsRecipe, hsnoc]
    exact hvalue.trans ((assembles_singleton (slot.sound_fill attr) hfill).trans hrest)

theorem Slot.recipe_assembles : ∀ (slot : Slot), (∀ value ∈ slot.values, value.TreeWellFormed) →
    ∀ stack, Assembles slot.recipe stack (slot.values ++ stack)
  | .single value, h, stack => by
    rw [Slot.recipe]
    exact value.recipe_assembles (h value List.mem_cons_self) stack
  | .items values, h, stack => by
    rw [Slot.recipe]
    exact valuesRecipe_assembles values h stack

theorem Value.recipe_assembles : ∀ (value : Value), value.TreeWellFormed →
    ∀ stack, Assembles value.recipe stack (value :: stack)
  | .node node, h, stack => by
    rw [Value.recipe]
    exact node.recipe_assembles (h node (.node node)) stack
  | .list items, h, stack => by
    have hitems := valuesRecipe_assembles items (fun item hitem child hchild =>
      h child (.item hitem hchild)) stack
    have hgather : (AssemblyStep.gather items.length).perform (items ++ stack) =
        some (.list items :: stack) := by simp [AssemblyStep.perform]
    rw [Value.recipe]
    exact hitems.trans (assembles_singleton trivial hgather)
  | .json leaf, _, _ => assembles_singleton trivial rfl

theorem valuesRecipe_assembles : ∀ (values : List Value),
    (∀ value ∈ values, value.TreeWellFormed) →
    ∀ stack, Assembles (valuesRecipe values) stack (values ++ stack)
  | [], _, stack => by
    rw [valuesRecipe]
    exact .refl stack
  | value :: rest, h, stack => by
    rw [List.forall_mem_cons] at h
    rw [valuesRecipe]
    exact (valuesRecipe_assembles rest h.2 stack).trans (value.recipe_assembles h.1 (rest ++ stack))

end

/-- A rule is finished before the policy takes it. -/
example : ((Node.fresh sampleRegistry 0).put "rules"
      (.items [.node (sampleRule (.string "first"))])).recipe =
    [.instantiate sampleRegistry "Policy", .instantiate sampleRegistry "Rule",
      .leaf (.string "first"), .set "title", .append "rules" 1] := by rfl

/-! ## Nothing else can be assembled

A step is an operation of the library, so what it leaves on the stack is made by runs, and what runs
make is well formed. -/

/-- An operation without a block, with values that can be made, makes another node. -/
theorem Made.operate {node : Node} (hnode : Made (.node node)) (op : Operation Unit)
    (hblock : op.block? = none) (hvalues : ∀ value ∈ op.values, Made value) (name : String) :
    Made (.node (op.run node name ()).node) := by
  refine made_node_iff.2 ((made_node_iff.1 hnode).run ?_)
  refine .operate (.refl node) op name () hvalues fun block hsome => ?_
  rw [hblock] at hsome
  cases hsome

theorem Node.eq_of_called? {node called : Node} {attr : String} {outcome : Outcome Unit Unit}
    (h : node.called? attr outcome = some called) : called = outcome.node := by
  unfold Node.called? at h
  split at h
  · exact (Option.some.inj h).symm
  · cases h

namespace AssemblyStep

/-- **The step.** Where everything on the stack can be made, a step leaves what can be made. -/
theorem perform_made {step : AssemblyStep} (hsound : step.Sound) {before after : List Value}
    (hbefore : ∀ value ∈ before, Made value) (h : step.perform before = some after) :
    ∀ value ∈ after, Made value := by
  unfold perform at h
  split at h
  · next registry type =>
    obtain ⟨root, hroot, rfl⟩ := Option.map_eq_some_iff.1 h
    have hinstantiate : registry.instantiate type = .ok root := by
      cases hresult : registry.instantiate type with
      | error e => simp [hresult, Except.toOption] at hroot
      | ok other => simpa [hresult, Except.toOption] using hroot
    exact List.forall_mem_cons.2 ⟨.node hsound hinstantiate (.refl root), hbefore⟩
  · next leaf =>
    obtain rfl := Option.some.inj h
    exact List.forall_mem_cons.2 ⟨.json leaf, hbefore⟩
  · next count =>
    obtain rfl := Option.some.inj h
    have hitems : ∀ item ∈ before.take count, Made item := fun item hitem =>
      hbefore item (List.mem_of_mem_take hitem)
    exact List.forall_mem_cons.2 ⟨.list hitems, fun value hvalue =>
      hbefore value (List.mem_of_mem_drop hvalue)⟩
  · next attr value node rest =>
    obtain ⟨called, hcalled, rfl⟩ := Option.map_eq_some_iff.1 h
    obtain ⟨hvalue, hnode, hrest⟩ := by simpa only [List.forall_mem_cons] using hbefore
    have hset := hnode.operate (.set value) rfl (by simpa [Operation.values] using hvalue) attr
    rw [Node.eq_of_called? hcalled]
    exact List.forall_mem_cons.2 ⟨hset, hrest⟩
  · cases h
  · next attr count =>
    split at h
    · next node rest hdrop =>
      obtain ⟨called, hcalled, rfl⟩ := Option.map_eq_some_iff.1 h
      have hbelow : ∀ value ∈ Value.node node :: rest, Made value := fun value hvalue =>
        hbefore value (List.mem_of_mem_drop (hdrop ▸ hvalue))
      obtain ⟨hnode, hrest⟩ := List.forall_mem_cons.1 hbelow
      have hvalues : Made (.list (before.take count)) :=
        .list fun value hvalue => hbefore value (List.mem_of_mem_take hvalue)
      have happend := hnode.operate (.append (before.take count)) rfl
        (by simpa [Operation.values] using hvalues) attr
      rw [Node.eq_of_called? hcalled]
      exact List.forall_mem_cons.2 ⟨happend, hrest⟩
    · cases h

/-- Steps in turn leave what can be made. -/
theorem Assembles.made {steps : List AssemblyStep} {before after : List Value}
    (h : Assembles steps before after) (hbefore : ∀ value ∈ before, Made value) :
    ∀ value ∈ after, Made value := by
  obtain ⟨hsound, hrun⟩ := h
  induction steps generalizing before with
  | nil =>
    obtain rfl := Option.some.inj hrun
    exact hbefore
  | cons step rest ih =>
    obtain ⟨hstep, hrest⟩ := List.forall_mem_cons.1 hsound
    obtain ⟨middle, hmiddle, hrun⟩ := Option.bind_eq_some_iff.1 hrun
    exact ih (perform_made hstep hbefore hmiddle) hrest hrun

end AssemblyStep

namespace Node

theorem Reachable.wellFormed_of_contains {node : Node} (h : node.Reachable) {n : Node}
    (hn : node.Contains n) : n.WellFormed :=
  (hn.reachable h).grown.wellFormed

/-- What runs can make is exactly the well-formed trees: blocks, refusals, other names and runs of
children in their place lead to no further trees. -/
theorem reachable_iff_tree_wellFormed {node : Node} :
    node.Reachable ↔ ∀ n, node.Contains n → n.WellFormed := by
  constructor
  · intro h n hn
    exact h.wellFormed_of_contains hn
  · intro h
    have hassembles := node.recipe_assembles h []
    exact made_node_iff.1 (hassembles.made (by simp) _ List.mem_cons_self)

/-- **Every well-formed tree can be built, and nothing else.** For every node: all nodes of its tree
are well formed if and only if some sequence of steps ends with the node, beginning with nothing.
The steps instantiate kinds of compiled registries and call `set` and `append` by declared names,
and none of them fails. -/
theorem tree_wellFormed_iff_assembled {node : Node} :
    (∀ n, node.Contains n → n.WellFormed) ↔
      ∃ steps : List AssemblyStep, (∀ step ∈ steps, step.Sound) ∧
        AssemblyStep.run steps [] = some [.node node] := by
  constructor
  · intro h
    obtain ⟨hsound, hrun⟩ := node.recipe_assembles h []
    exact ⟨node.recipe, hsound, hrun⟩
  · rintro ⟨steps, hsound, hrun⟩ n hn
    have hmade : ∀ value ∈ [Value.node node], Made value :=
      AssemblyStep.Assembles.made ⟨hsound, hrun⟩ (by simp)
    exact (made_node_iff.1 (hmade _ List.mem_cons_self)).wellFormed_of_contains hn

end Node

end SchemaNodes
