import SchemaNodes.Proofs.Node.WellFormed

/-!
# What later operations keep

No operation takes a slot away, and none touches what a list holds already. A call of a list
attribute writes the list that was there with more behind it, and every other place that is written
belongs to a scalar attribute. That the slot of a list attribute never holds a single value, which
such a call would drop, is the invariant of `WellFormed`; the step below reads it off, and the run
carries it along.

* **`Slot.ContinuedBy`**, **`Node.KeptBy`**: how a slot, and how a node, may stand later.
* **`Invoked.keptBy`**: the step, over the courses of a call and for any block.
* **`Node.RunsTo.append_only`**: after any run every slot is there in its shape, and every list
  begins with what it held before.
-/

namespace SchemaNodes

variable {σ : Type}

/-- How a slot may stand later: one value stays one value, and a list goes on behind its values. -/
inductive Slot.ContinuedBy : Slot → Slot → Prop where
  | single (before after : Value) : Slot.ContinuedBy (.single before) (.single after)
  | items {before after : List Value} (h : before <+: after) :
      Slot.ContinuedBy (.items before) (.items after)

theorem Slot.ContinuedBy.refl (slot : Slot) : slot.ContinuedBy slot := by
  cases slot with
  | single value => exact .single value value
  | items values => exact .items (List.prefix_refl values)

theorem Slot.ContinuedBy.trans {first second third : Slot} (h : first.ContinuedBy second)
    (h' : second.ContinuedBy third) : first.ContinuedBy third := by
  cases h with
  | single before after =>
    cases h' with
    | single _ last => exact .single before last
  | items hbegins =>
    cases h' with
    | items hbegins' => exact .items (hbegins.trans hbegins')

namespace Node

/-- Every slot of the node is there later, and continued. -/
def KeptBy (node later : Node) : Prop :=
  ∀ attr slot, node.slot? attr = some slot →
    ∃ slot', later.slot? attr = some slot' ∧ slot.ContinuedBy slot'

theorem KeptBy.refl (node : Node) : node.KeptBy node :=
  fun _ slot hslot => ⟨slot, hslot, .refl slot⟩

theorem KeptBy.trans {node middle later : Node} (h : node.KeptBy middle)
    (h' : middle.KeptBy later) : node.KeptBy later := by
  intro attr slot hslot
  obtain ⟨slot', hslot', hcontinued⟩ := h attr slot hslot
  obtain ⟨slot'', hslot'', hcontinued'⟩ := h' attr slot' hslot'
  exact ⟨slot'', hslot'', hcontinued.trans hcontinued'⟩

/-- Where there is no slot a list counts as empty, so lists are continued wherever slots are. -/
theorem KeptBy.listOf_prefix {node later : Node} (h : node.KeptBy later) (attr : String) :
    node.listOf attr <+: later.listOf attr := by
  cases hslot : node.slot? attr with
  | none =>
    have hempty : node.listOf attr = [] := by rw [listOf, hslot]
    rw [hempty]
    exact List.nil_prefix
  | some slot =>
    obtain ⟨slot', hslot', hcontinued⟩ := h attr slot hslot
    unfold listOf
    rw [hslot, hslot']
    cases hcontinued with
    | single _ _ => exact List.nil_prefix
    | items hbegins => exact hbegins

/-! ## The step

Only one slot is written, so that it is enough to compare the two slots of the one place. -/

theorem keptBy_put {node : Node} {attr : String} {slot : Slot}
    (h : ∀ before, node.slot? attr = some before → before.ContinuedBy slot) :
    node.KeptBy (node.put attr slot) := by
  intro other before hbefore
  rw [slot?_put]
  by_cases hother : other = attr
  · subst hother
    exact ⟨slot, if_pos rfl, h before hbefore⟩
  · exact ⟨before, by rw [if_neg hother, hbefore], .refl before⟩

/-- Under a scalar attribute there is one value before and after. -/
theorem WellFormed.keptBy_put_single {node : Node} (h : node.WellFormed) {name : String}
    {a : Attribute} (ha : node.kind.accessor? name = some a) (hshape : a.isList = false)
    (value : Value) : node.KeptBy (node.put a.name (.single value)) := by
  refine keptBy_put fun before hbefore => ?_
  cases h.fits_of_slot? ha hbefore with
  | single _ _ => exact .single _ value
  | items hlist _ => simp [hshape] at hlist

/-- Under a list attribute the values are put behind those that are there. -/
theorem WellFormed.keptBy_put_items {node : Node} (h : node.WellFormed) {name : String}
    {a : Attribute} (ha : node.kind.accessor? name = some a) (hshape : a.isList = true)
    (values : List Value) :
    node.KeptBy (node.put a.name (.items (node.listOf a.name ++ values))) := by
  refine keptBy_put fun before hbefore => ?_
  -- a single value in this slot would be lost, and cannot be there
  rcases h.slot?_of_list ha hshape with ⟨hnone, -⟩ | hslot
  · rw [hnone] at hbefore
    cases hbefore
  · rw [hslot] at hbefore
    cases hbefore
    exact .items (List.prefix_append _ _)

/-- **The step.** Whatever course a call takes, and whatever its block does, it keeps what a
well-formed node holds. -/
theorem Invoked.keptBy {node : Node} (h : node.WellFormed) {name : String} {values : List Value}
    {block? : Option (Block σ)} {state : σ} {outcome : Outcome σ (Option Slot)}
    (hcall : Invoked node name values block? state outcome) : node.KeptBy outcome.node := by
  cases hcall with
  | unbound | valueRefused | noChild | looked | itemRefused => exact .refl node
  | valueTaken ha hshape _ _ => exact h.keptBy_put_single ha hshape _
  | childConfigured ha hshape _ _ => exact h.keptBy_put_single ha hshape _
  | itemsAdded ha hshape _ _ _ => exact h.keptBy_put_items ha hshape _
  | childrenAdded ha hshape _ => exact h.keptBy_put_items ha hshape _

end Node

theorem Operation.run_keptBy (op : Operation σ) {node : Node} (h : node.WellFormed)
    (name : String) (state : σ) : node.KeptBy (op.run node name state).node := by
  cases op.carried node name state with
  | read hop =>
    rw [hop]
    exact .refl node
  | appendRefused _ _ _ hrun =>
    rw [hrun]
    exact .refl node
  | called _ _ hcall =>
    rw [hcall.node_eq]
    exact Node.Invoked.keptBy h (node.invoke_invoked _ _ _ _)

namespace Node

/-- A child in its place gives way to a child. -/
theorem keptBy_setChild {node child : Node} {name : String} (hchild : node.child? name = some child)
    (child' : Node) : node.KeptBy (node.setChild name child') := by
  refine keptBy_put fun before hbefore => ?_
  rw [child?_eq_some_iff.1 hchild] at hbefore
  cases hbefore
  exact .single _ _

/-! ## Runs -/

/-- A run keeps what the node holds. The invariant of grown nodes goes through the same induction,
since every step is from a well-formed node. -/
theorem RunsTo.keptBy {node later : Node} (run : node.RunsTo later) (hnode : node.Grown) :
    node.KeptBy later :=
  match run with
  | .refl _ => .refl node
  | .operate before op name state _ _ =>
    (before.keptBy hnode).trans (op.run_keptBy (before.grown hnode).wellFormed name state)
  | .inside before _ hchild _ => (before.keptBy hnode).trans (keptBy_setChild hchild _)
termination_by structural run

/-- **Lists are append-only, and nothing stored disappears.** Whatever is done to a reachable node,
under any names and with blocks of any depth, failures included: every slot is there afterwards and
of the same shape, and every list begins with the values it held before, each as it was. -/
theorem RunsTo.append_only {node later : Node} (hnode : node.Reachable) (run : node.RunsTo later) :
    (∀ attr slot, node.slot? attr = some slot →
      ∃ slot', later.slot? attr = some slot' ∧ slot.ContinuedBy slot') ∧
    ∀ attr, node.listOf attr <+: later.listOf attr := by
  have hkept : node.KeptBy later := run.keptBy hnode.grown
  exact ⟨hkept, hkept.listOf_prefix⟩

/-- A policy with a rule is given another one by a block that fails behind its title. -/
theorem RunsTo.append_only_sample :
    let first := sampleRule (.string "first")
    let policy := (fresh sampleRegistry 0).put "rules" (.items [.node first])
    let failing : Operation Unit := .build fun child _ =>
      ⟨(child.set "title" (.json (.string "second"))).node, .error (.notANode "title"), ()⟩
    let later := (failing.run policy "rules" ()).node
    policy.Reachable ∧ policy.RunsTo later ∧
      later.listOf "rules" = [.node first, .node (sampleRule (.string "second"))] ∧
      policy.listOf "rules" <+: later.listOf "rules" := by
  intro first policy failing later
  have ha : (fresh sampleRegistry 0).kind.accessor? "rules" = some ⟨"rules", true, 1⟩ :=
    Registry.accessor?_rules
  have hroot : (fresh sampleRegistry 0).Reachable :=
    Registry.compiled_sample.reachable_fresh (by decide)
  have hrule : (fresh sampleRegistry 1).Reachable :=
    Registry.compiled_sample.reachable_fresh (by decide)
  -- the first rule is made apart and appended
  have hfirst : Made (.list [.node first]) := by
    refine made_list_iff.2 fun item hitem => ?_
    rw [List.mem_singleton.1 hitem]
    exact made_node_iff.2 (hrule.run (runsTo_sampleRule _))
  have happend : (fresh sampleRegistry 0).append "rules" [.node first] = ⟨policy, .ok (), ()⟩ := by
    refine append_of_list ha rfl fun value hvalue => ?_
    rw [List.mem_singleton.1 hvalue]
    exact ⟨rfl, rfl⟩
  have hpolicy : (fresh sampleRegistry 0).RunsTo policy := by
    let op : Operation Unit := .append [.node first]
    have hop : (op.run (fresh sampleRegistry 0) "rules" ()).node = policy :=
      congrArg Outcome.node happend
    rw [← hop]
    refine .operate (.refl _) op "rules" () (fun value hvalue => ?_)
      (fun _ hblock => nomatch hblock)
    rw [List.mem_singleton.1 hvalue]
    exact hfirst
  -- the second is left behind by the block that fails
  have ha' : policy.kind.accessor? "rules" = some ⟨"rules", true, 1⟩ := ha
  have hset : ∀ child, child = fresh sampleRegistry 1 →
      (child.set "title" (.json (.string "second"))).node = sampleRule (.string "second") := by
    rintro child rfl
    exact congrArg Outcome.node (set_title_sample _)
  have hlater : later = policy.put "rules"
      (.items [.node first, .node (sampleRule (.string "second"))]) := by
    show (Node.build policy "rules" _ ()).node = _
    rw [build_of_list ha' rfl]
    exact congrArg (fun made => policy.put "rules" (.items [.node first, .node made]))
      (hset (policy.spawn 1) rfl)
  have hrun : policy.RunsTo later := by
    refine .operate (.refl _) failing "rules" () (fun _ hvalue => nomatch hvalue) ?_
    intro block hblock run hrun
    obtain rfl := Option.some.inj hblock
    rw [Operation.runs_of_block rfl, blockRuns_of_list ha' rfl] at hrun
    have hchild : run.child = fresh sampleRegistry 1 := Block.child_of_mem_attempts hrun
    show run.child.RunsTo (run.child.set "title" (.json (.string "second"))).node
    rw [hset _ hchild, hchild]
    exact runsTo_sampleRule _
  refine ⟨hroot.run hpolicy, hrun, ?_, (RunsTo.append_only (hroot.run hpolicy) hrun).2 "rules"⟩
  rw [hlater]
  exact listOf_put_items policy "rules" _

end Node

end SchemaNodes
