import SchemaNodes.Proofs.Node.Construction
import SchemaNodes.Proofs.Node.Independence

/-!
# Reading paths

A slot is read in four ways: by `Node.query`, by `Node.attr?`, as a child by `Node.child?`, and as
the answer of a call. The query and the call refuse a name that is not callable, while the other two
take it as it is for a place among the slots. On a reachable node this makes no difference, since
whatever is stored has a declared name, and a declared name calls its own attribute.

* **`WellFormed.slot?_of_unbound`**: behind a name that is not callable nothing is stored.
* **`ChangesOnlyChild`**, **`changesOnlyChild`**: what an operation on a child in its place does.
* **`Invoked.query_eq`**: the answer of a call is what a query finds afterwards.
* **`Interchangeable`**, **`interchangeable`**: names of one attribute.
* **`Reachable.readingPaths`**: all of it, for every string.
-/

namespace SchemaNodes

variable {σ α : Type}

namespace Node

/-! ## Places of names -/

theorem storageName_of_bound {node : Node} {name : String} {a : Attribute}
    (ha : node.kind.accessor? name = some a) : node.storageName name = a.name := by
  rw [storageName, ha]

theorem storageName_of_unbound {node : Node} {name : String}
    (ha : node.kind.accessor? name = none) : node.storageName name = name := by
  rw [storageName, ha]

theorem query_of_bound {node : Node} {name : String} {a : Attribute}
    (ha : node.kind.accessor? name = some a) : node.query name = .ok (node.slot? a.name) := by
  rw [query, ha]

theorem query_of_unbound {node : Node} {name : String} (ha : node.kind.accessor? name = none) :
    node.query name = .error (node.unknownAccessor name) := by
  rw [query, ha]

theorem query_eq_error_iff {node : Node} {name : String} {e : BuildError} :
    node.query name = .error e ↔
      node.kind.accessor? name = none ∧ e = node.unknownAccessor name := by
  cases ha : node.kind.accessor? name with
  | none => simp [query_of_unbound ha, eq_comm]
  | some a => simp [query_of_bound ha]

/-- What is stored has a declared name, and that name would be callable. -/
theorem WellFormed.slot?_of_unbound {node : Node} (h : node.WellFormed) {name : String}
    (ha : node.kind.accessor? name = none) : node.slot? name = none := by
  cases hslot : node.slot? name with
  | none => rfl
  | some slot =>
    obtain ⟨hname, a, hdeclared, -⟩ := h.declared name slot (Entries.mem_of_find? hslot)
    have hcall := (h.accessor?_of_attribute? hname hdeclared).1
    rw [ha] at hcall
    cases hcall

theorem WellFormed.attr?_eq {node : Node} (h : node.WellFormed) (name : String) :
    node.attr? name = (node.query name).toOption.join := by
  unfold attr?
  cases ha : node.kind.accessor? name with
  | none =>
    rw [storageName_of_unbound ha, query_of_unbound ha, h.slot?_of_unbound ha]
    rfl
  | some a =>
    rw [storageName_of_bound ha, query_of_bound ha]
    rfl

/-! ## Operations on a child

The child stands in one slot, alone. Whatever an operation makes of it, the slot holds it then, and
nothing else has been written. -/

/-- An operation on the child that a name leads to changes the child in its one slot, and the rest
of the node stays; one that leaves the child as it was changes nothing at all. -/
def ChangesOnlyChild (node : Node) (name : String) (child : Node) : Prop :=
  ∃ attr, node.slot? attr = some (.single (.node child)) ∧
    ∀ {σ α : Type} (operation : Node → σ → Outcome σ α) (state : σ),
      let run := operation child state
      ∃ later, node.withChild name operation state = some ⟨later, run.result, run.state⟩ ∧
        later.child? name = some run.node ∧
        later.slot? attr = some (.single (.node run.node)) ∧
        (∀ other, other ≠ attr → later.slot? other = node.slot? other) ∧
        node.SameKind later ∧ (run.node = child → later = node)

theorem SameKind.storageName_eq {node other : Node} (h : node.SameKind other) (name : String) :
    other.storageName name = node.storageName name := by
  rw [storageName, storageName, h.kind_eq]

/-- The child that is put in a place is found there. -/
theorem child?_setChild (node : Node) (name : String) (child : Node) :
    (node.setChild name child).child? name = some child := by
  have hkind : node.SameKind (node.setChild name child) := sameKind_put node _ _
  rw [child?_eq_some_iff, hkind.storageName_eq, setChild, slot?_put, if_pos rfl]

/-- A child that is put back in its place leaves the node as it was. -/
theorem setChild_self {node child : Node} (hsorted : node.slots.Sorted) {name : String}
    (hchild : node.child? name = some child) : node.setChild name child = node := by
  have hslot := child?_eq_some_iff.1 hchild
  refine (sameKind_put node _ _).eq_of_slot? hsorted (hsorted.insert _ _) fun attr => ?_
  rw [slot?_put]
  by_cases heq : attr = node.storageName name
  · rw [if_pos heq, heq, hslot]
  · rw [if_neg heq]

theorem changesOnlyChild {node child : Node} (hsorted : node.slots.Sorted) {name : String}
    (hchild : node.child? name = some child) : node.ChangesOnlyChild name child := by
  refine ⟨node.storageName name, child?_eq_some_iff.1 hchild, ?_⟩
  intro σ α operation state run
  have hwith : node.withChild name operation state =
      some ⟨node.setChild name run.node, run.result, run.state⟩ := by
    rw [withChild, hchild]
    rfl
  refine ⟨node.setChild name run.node, hwith, child?_setChild node name run.node, ?_, ?_,
    sameKind_put node _ _, ?_⟩
  · rw [setChild, slot?_put, if_pos rfl]
  · intro other hother
    rw [setChild, slot?_put, if_neg hother]
  · intro hsame
    rw [hsame]
    exact setChild_self hsorted hchild

/-! ## Answers of calls -/

/-- A call that puts a slot in place, and succeeds, answers with what a query finds there. -/
theorem query_eq_of_answer {node later : Node} (hkind : node.SameKind later) {name : String}
    {a : Attribute} (ha : node.kind.accessor? name = some a) {result : Except BuildError Unit}
    {state : σ} {slot? : Option Slot} (h : (later.answer a result state).result = .ok slot?) :
    later.query name = .ok slot? := by
  have ha' : later.kind.accessor? name = some a := by rw [hkind.kind_eq, ha]
  rw [query_of_bound ha']
  cases result with
  | error e => cases h
  | ok _ => exact h

/-- **The step.** Whatever course a call takes, if it succeeds it answers with what a query finds
afterwards. -/
theorem Invoked.query_eq {node : Node} {name : String} {values : List Value}
    {block? : Option (Block σ)} {state : σ} {outcome : Outcome σ (Option Slot)}
    (hcall : Invoked node name values block? state outcome) {slot? : Option Slot}
    (h : outcome.result = .ok slot?) : outcome.node.query name = .ok slot? := by
  cases hcall with
  | unbound | valueRefused | noChild | itemRefused => cases h
  | looked ha _ _ _ => exact query_eq_of_answer (.refl node) ha h
  | valueTaken ha _ _ _ => exact query_eq_of_answer (sameKind_put node _ _) ha h
  | childConfigured ha _ _ _ => exact query_eq_of_answer (sameKind_put node _ _) ha h
  | itemsAdded ha _ _ _ _ => exact query_eq_of_answer (sameKind_put node _ _) ha h
  | childrenAdded ha _ _ => exact query_eq_of_answer (sameKind_put node _ _) ha h

/-- A list attribute that is called with nothing is only looked at. -/
theorem invoke_of_nothing {node : Node} {name : String} {a : Attribute}
    (ha : node.kind.accessor? name = some a) (hshape : a.isList = true) (state : σ) :
    node.invoke name [] none state = ⟨node, node.query name, state⟩ := by
  rw [invoke_of_list ha hshape, query_of_bound ha]
  rfl

/-! ## Names of one attribute -/

/-- Nothing that is read or called tells two names apart. -/
structure Interchangeable (node : Node) (name other : String) : Prop where
  query_eq : node.query other = node.query name
  attr?_eq : node.attr? other = node.attr? name
  child?_eq : node.child? other = node.child? name
  withChild_eq : ∀ {σ α : Type} (operation : Node → σ → Outcome σ α) (state : σ),
    node.withChild other operation state = node.withChild name operation state
  invoke_eq : ∀ {σ : Type} (values : List Value) (block? : Option (Block σ)) (state : σ),
    node.invoke other values block? state = node.invoke name values block? state

/-- Names that lead to one attribute are interchangeable. -/
theorem interchangeable {node : Node} {name other : String} {a : Attribute}
    (ha : node.kind.accessor? name = some a) (ha' : node.kind.accessor? other = some a) :
    node.Interchangeable name other := by
  have hplace : node.storageName other = node.storageName name := by
    rw [storageName_of_bound ha, storageName_of_bound ha']
  have hattr : node.attr? other = node.attr? name := by rw [attr?, attr?, hplace]
  have hchild : node.child? other = node.child? name := by rw [child?, child?, hattr]
  refine ⟨?_, hattr, hchild, ?_, ?_⟩
  · rw [query_of_bound ha, query_of_bound ha']
  · intro σ α operation state
    unfold withChild setChild
    rw [hchild, hplace]
  · intro σ values block? state
    unfold invoke
    rw [ha, ha']

/-- In a kind a declared name belongs to one attribute. -/
theorem WellFormed.eq_of_name_eq {node : Node} (h : node.WellFormed) {name other : String}
    {a b : Attribute} (ha : node.kind.accessor? name = some a)
    (hb : node.kind.accessor? other = some b) (hname : a.name = b.name) : a = b := by
  have hdeclared := (h.accessor?_declared ha).1
  rw [hname, (h.accessor?_declared hb).1] at hdeclared
  exact (Option.some.inj hdeclared).symm

/-! ## All paths together -/

/-- The ways of reading a node by a name agree. -/
structure ReadingPaths (node : Node) (name : String) : Prop where
  /-- A query fails for a name that is not callable, and for no other. -/
  query_fails_iff : (∃ e, node.query name = .error e) ↔ node.kind.accessor? name = none
  /-- The slot is the one that the query returns, and there is none where it fails. -/
  attr?_eq : node.attr? name = (node.query name).toOption.join
  /-- The child is the node that is the one value of the slot. -/
  child?_iff : ∀ child,
    node.child? name = some child ↔ node.attr? name = some (.single (.node child))
  changesOnlyChild : ∀ child, node.child? name = some child → node.ChangesOnlyChild name child
  /-- A call that succeeds answers with what the query returns afterwards, -/
  query_of_invoke : ∀ {σ : Type} (values : List Value) (block? : Option (Block σ)) (state : σ)
    (slot? : Option Slot), (node.invoke name values block? state).result = .ok slot? →
      (node.invoke name values block? state).node.query name = .ok slot?
  /-- and on a list attribute a call with nothing is the query. -/
  invoke_nothing : ∀ a, node.kind.accessor? name = some a → a.isList = true →
    ∀ {σ : Type} (state : σ), node.invoke name [] none state = ⟨node, node.query name, state⟩
  interchangeable : ∀ other a b, node.kind.accessor? name = some a →
    node.kind.accessor? other = some b → a.name = b.name → node.Interchangeable name other

/-- **The reading paths agree.** On every reachable node and for every string, callable or not: the
query, the slot, the child and the answers of calls show the same, an operation on the child stays
within its slot, and names of one attribute are interchangeable. -/
theorem Reachable.readingPaths {node : Node} (hnode : node.Reachable) (name : String) :
    node.ReadingPaths name := by
  have h : node.WellFormed := hnode.grown.wellFormed
  refine ⟨?_, h.attr?_eq name, ?_, ?_, ?_, ?_, ?_⟩
  · simp [query_eq_error_iff]
  · exact fun child => child?_eq_some_iff
  · exact fun child hchild => Node.changesOnlyChild h.sorted hchild
  · exact fun values block? state slot? => (node.invoke_invoked name values block? state).query_eq
  · exact fun a ha hshape σ state => invoke_of_nothing ha hshape state
  · intro other a b ha hb hname
    exact Node.interchangeable ha (h.eq_of_name_eq ha hb hname ▸ hb)

/-- The default rule of a policy gets another title in its place. -/
theorem Reachable.readingPaths_sample :
    let rule := sampleRule (.string "first")
    let policy := (fresh sampleRegistry 0).put "default" (.single (.node rule))
    policy.Reachable ∧ policy.attr? "default" = some (.single (.node rule)) ∧
      policy.child? "default" = some rule ∧
      ∃ later, policy.withChild "default"
          (fun child state => ⟨(child.set "title" (.json (.string "second"))).node, .ok (), state⟩)
          () = some (⟨later, .ok (), ()⟩ : Outcome Unit Unit) ∧
        later.child? "default" = some (sampleRule (.string "second")) := by
  intro rule policy
  have ha : (fresh sampleRegistry 0).kind.accessor? "default" = some ⟨"default", false, 1⟩ :=
    Registry.accessor?_default
  have hset : (fresh sampleRegistry 0).set "default" (.node rule) = ⟨policy, .ok (), ()⟩ :=
    set_of_scalar ha rfl ⟨rfl, rfl⟩
  have hroot : (fresh sampleRegistry 0).Reachable :=
    Registry.compiled_sample.reachable_fresh (by decide)
  have hrule : rule.Reachable :=
    (Registry.compiled_sample.reachable_fresh (by decide)).run (runsTo_sampleRule _)
  have hpolicy : policy.Reachable := by
    let op : Operation Unit := .set (.node rule)
    have hop : (op.run (fresh sampleRegistry 0) "default" ()).node = policy :=
      congrArg Outcome.node hset
    refine hroot.run ?_
    rw [← hop]
    refine .operate (.refl _) op "default" () (fun value hvalue => ?_)
      (fun _ hblock => nomatch hblock)
    rw [List.mem_singleton.1 hvalue]
    exact made_node_iff.2 hrule
  have hpaths := hpolicy.readingPaths "default"
  have hattr : policy.attr? "default" = some (.single (.node rule)) := by
    have ha' : policy.kind.accessor? "default" = some ⟨"default", false, 1⟩ := ha
    rw [hpaths.attr?_eq, query_of_bound ha']
    rfl
  have hchild := (hpaths.child?_iff rule).2 hattr
  -- the second title takes the place of the first
  have htitle : (rule.set "title" (.json (.string "second"))).node =
      sampleRule (.string "second") := by
    have hcall : rule.kind.accessor? "title" = some ⟨"title", false, 2⟩ := Registry.accessor?_title
    have hfits : Value.Fits rule.registry 2 (.json (.string "second")) := trivial
    rw [set_of_scalar hcall rfl hfits]
    exact put_put _ _ _ _
  obtain ⟨attr, -, hoperation⟩ := hpaths.changesOnlyChild rule hchild
  obtain ⟨later, hlater, hchild', -⟩ := hoperation (fun child (state : Unit) =>
    ⟨(child.set "title" (.json (.string "second"))).node, .ok (), state⟩) ()
  exact ⟨hpolicy, hattr, hchild, later, hlater, htitle ▸ hchild'⟩

end Node

end SchemaNodes
