import SchemaNodes.Proofs.Node.Operation
import SchemaNodes.Proofs.Registry.Compiled

/-!
# Refusals

Which operations are refused, with which error, and that a refusal leaves no trace. An operation
checks everything that it can be refused for before it changes anything or runs its block, so an
operation that fails in another way fails with an error of its block.

* **`Operation.Refused`**: the five reasons.
* **`Refused.run_eq`**: what is refused leaves the node as it was, and its block alone.
* **`refused_or_blockFailed`**: there is no other way to fail.
* **`refused_iff`**: the two together.
-/

namespace SchemaNodes

variable {σ : Type}

namespace Operation

/-- The operation is refused, with the error. -/
inductive Refused (op : Operation σ) (node : Node) (name : String) : BuildError → Prop where
  /-- The name leads nowhere. -/
  | unbound (ha : node.kind.accessor? name = none) :
      Refused op node name (node.unknownAccessor name)
  /-- The first value for a scalar attribute is a node of another registry or kind. -/
  | valueMisfits {a : Attribute} {child : Node} {rest : List Value}
      (ha : node.kind.accessor? name = some a) (hshape : a.isList = false)
      (hvalues : op.values = .node child :: rest)
      (hfits : ¬ Value.Fits node.registry a.target (.node child)) :
      Refused op node name (node.mismatch a child)
  /-- The first value for a scalar attribute is not a node, and there is a block to run on it. -/
  | noChild {a : Attribute} {value : Value} {rest : List Value}
      (ha : node.kind.accessor? name = some a) (hshape : a.isList = false)
      (hblock : op.block? ≠ none) (hvalues : op.values = value :: rest)
      (hleaf : ∀ child, value ≠ .node child) :
      Refused op node name (.notANode a.name)
  /-- Some item that the values for a list attribute are replaced by is a node of another registry or
  kind, and there is no block; the error is that of the first such item. -/
  | itemMisfits {a : Attribute} {before after : List Value} {child : Node}
      (ha : node.kind.accessor? name = some a) (hshape : a.isList = true)
      (hblock : op.block? = none)
      (hitems : op.values.flatMap Value.pieces = before ++ .node child :: after)
      (hbefore : ∀ value ∈ before, value.Fits node.registry a.target)
      (hfits : ¬ Value.Fits node.registry a.target (.node child)) :
      Refused op node name (node.mismatch a child)
  /-- The operation is an append, and the attribute is scalar. -/
  | appendToScalar {a : Attribute} {values : List Value}
      (ha : node.kind.accessor? name = some a) (hshape : a.isList = false)
      (hop : op = .append values) :
      Refused op node name
        (.typeMismatch a.name (node.registry.kind a.target).name "list of values")

/-! ## Refusals leave no trace -/

/-- An operation is refused with its call, unless it reads or appends to a scalar attribute. -/
theorem run_eq_refuse {op : Operation σ} {node : Node} {name : String} {state : σ}
    {e : BuildError} (hquery : op ≠ .query)
    (happend : ∀ values a, op = .append values → node.kind.accessor? name = some a →
      a.isList = true)
    (hcall : node.invoke name op.values op.block? state = node.refuse e state) :
    op.run node name state = node.refuse e state := by
  cases op.carried node name state with
  | read hop => exact absurd hop hquery
  | @appendRefused values a hop ha hshape _ =>
    have hlist := happend values a hop ha
    simp [hshape] at hlist
  | called _ _ hfollows =>
    have hnode := hfollows.node_eq
    have hstate := hfollows.state_eq
    have hresult := (hfollows.error_iff e).2 (by rw [hcall]; rfl)
    rw [hcall] at hnode hstate
    cases hrun : op.run node name state with
    | mk node' result state' =>
      rw [hrun] at hnode hstate hresult
      cases hnode
      cases hstate
      cases hresult
      rfl

/-- No block is run if the call runs none. -/
theorem runs_eq_nil {op : Operation σ} {node : Node} {name : String} {state : σ}
    (h : ∀ block, op.block? = some block → node.blockRuns name op.values block state = []) :
    op.runs node name state = [] := by
  cases hblock : op.block? with
  | none => exact runs_of_no_block hblock node name state
  | some block => rw [runs_of_block hblock, h block hblock]

/-- What is refused leaves node and state as they were, and runs no block. -/
theorem Refused.run_eq {op : Operation σ} {node : Node} {name : String} {e : BuildError}
    (h : op.Refused node name e) (state : σ) :
    op.run node name state = node.refuse e state ∧ op.runs node name state = [] := by
  cases h with
  | unbound ha =>
    refine ⟨?_, runs_eq_nil fun block _ => Node.blockRuns_of_unbound ha⟩
    by_cases hquery : op = .query
    · -- reading goes through the table as well
      rw [hquery]
      simp only [run, Node.query, ha]
      rfl
    · exact run_eq_refuse hquery (fun _ _ _ hb => by simp [ha] at hb) (Node.invoke_of_unbound ha ..)
  | valueMisfits ha hshape hvalues hfits =>
    have hvalue := Node.scalarValue_eq_error_iff.2 ⟨_, _, hvalues, hfits, rfl⟩
    refine ⟨run_eq_refuse ?_ ?_ (Node.invoke_of_valueRefused ha hshape hvalue ..),
      runs_eq_nil fun block _ => Node.blockRuns_of_valueRefused ha hshape hvalue⟩
    · rintro rfl
      simp [values] at hvalues
    · rintro items b rfl
      simp [values] at hvalues
  | @noChild a value rest ha hshape hblock hvalues hleaf =>
    obtain ⟨block, hsome⟩ := Option.ne_none_iff_exists'.1 hblock
    -- leaves and lists pass the check of the value, and only then is a child missed
    have hvalue : node.scalarValue a op.values = .ok value := by
      refine Node.scalarValue_eq_ok_iff.2 (.inr ⟨⟨rest, hvalues⟩, ?_⟩)
      cases value with
      | node child => exact absurd rfl (hleaf child)
      | list items => trivial
      | json leaf => trivial
    refine ⟨run_eq_refuse ?_ ?_ ?_,
      runs_eq_nil fun block _ => Node.blockRuns_of_noChild ha hshape hvalue hleaf⟩
    · rintro rfl
      simp [values] at hvalues
    · -- an append has no block
      rintro items b rfl
      exact absurd rfl hblock
    · rw [hsome]
      exact Node.invoke_of_noChild ha hshape hvalue hleaf block state
  | itemMisfits ha hshape hblock hitems hbefore hfits =>
    have hcheck := Node.checkValues_eq_error_iff.2
      ⟨_, _, _, (splice_eq_flatMap _).trans hitems, hbefore, hfits, rfl⟩
    refine ⟨run_eq_refuse ?_ ?_ ?_, runs_of_no_block hblock node name state⟩
    · rintro rfl
      simp [values] at hitems
    · intro items b _ hb
      rw [← Option.some.inj (ha.symm.trans hb)]
      exact hshape
    · rw [hblock]
      exact Node.invoke_of_itemRefused ha hshape hcheck state
  | appendToScalar ha hshape hop =>
    subst hop
    refine ⟨?_, rfl⟩
    exact congrArg (Outcome.silent · state) (Node.append_of_scalar ha hshape _)

/-! ## There is no other way to fail -/

/-- A call that fails is refused, or its block has failed with the error. -/
theorem refused_or_blockFailed_of_invoked {op : Operation σ} {node : Node} {name : String}
    {state : σ} {e : BuildError} {outcome : Outcome σ (Option Slot)}
    (hcall : node.Invoked name op.values op.block? state outcome)
    (h : outcome.result = .error e) :
    op.Refused node name e ∨
      ∃ block, op.block? = some block ∧
        ∃ run ∈ op.runs node name state, (run.outcome block).result = .error e := by
  cases hcall with
  | unbound ha =>
    cases h
    exact .inl (.unbound ha)
  | valueRefused ha hshape hvalue =>
    cases h
    obtain ⟨child, rest, hvalues, hfits, rfl⟩ := Node.scalarValue_eq_error_iff.1 hvalue
    exact .inl (.valueMisfits ha hshape hvalues hfits)
  | valueTaken | looked | itemsAdded => cases h
  | @childConfigured a child block ha hshape hsome hvalue =>
    refine .inr ⟨block, hsome, ⟨child, none, state⟩, ?_, Node.map_eq_error_iff.1 h⟩
    rw [runs_of_block hsome]
    exact (Node.mem_blockRuns_of_scalar ha hshape).2 ⟨child, hvalue, rfl⟩
  | noChild ha hshape hsome hvalue hleaf =>
    cases h
    rcases Node.scalarValue_eq_ok_iff.1 hvalue with ⟨-, rfl⟩ | ⟨⟨rest, hvalues⟩, -⟩
    · exact absurd rfl (hleaf _)
    · exact .inl (.noChild ha hshape (by simp [hsome]) hvalues hleaf)
  | itemRefused ha hshape hblock _ hcheck =>
    cases h
    obtain ⟨before, child, after, hitems, hbefore, hfits, rfl⟩ :=
      Node.checkValues_eq_error_iff.1 hcheck
    rw [splice_eq_flatMap] at hitems
    exact .inl (.itemMisfits ha hshape hblock hitems hbefore hfits)
  | @childrenAdded a block ha hshape hsome =>
    obtain ⟨run, hrun, he⟩ := Node.error_of_configureEach (Node.map_eq_error_iff.1 h)
    refine .inr ⟨block, hsome, run, ?_, he⟩
    rw [runs_of_block hsome, Node.blockRuns_of_list ha hshape]
    exact hrun

/-- An operation that fails is refused, or its block has failed with the error. -/
theorem refused_or_blockFailed {op : Operation σ} {node : Node} {name : String} {state : σ}
    {e : BuildError} (h : (op.run node name state).result = .error e) :
    op.Refused node name e ∨
      ∃ block, op.block? = some block ∧
        ∃ run ∈ op.runs node name state, (run.outcome block).result = .error e := by
  cases op.carried node name state with
  | read hop =>
    subst hop
    have hread : node.query name = .error e := h
    cases ha : node.kind.accessor? name with
    | none =>
      simp only [Node.query, ha, Except.error.injEq] at hread
      rw [← hread]
      exact .inl (.unbound ha)
    | some a => simp [Node.query, ha] at hread
  | appendRefused hop ha hshape hrun =>
    rw [hrun] at h
    cases h
    exact .inl (.appendToScalar ha hshape hop)
  | called _ _ hfollows =>
    exact refused_or_blockFailed_of_invoked (node.invoke_invoked _ _ _ _)
      ((hfollows.error_iff e).1 h)

/-- **Refusals are exact and leave no trace.** On every node, an operation fails before it runs its
block if and only if it is refused for one of the five reasons, and with the error of the reason.
The whole node is then as it was before, and so is the state. An operation that fails in another way
fails with an error that its block has returned. -/
theorem refused_iff (op : Operation σ) (node : Node) (name : String) (state : σ) :
    (∀ e, (op.run node name state).result = .error e ∧ op.runs node name state = [] ↔
      op.Refused node name e) ∧
    (∀ e, op.Refused node name e ↔
      op.run node name state = ⟨node, .error e, state⟩ ∧ op.runs node name state = []) ∧
    ∀ e, (op.run node name state).result = .error e →
      op.Refused node name e ∨
        ∃ block, op.block? = some block ∧
          ∃ run ∈ op.runs node name state, (run.outcome block).result = .error e := by
  have hfails : ∀ e, (op.run node name state).result = .error e ∧ op.runs node name state = [] →
      op.Refused node name e := by
    rintro e ⟨herror, hruns⟩
    rcases refused_or_blockFailed herror with hrefused | ⟨block, -, run, hrun, -⟩
    · exact hrefused
    · rw [hruns] at hrun
      exact absurd hrun List.not_mem_nil
  refine ⟨fun e => ⟨hfails e, fun h => ?_⟩, fun e => ⟨fun h => h.run_eq state, fun h => ?_⟩,
    fun e => refused_or_blockFailed⟩
  · obtain ⟨hrun, hruns⟩ := h.run_eq state
    exact ⟨by rw [hrun]; rfl, hruns⟩
  · exact hfails e ⟨by rw [h.1], h.2⟩

/-- The registry of the sample once more, compiled apart from it. -/
def otherRegistry : Registry := { sampleRegistry with serial := 1 }

/-- An append to the default rule of a policy is refused even without values. A rule of another
registry is refused inside a list, behind a rule that has its place, and neither is added. -/
theorem refused_iff_sample :
    let policy := Node.fresh sampleRegistry 0
    let values : List Value := [.json (.string "first"),
      .list [.node (.fresh sampleRegistry 1), .node (.fresh otherRegistry 1)]]
    (Operation.append [] : Operation Unit).Refused policy "default"
        (.typeMismatch "default" "Rule" "list of values") ∧
      (Operation.append [] : Operation Unit).run policy "default" () =
        ⟨policy, .error (.typeMismatch "default" "Rule" "list of values"), ()⟩ ∧
      (Operation.invoke values none : Operation Unit).Refused policy "rules"
        (.typeMismatch "rules" "Rule" "Rule from another registry") ∧
      (Operation.invoke values none : Operation Unit).run policy "rules" () =
        ⟨policy, .error (.typeMismatch "rules" "Rule" "Rule from another registry"), ()⟩ := by
  intro policy values
  have ha : policy.kind.accessor? "default" = some ⟨"default", false, 1⟩ :=
    Registry.accessor?_default
  have happend : (Operation.append [] : Operation Unit).Refused policy "default"
      (.typeMismatch "default" "Rule" "list of values") := .appendToScalar ha rfl rfl
  have hother : (Node.fresh otherRegistry 1).registry ≠ policy.registry := fun h =>
    absurd (congrArg Registry.serial h) (by decide)
  have hname : policy.mismatch ⟨"rules", true, 1⟩ (.fresh otherRegistry 1) =
      .typeMismatch "rules" "Rule" "Rule from another registry" := by
    rw [Node.mismatch, Node.foundName, if_neg hother]
    rfl
  have hinvoke : (Operation.invoke values none : Operation Unit).Refused policy "rules"
      (.typeMismatch "rules" "Rule" "Rule from another registry") := by
    have hitems : values.flatMap Value.pieces =
        [.json (.string "first"), .node (.fresh sampleRegistry 1)] ++
          [.node (.fresh otherRegistry 1)] := rfl
    rw [← hname]
    refine .itemMisfits Registry.accessor?_rules rfl rfl hitems ?_ fun hfits => hother hfits.1
    exact List.forall_mem_cons.2 ⟨trivial, List.forall_mem_singleton.2 ⟨rfl, rfl⟩⟩
  exact ⟨happend, (((refused_iff _ _ _ ()).2.1 _).1 happend).1, hinvoke,
    (((refused_iff _ _ _ ()).2.1 _).1 hinvoke).1⟩

end Operation

end SchemaNodes
