import SchemaNodes.Proofs.Node.Alike
import SchemaNodes.Proofs.Node.Procedure

/-!
# Runs side by side

Alike arguments handed to alike nodes: every operation succeeds or fails on both sides, with the
same error, and leaves alike nodes behind. The statements follow the library from the check of a
value up to a whole operation, one for each function, with blocks as functions that do alike things
to alike children (`Block.Alike`). What is asked of blocks is then discharged for procedures, by an
induction.

* **`Operation.Alike.run`**: the step, for every operation.
* **`Procedure.Alike.run`**: the run. Procedures that differ in alike arguments are told the same
  and leave alike nodes (`Procedure.Alike.sameRun`).
-/

namespace SchemaNodes

variable {σ σ' : Type} {c : Correspondence} {S : σ → σ' → Prop}

/-! ## Alike outcomes -/

/-- Results that are both successes, with related answers, or fail with one error. -/
inductive SameResult {α α' : Type} (R : α → α' → Prop) :
    Except BuildError α → Except BuildError α' → Prop where
  | ok {a : α} {a' : α'} (h : R a a') : SameResult R (.ok a) (.ok a')
  | error (e : BuildError) : SameResult R (.error e) (.error e)

theorem SameResult.refl {α : Type} (result : Except BuildError α) :
    SameResult Eq result result := by
  cases result with
  | ok a => exact .ok rfl
  | error e => exact .error e

theorem SameResult.eq {α : Type} {result result' : Except BuildError α}
    (h : SameResult Eq result result') : result' = result := by
  cases h with
  | ok h => rw [h]
  | error e => rfl

theorem SameResult.map {α α' β β' : Type} {R : α → α' → Prop} {T : β → β' → Prop}
    {result : Except BuildError α} {result' : Except BuildError α'}
    (h : SameResult R result result') {f : α → β} {f' : α' → β'}
    (hf : ∀ {a a'}, R a a' → T (f a) (f' a')) :
    SameResult T (result.map f) (result'.map f') := by
  cases h with
  | ok h => exact .ok (hf h)
  | error e => exact .error e

/-- Alike nodes, results with related answers, and related states. -/
structure Outcome.Alike {α α' : Type} (c : Correspondence) (S : σ → σ' → Prop) (R : α → α' → Prop)
    (outcome : Outcome σ α) (outcome' : Outcome σ' α') : Prop where
  node : outcome.node.Alike c outcome'.node
  result : SameResult R outcome.result outcome'.result
  state : S outcome.state outcome'.state

/-- Blocks that do alike things to alike children, for alike items and from related states. -/
def Block.Alike (c : Correspondence) (S : σ → σ' → Prop) (block : Block σ) (block' : Block σ') :
    Prop :=
  ∀ {child child' item? item?' state state'}, child.Alike c child' →
    Option.Rel (Value.Alike c) item? item?' → S state state' →
      (block child item? state).Alike c S Eq (block' child' item?' state')

theorem Outcome.Alike.ignore {α α' : Type} {R : α → α' → Prop} {outcome : Outcome σ α}
    {outcome' : Outcome σ' α'} (h : outcome.Alike c S R outcome') :
    outcome.ignore.Alike c S Eq outcome'.ignore :=
  ⟨h.node, h.result.map fun _ => rfl, h.state⟩

/-! ## Checks

An attribute admits a node by comparing its registry and its id with what is expected. Both
comparisons come out the same on either side, and so does the text of the error: it is made of
names, which correspond, and of the same comparison. -/

namespace Node

variable {node node' child child' : Node} {a a' : Attribute} {value value' : Value}
  {values values' : List Value} {block? : Option (Block σ)} {block?' : Option (Block σ')}
  {state : σ} {state' : σ'}

theorem Alike.foundName_eq (h : node.Alike c node') (hchild : child.Alike c child') :
    node'.foundName child' = node.foundName child := by
  have hregistry := c.registry_iff h.kinds hchild.kinds
  unfold foundName
  rw [hchild.kindName_eq]
  by_cases hsame : child.registry = node.registry
  · rw [if_pos hsame, if_pos (hregistry.2 hsame)]
  · rw [if_neg hsame, if_neg (hsame ∘ hregistry.1)]

/-- Whether a node has its place under an attribute. -/
theorem Alike.fits_iff (h : node.Alike c node')
    (ha : a.Matches c.kinds node.registry node'.registry a') (hchild : child.Alike c child') :
    (child'.registry = node'.registry ∧ child'.kindId = a'.target) ↔
      (child.registry = node.registry ∧ child.kindId = a.target) := by
  have hregistry := c.registry_iff h.kinds hchild.kinds
  -- Ids say nothing across registries; they are only compared once the registries agree.
  have hid : child.registry = node.registry →
      (child'.kindId = a'.target ↔ child.kindId = a.target) := by
    intro hsame
    have hkinds := hchild.kinds
    rw [hsame, hregistry.2 hsame] at hkinds
    exact c.id_iff ha.target hkinds
  constructor
  · rintro ⟨hsame', htarget'⟩
    have hsame := hregistry.1 hsame'
    exact ⟨hsame, (hid hsame).1 htarget'⟩
  · rintro ⟨hsame, htarget⟩
    exact ⟨hregistry.2 hsame, (hid hsame).2 htarget⟩

theorem Alike.checkValue_eq (h : node.Alike c node')
    (ha : a.Matches c.kinds node.registry node'.registry a') (hvalue : value.Alike c value') :
    node'.checkValue a' value' = node.checkValue a value := by
  cases hvalue with
  | node hchild =>
    have hfits := h.fits_iff ha hchild
    have htarget := c.name_eq ha.target
    simp only [checkValue, Bool.and_eq_true, decide_eq_true_eq, beq_iff_eq, hfits, ha.name_eq,
      htarget, h.foundName_eq hchild]
  -- leaves and lists are trusted, so that it makes no difference which of them an array is
  | list _ => rfl
  | leaf _ => rfl
  | @unpacked leaf _ _ hleaf =>
    subst hleaf
    cases leaf with
    | array _ | null | bool _ | number _ | string _ | object _ => rfl

/-- A batch is refused for the same value. -/
theorem Alike.checkValues_eq (h : node.Alike c node')
    (ha : a.Matches c.kinds node.registry node'.registry a')
    (hvalues : List.Forall₂ (Value.Alike c) values values') :
    node'.checkValues a' values' = node.checkValues a values := by
  induction hvalues with
  | nil => rfl
  | cons hvalue _ ih => rw [checkValues, checkValues, h.checkValue_eq ha hvalue, ih]

/-! ## Calls -/

/-- Alike slots under matching attributes. -/
theorem Alike.store (h : node.Alike c node')
    (ha : a.Matches c.kinds node.registry node'.registry a') {slot slot' : Slot}
    (hslot : slot.Alike c slot') : (node.put a.name slot).Alike c (node'.put a'.name slot') := by
  rw [ha.name_eq]
  exact h.put a.name hslot

theorem Alike.refuse {α α' : Type} {R : α → α' → Prop} (h : node.Alike c node') (error : BuildError)
    (hstate : S state state') :
    (node.refuse error state).Alike c S R (node'.refuse error state') :=
  ⟨h, .error error, hstate⟩

theorem Alike.answer (h : node.Alike c node')
    (ha : a.Matches c.kinds node.registry node'.registry a')
    {result result' : Except BuildError Unit} (hresult : SameResult Eq result result')
    (hstate : S state state') :
    (node.answer a result state).Alike c S (Option.Rel (Slot.Alike c))
      (node'.answer a' result' state') := by
  refine ⟨h, hresult.map fun _ => ?_, hstate⟩
  rw [ha.name_eq]
  exact h.slot? a.name

theorem Alike.scalarValue (h : node.Alike c node')
    (ha : a.Matches c.kinds node.registry node'.registry a')
    (hvalues : List.Forall₂ (Value.Alike c) values values') :
    SameResult (Value.Alike c) (node.scalarValue a values) (node'.scalarValue a' values') := by
  cases hvalues with
  | nil => exact .ok (.node (.spawn ha))
  | @cons value value' _ _ hvalue _ =>
    rw [Node.scalarValue, Node.scalarValue, h.checkValue_eq ha hvalue]
    cases node.checkValue a value with
    | error e => exact .error e
    | ok _ => exact .ok hvalue

theorem Alike.callScalar (h : node.Alike c node')
    (ha : a.Matches c.kinds node.registry node'.registry a')
    (hvalues : List.Forall₂ (Value.Alike c) values values')
    (hblock : Option.Rel (Block.Alike c S) block? block?') (hstate : S state state') :
    (node.callScalar a values block? state).Alike c S (Option.Rel (Slot.Alike c))
      (node'.callScalar a' values' block?' state') := by
  have hresult := h.scalarValue ha hvalues
  unfold Node.callScalar
  generalize node.scalarValue a values = result, node'.scalarValue a' values' = result' at hresult
  cases hresult with
  | error e => exact h.refuse e hstate
  | ok hvalue =>
    cases hblock with
    | none => exact (h.store ha (.single hvalue)).answer ha (.refl _) hstate
    | some hblock =>
      -- whatever is no node, in whichever form, is refused by the name of the attribute
      have hrefused : (node.refuse (.notANode a.name) state).Alike c S (Option.Rel (Slot.Alike c))
          (node'.refuse (.notANode a'.name) state') := by
        rw [ha.name_eq]
        exact h.refuse _ hstate
      cases hvalue with
      | node hchild =>
        obtain ⟨hnode, hrun, hstate⟩ := hblock hchild .none hstate
        exact (h.store ha (.single (.node hnode))).answer ha hrun hstate
      | list _ => exact hrefused
      | leaf _ => exact hrefused
      | @unpacked leaf _ _ hleaf =>
        subst hleaf
        cases leaf with
        | array _ | null | bool _ | number _ | string _ | object _ => exact hrefused

theorem configureEach_cons_of_error {block : Block σ} {item : Option Value} {e : BuildError}
    (h : (block child item state).result = .error e) (rest : List (Option Value)) :
    configureEach child block (item :: rest) state =
      ([.node (block child item state).node], .error e, (block child item state).state) := by
  simp only [configureEach, h]

theorem configureEach_cons_of_ok {block : Block σ} {item : Option Value}
    (h : (block child item state).result = .ok ()) (rest : List (Option Value)) :
    configureEach child block (item :: rest) state =
      (.node (block child item state).node ::
          (configureEach child block rest (block child item state).state).1,
        (configureEach child block rest (block child item state).state).2) := by
  simp only [configureEach, h]

/-- The children that a block is run on, one after the other. The induction is over the items, and
the states go from each run to the next. -/
theorem configureEach_alike (hchild : child.Alike c child') {block : Block σ} {block' : Block σ'}
    (hblock : block.Alike c S block') {items items' : List (Option Value)}
    (hitems : List.Forall₂ (Option.Rel (Value.Alike c)) items items') (hstate : S state state') :
    List.Forall₂ (Value.Alike c) (configureEach child block items state).1
        (configureEach child' block' items' state').1 ∧
      SameResult Eq (configureEach child block items state).2.1
        (configureEach child' block' items' state').2.1 ∧
      S (configureEach child block items state).2.2
        (configureEach child' block' items' state').2.2 := by
  induction hitems generalizing state state' with
  | nil => exact ⟨.nil, .refl _, hstate⟩
  | @cons item item' rest rest' hitem _ ih =>
    obtain ⟨hnode, hresult, hnext⟩ := hblock hchild hitem hstate
    -- both loops stop here, or both go on with the states that the blocks have left
    have hresult' := hresult.eq
    cases hrun : (block child item state).result with
    | error e =>
      rw [hrun] at hresult'
      rw [configureEach_cons_of_error hrun, configureEach_cons_of_error hresult']
      exact ⟨.cons (.node hnode) .nil, .refl _, hnext⟩
    | ok _ =>
      rw [hrun] at hresult'
      rw [configureEach_cons_of_ok hrun, configureEach_cons_of_ok hresult']
      obtain ⟨hchildren, hrest, hlast⟩ := ih hnext
      exact ⟨.cons (.node hnode) hchildren, hrest, hlast⟩

theorem Alike.callList (h : node.Alike c node')
    (ha : a.Matches c.kinds node.registry node'.registry a')
    (hvalues : List.Forall₂ (Value.Alike c) values values')
    (hblock : Option.Rel (Block.Alike c S) block? block?') (hstate : S state state') :
    (node.callList a values block? state).Alike c S (Option.Rel (Slot.Alike c))
      (node'.callList a' values' block?' state') := by
  have hlist : List.Forall₂ (Value.Alike c) (node.listOf a.name) (node'.listOf a'.name) := by
    rw [ha.name_eq]
    exact h.listOf a.name
  cases hblock with
  | some hblock =>
    -- with a block, as many children are added on both sides as there are items
    obtain ⟨hchildren, hresult, hstate⟩ :=
      configureEach_alike (.spawn ha) hblock (blockItems_alike hvalues) hstate
    exact (h.store ha (.items (List.rel_append hlist hchildren))).answer ha hresult hstate
  | none =>
    have hsplice := splice_alike hvalues
    cases hvalues with
    | nil => exact h.answer ha (.refl _) hstate
    | @cons value value' rest rest' _ _ =>
      simp only [Node.callList, List.isEmpty_cons, h.checkValues_eq ha hsplice]
      cases node.checkValues a (splice (value :: rest)) with
      | error e => exact h.refuse e hstate
      | ok _ =>
        exact (h.store ha (.items (List.rel_append hlist hsplice))).answer ha (.refl _) hstate

theorem Alike.invoke (h : node.Alike c node') (name : String)
    (hvalues : List.Forall₂ (Value.Alike c) values values')
    (hblock : Option.Rel (Block.Alike c S) block? block?') (hstate : S state state') :
    (node.invoke name values block? state).Alike c S (Option.Rel (Slot.Alike c))
      (node'.invoke name values' block?' state') := by
  match ha : node.kind.accessor? name, ha' : node'.kind.accessor? name, h.accessor? name with
  | _, _, .none =>
    simp only [Node.invoke, ha, ha', h.unknownAccessor_eq]
    exact h.refuse _ hstate
  | some a, some a', .some hmatch =>
    cases hshape : a.isList with
    | true =>
      rw [invoke_of_list ha hshape, invoke_of_list ha' (hmatch.isList_eq.trans hshape)]
      exact h.callList hmatch hvalues hblock hstate
    | false =>
      rw [invoke_of_scalar ha hshape, invoke_of_scalar ha' (hmatch.isList_eq.trans hshape)]
      exact h.callScalar hmatch hvalues hblock hstate

theorem Alike.query (h : node.Alike c node') (name : String) :
    SameResult (Option.Rel (Slot.Alike c)) (node.query name) (node'.query name) := by
  unfold Node.query
  match node.kind.accessor? name, node'.kind.accessor? name, h.accessor? name with
  | _, _, .none =>
    rw [h.unknownAccessor_eq]
    exact .error _
  | some a, some a', .some hmatch =>
    simp only [hmatch.name_eq]
    exact .ok (h.slot? a.name)

/-- A call that only hands the state on. -/
theorem Alike.invoke_silent (h : node.Alike c node') (name : String)
    (hvalues : List.Forall₂ (Value.Alike c) values values') :
    (node.invoke name values (none : Option (Block Unit)) ()).ignore.Alike c Eq Eq
      (node'.invoke name values' (none : Option (Block Unit)) ()).ignore :=
  (h.invoke name hvalues .none rfl).ignore

theorem Alike.append (h : node.Alike c node') (name : String)
    (hvalues : List.Forall₂ (Value.Alike c) values values') :
    (node.append name values).Alike c Eq Eq (node'.append name values') := by
  have hcall := h.invoke_silent name (.cons (.list hvalues) .nil)
  match ha : node.kind.accessor? name, ha' : node'.kind.accessor? name, h.accessor? name with
  | _, _, .none =>
    rw [append_eq_invoke (by simp [ha]), append_eq_invoke (by simp [ha'])]
    exact hcall
  | some a, some a', .some hmatch =>
    cases hshape : a.isList with
    | true =>
      rw [append_eq_invoke (by simpa [ha] using hshape),
        append_eq_invoke (by simpa [ha', hmatch.isList_eq] using hshape)]
      exact hcall
    | false =>
      rw [append_of_scalar ha hshape, append_of_scalar ha' (hmatch.isList_eq.trans hshape),
        hmatch.name_eq, c.name_eq hmatch.target]
      exact h.refuse _ rfl

/-- An operation on a child is put back in its place, on both sides or on neither. -/
theorem Alike.withChild {α α' : Type} {R : α → α' → Prop} (h : node.Alike c node') (name : String)
    {operation : Node → σ → Outcome σ α} {operation' : Node → σ' → Outcome σ' α'}
    (hoperation : ∀ {child child' state state'}, child.Alike c child' → S state state' →
      (operation child state).Alike c S R (operation' child' state'))
    (hstate : S state state') :
    Option.Rel (Outcome.Alike c S R) (node.withChild name operation state)
      (node'.withChild name operation' state') := by
  unfold Node.withChild
  match node.child? name, node'.child? name, h.child? name with
  | _, _, .none => exact .none
  | _, _, .some hchild =>
    obtain ⟨hnode, hresult, hstate⟩ := hoperation hchild hstate
    exact .some ⟨h.setChild name hnode, hresult, hstate⟩

end Node

/-! ## Operations -/

theorem Outcome.Alike.silent {τ τ' α α' : Type} {T : τ → τ' → Prop} {R : α → α' → Prop}
    {outcome : Outcome τ α} {outcome' : Outcome τ' α'} (h : outcome.Alike c T R outcome')
    {state : σ} {state' : σ'} (hstate : S state state') :
    (outcome.silent state).Alike c S (Option.Rel (Slot.Alike c)) (outcome'.silent state') :=
  ⟨h.node, h.result.map fun _ => .none, hstate⟩

/-- One operation with alike arguments and blocks. -/
inductive Operation.Alike (c : Correspondence) (S : σ → σ' → Prop) :
    Operation σ → Operation σ' → Prop where
  | invoke {values values' block? block?'} (hvalues : List.Forall₂ (Value.Alike c) values values')
      (hblock : Option.Rel (Block.Alike c S) block? block?') :
      Operation.Alike c S (.invoke values block?) (.invoke values' block?')
  | query : Operation.Alike c S .query .query
  | set {value value'} (hvalue : value.Alike c value') :
      Operation.Alike c S (.set value) (.set value')
  | append {values values'} (hvalues : List.Forall₂ (Value.Alike c) values values') :
      Operation.Alike c S (.append values) (.append values')
  | build {block block'}
      (hblock : ∀ {child child' state state'}, child.Alike c child' → S state state' →
        (block child state).Alike c S Eq (block' child' state')) :
      Operation.Alike c S (.build block) (.build block')
  | each {values values' block block'} (hvalues : List.Forall₂ (Value.Alike c) values values')
      (hblock : ∀ {child child' item item' state state'}, child.Alike c child' →
        item.Alike c item' → S state state' →
          (block child item state).Alike c S Eq (block' child' item' state')) :
      Operation.Alike c S (.each values block) (.each values' block')

namespace Operation

theorem Alike.values {op : Operation σ} {op' : Operation σ'} (hop : op.Alike c S op') :
    List.Forall₂ (Value.Alike c) op.values op'.values := by
  cases hop with
  | invoke hvalues _ => exact hvalues
  | query => exact .nil
  | set hvalue => exact .cons hvalue .nil
  | append hvalues => exact .cons (.list hvalues) .nil
  | build _ => exact .nil
  | each hvalues _ => exact .cons (.list hvalues) .nil

theorem Alike.block? {op : Operation σ} {op' : Operation σ'} (hop : op.Alike c S op') :
    Option.Rel (Block.Alike c S) op.block? op'.block? := by
  cases hop with
  | invoke _ hblock => exact hblock
  | query | set _ | append _ => exact .none
  | build hblock => exact .some fun hchild _ hstate => hblock hchild hstate
  | each _ hblock =>
    refine .some fun hchild hitem hstate => ?_
    cases hitem with
    | none => exact ⟨hchild, .refl _, hstate⟩
    | some hitem => exact hblock hchild hitem hstate

/-- The step: an operation on alike nodes leads to alike nodes, to alike answers or the same error,
and to related states. -/
theorem Alike.run {op : Operation σ} {op' : Operation σ'} (hop : op.Alike c S op')
    {node node' : Node} (h : node.Alike c node') (name : String) {state : σ} {state' : σ'}
    (hstate : S state state') :
    (op.run node name state).Alike c S (Option.Rel (Slot.Alike c)) (op'.run node' name state') := by
  have hcall := h.invoke name hop.values hop.block? hstate
  -- set and append make their call without the state, which goes around it
  cases hop with
  | invoke _ _ => exact hcall
  | query => exact ⟨h, h.query name, hstate⟩
  | set hvalue => exact (h.invoke_silent name (.cons hvalue .nil)).silent hstate
  | append hvalues => exact (h.append name hvalues).silent hstate
  | build _ => exact hcall.ignore.silent hcall.state
  | each _ _ => exact hcall.ignore.silent hcall.state

end Operation

/-! ## Procedures

Two procedures that do the same, but may differ in alike arguments. What they go on with may depend
on what they are told in any way: the same events lead to alike procedures. -/

namespace Procedure

/-- Arguments with alike values, or items from the same place. -/
inductive Operand.Alike (c : Correspondence) : Operand → Operand → Prop where
  | value {value value' : Value} (h : value.Alike c value') :
      Operand.Alike c (.value value) (.value value')
  | item (place : Nat) : Operand.Alike c (.item place) (.item place)
  | list {operands operands' : List Operand}
      (h : List.Forall₂ (Operand.Alike c) operands operands') :
      Operand.Alike c (.list operands) (.list operands')

/-- One form with alike arguments. -/
inductive Form.Alike (c : Correspondence) : Form → Form → Prop where
  | invoke {operands operands'} (h : List.Forall₂ (Operand.Alike c) operands operands') :
      Form.Alike c (.invoke operands) (.invoke operands')
  | configure {operands operands'} (h : List.Forall₂ (Operand.Alike c) operands operands') :
      Form.Alike c (.configure operands) (.configure operands')
  | query : Form.Alike c .query .query
  | set {operand operand'} (h : operand.Alike c operand') :
      Form.Alike c (.set operand) (.set operand')
  | append {operands operands'} (h : List.Forall₂ (Operand.Alike c) operands operands') :
      Form.Alike c (.append operands) (.append operands')
  | build : Form.Alike c .build .build
  | each {operands operands'} (h : List.Forall₂ (Operand.Alike c) operands operands') :
      Form.Alike c (.each operands) (.each operands')

end Procedure

open Procedure in
/-- Procedures that do the same with alike arguments. -/
inductive Procedure.Alike (c : Correspondence) : Procedure → Procedure → Prop where
  | finish (result : Except BuildError Unit) : Procedure.Alike c (.finish result) (.finish result)
  | operate (name : String) {form form' : Form} {block block' next next' : List Event → Procedure}
      (hform : form.Alike c form')
      (hblock : ∀ events, Procedure.Alike c (block events) (block' events))
      (hnext : ∀ events, Procedure.Alike c (next events) (next' events)) :
      Procedure.Alike c (.operate name form block next) (.operate name form' block' next')
  | inside (name : String) {inner inner' next next' : List Event → Procedure}
      (hinner : ∀ events, Procedure.Alike c (inner events) (inner' events))
      (hnext : ∀ events, Procedure.Alike c (next events) (next' events)) :
      Procedure.Alike c (.inside name inner next) (.inside name inner' next')

namespace Procedure

/-- Memories of the same events and of alike items. -/
structure Memory.Alike (c : Correspondence) (memory memory' : Memory) : Prop where
  events_eq : memory'.events = memory.events
  items : List.Forall₂ (Value.Alike c) memory.items memory'.items

namespace Memory

variable {memory memory' : Memory}

theorem Alike.note (h : memory.Alike c memory') (event : Event) :
    (memory.note event).Alike c (memory'.note event) := by
  refine ⟨?_, h.items⟩
  rw [Memory.note, Memory.note, h.events_eq]

/-- A block is told the same when it begins, since an item shows its document only. -/
theorem Alike.enter (h : memory.Alike c memory') {child child' : Node}
    (hchild : child.Alike c child') {item? item?' : Option Value}
    (hitem : Option.Rel (Value.Alike c) item? item?') :
    (memory.enter child item?).Alike c (memory'.enter child' item?') := by
  unfold Memory.enter
  rw [h.events_eq, hchild.kindName_eq]
  cases hitem with
  | none => exact ⟨rfl, List.rel_append h.items .nil⟩
  | some hitem =>
    refine ⟨?_, List.rel_append h.items (.cons hitem .nil)⟩
    rw [Option.map_some, Option.map_some, hitem.toJson_eq]

/-- A procedure is told the same when an operation has ended, since an answer shows its document
only. -/
theorem Alike.answer (h : memory.Alike c memory') {result result' : Except BuildError (Option Slot)}
    (hresult : SameResult (Option.Rel (Slot.Alike c)) result result') :
    (memory.answer result).Alike c (memory'.answer result') := by
  have hdocument : result'.map (fun slot? => slot?.map Slot.toJson) =
      result.map fun slot? => slot?.map Slot.toJson := by
    refine SameResult.eq (hresult.map fun hslot => ?_)
    cases hslot with
    | none => rfl
    | some hslot => rw [Option.map_some, Option.map_some, hslot.toJson_eq]
  unfold Memory.answer
  rw [hdocument]
  exact h.note _

end Memory

/-- The items at one place. -/
theorem forall₂_getD {items items' : List Value} (h : List.Forall₂ (Value.Alike c) items items')
    (place : Nat) : (items.getD place (.json .null)).Alike c (items'.getD place (.json .null)) := by
  induction h generalizing place with
  | nil => exact .leaf .null
  | cons hitem _ ih =>
    cases place with
    | zero => exact hitem
    | succ place => simpa using ih place

mutual

theorem Operand.Alike.eval {items items' : List Value}
    (h : List.Forall₂ (Value.Alike c) items items') :
    ∀ {operand operand' : Operand}, operand.Alike c operand' →
      (operand.eval items).Alike c (operand'.eval items')
  | .value _, .value _, .value hvalue => by
    rw [Operand.eval, Operand.eval]
    exact hvalue
  | .item place, .item _, .item _ => by
    rw [Operand.eval, Operand.eval]
    exact forall₂_getD h place
  | .list _, .list _, .list hoperands => by
    rw [Operand.eval, Operand.eval]
    exact .list (evalAll_alike h hoperands)

theorem evalAll_alike {items items' : List Value} (h : List.Forall₂ (Value.Alike c) items items') :
    ∀ {operands operands' : List Operand}, List.Forall₂ (Operand.Alike c) operands operands' →
      List.Forall₂ (Value.Alike c) (evalAll items operands) (evalAll items' operands')
  | [], [], _ => .nil
  | _ :: _, _ :: _, .cons hoperand hrest => by
    rw [evalAll, evalAll]
    exact .cons (Operand.Alike.eval h hoperand) (evalAll_alike h hrest)

end

theorem Form.Alike.operation {form form' : Form} (hform : form.Alike c form')
    {items items' : List Value} (hitems : List.Forall₂ (Value.Alike c) items items')
    {block block' : Block Memory} (hblock : block.Alike c (Memory.Alike c) block') :
    (form.operation items block).Alike c (Memory.Alike c) (form'.operation items' block') := by
  cases hform with
  | invoke h => exact .invoke (evalAll_alike hitems h) .none
  | configure h => exact .invoke (evalAll_alike hitems h) (.some hblock)
  | query => exact .query
  | set h => exact .set (h.eval hitems)
  | append h => exact .append (evalAll_alike hitems h)
  | build => exact .build fun hchild hstate => hblock hchild .none hstate
  | each h =>
    exact .each (evalAll_alike hitems h) fun hchild hitem hstate =>
      hblock hchild (.some hitem) hstate

/-- What is done after the same events is alike, on alike nodes and with alike memories. -/
def ActsAlike (c : Correspondence) (act act' : List Event → Node → Memory → Outcome Memory Unit) :
    Prop :=
  ∀ events {node node'}, node.Alike c node' → ∀ {memory memory'}, memory.Alike c memory' →
    (act events node memory).Alike c (Memory.Alike c) Eq (act' events node' memory')

theorem onChild_alike {act act' : List Event → Node → Memory → Outcome Memory Unit}
    (hact : ActsAlike c act act') : (onChild act).Alike c (Memory.Alike c) (onChild act') := by
  intro child child' item? item?' memory memory' hchild hitem hmemory
  have hentered := hmemory.enter hchild hitem
  unfold onChild
  simp only [hentered.events_eq]
  exact hact _ hchild hentered

theorem afterChild_alike {next next' : List Event → Node → Memory → Outcome Memory Unit}
    (hnext : ActsAlike c next next') {node node' : Node} (hnode : node.Alike c node')
    {memory memory' : Memory} (hmemory : memory.Alike c memory')
    {outcome? outcome?' : Option (Outcome Memory Unit)}
    (houtcome : Option.Rel (Outcome.Alike c (Memory.Alike c) Eq) outcome? outcome?') :
    (afterChild next node memory outcome?).Alike c (Memory.Alike c) Eq
      (afterChild next' node' memory' outcome?') := by
  cases houtcome with
  | none =>
    have htold := hmemory.note .noChild
    simp only [afterChild, htold.events_eq]
    exact hnext _ hnode htold
  | some houtcome =>
    have htold := houtcome.state.answer (houtcome.result.map fun _ => Option.Rel.none)
    simp only [afterChild, htold.events_eq]
    exact hnext _ houtcome.node htold

/-- The run: procedures that do the same with alike arguments leave alike nodes, end in the same way
and have been told the same. -/
theorem Alike.run {procedure procedure' : Procedure} (h : procedure.Alike c procedure')
    {node node' : Node} (hnode : node.Alike c node') {memory memory' : Memory}
    (hmemory : memory.Alike c memory') :
    (procedure.run node memory).Alike c (Memory.Alike c) Eq (procedure'.run node' memory') := by
  -- over the procedures; for a block it is used on every child, with every memory it is run with
  induction h generalizing node node' memory memory' with
  | finish result => exact ⟨hnode, .refl result, hmemory⟩
  | @operate name form form' block block' next next' hform _ _ ihblock ihnext =>
    have hblock : (onChild fun events => (block events).run).Alike c (Memory.Alike c)
        (onChild fun events => (block' events).run) := onChild_alike ihblock
    have houtcome := (hform.operation hmemory.items hblock).run hnode name hmemory
    have htold := houtcome.state.answer houtcome.result
    simp only [Procedure.run, htold.events_eq]
    exact ihnext _ houtcome.node htold
  | @inside name inner inner' next next' _ _ ihinner ihnext =>
    have hblock : (onChild fun events => (inner events).run).Alike c (Memory.Alike c)
        (onChild fun events => (inner' events).run) := onChild_alike ihinner
    exact afterChild_alike ihnext hnode hmemory
      (hnode.withChild name (fun hchild hmemory => hblock hchild .none hmemory) hmemory)

/-- Two runs that nobody can tell apart: what the procedures have been told, how they have ended and
what document they have left behind is the same. -/
structure SameRun (c : Correspondence) (run run' : Outcome Memory Unit) : Prop where
  events_eq : run'.state.events = run.state.events
  result_eq : run'.result = run.result
  node : run.node.Alike c run'.node
  toJson_eq : run'.node.toJson = run.node.toJson

theorem Alike.sameRun {procedure procedure' : Procedure} (h : procedure.Alike c procedure')
    {node node' : Node} (hnode : node.Alike c node') :
    SameRun c (procedure.run node .start) (procedure'.run node' .start) := by
  have hstart : Memory.start.Alike c .start := ⟨rfl, .nil⟩
  obtain ⟨hlast, hresult, hmemory⟩ := h.run hnode hstart
  exact ⟨hmemory.events_eq, hresult.eq, hlast, hlast.toJson_eq⟩

end Procedure

end SchemaNodes
