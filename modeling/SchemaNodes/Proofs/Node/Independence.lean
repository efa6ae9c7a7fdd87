import Mathlib.Data.List.FinRange
import Mathlib.Data.List.Sort
import SchemaNodes.Proofs.Node.Refusal
import SchemaNodes.Proofs.Node.WellFormed

/-!
# Independence of attributes

An operation reads the kind of its node and the one slot that its name leads to, and writes no other
slot. So operations on different attributes may change places: what each of them answers, and the
node in the end, depend only on the order in which the operations on one attribute come.

* **`Node.AgreeAt`**: nodes of one kind with the same slot in one place. On such nodes an operation
  on this place comes to the same change (`Operation.run_sameChange`), which is the step.
* **`AgreeAt.after_filter`**, **`AgreeAt.results_filter`**: a slot, and the results of the
  operations on it, are those of the operations on it alone. Both are inductions over the sequence
  that carry the agreement.
* **`filter_map_order`**: a rearrangement that keeps the order within a class keeps the class as a
  sequence.
* **`Node.Reachable.rearranged`**: the two runs compared, result by result.
-/

namespace SchemaNodes

variable {σ : Type}

namespace Node

/-- The node with a slot in place, or as it is. -/
def putSome (node : Node) (attr : String) : Option Slot → Node
  | some slot => node.put attr slot
  | none => node

theorem slot?_putSome (node : Node) (attr other : String) (slot? : Option Slot) :
    (node.putSome attr slot?).slot? other =
      if other = attr then slot?.or (node.slot? other) else node.slot? other := by
  cases slot? with
  | none => simp [putSome]
  | some slot => simp [putSome, slot?_put]

theorem sameKind_putSome (node : Node) (attr : String) (slot? : Option Slot) :
    node.SameKind (node.putSome attr slot?) := by
  cases slot? with
  | none => exact .refl node
  | some slot => exact sameKind_put node attr slot

theorem SameKind.kind_eq {node other : Node} (h : node.SameKind other) :
    other.kind = node.kind := by
  rw [kind, kind, h.1, h.2]

/-! ## Agreement in one place -/

/-- Nodes of one kind that have the same slot in one place, or none. -/
structure AgreeAt (attr : String) (node other : Node) : Prop where
  sameKind : node.SameKind other
  slot_eq : other.slot? attr = node.slot? attr

theorem AgreeAt.refl (attr : String) (node : Node) : AgreeAt attr node node := ⟨.refl node, rfl⟩

theorem AgreeAt.listOf_eq {attr : String} {node other : Node} (h : AgreeAt attr node other) :
    other.listOf attr = node.listOf attr := by
  rw [listOf, listOf, h.slot_eq]

/-- One change of two nodes leaves them in agreement, wherever it is made. -/
theorem AgreeAt.putSome {attr : String} {node other : Node} (h : AgreeAt attr node other)
    (place : String) (slot? : Option Slot) :
    AgreeAt attr (node.putSome place slot?) (other.putSome place slot?) where
  sameKind := by
    have hnode := sameKind_putSome node place slot?
    have hother := sameKind_putSome other place slot?
    exact ⟨hother.1.trans (h.sameKind.1.trans hnode.1.symm),
      hother.2.trans (h.sameKind.2.trans hnode.2.symm)⟩
  slot_eq := by
    rw [slot?_putSome, slot?_putSome, h.slot_eq]

/-- A change in another place cannot be told. -/
theorem AgreeAt.putSome_other {attr : String} {node other : Node} (h : AgreeAt attr node other)
    {place : String} (hplace : attr ≠ place) (slot? : Option Slot) :
    AgreeAt attr (node.putSome place slot?) other where
  sameKind := by
    have hnode := sameKind_putSome node place slot?
    exact ⟨h.sameKind.1.trans hnode.1.symm, h.sameKind.2.trans hnode.2.symm⟩
  slot_eq := by
    rw [slot?_putSome, if_neg hplace, h.slot_eq]

/-! ## The step

The checks of a call look at registry and kind; the list that a call adds to, and the slot that it
answers with, are the slot of its attribute. -/

theorem SameKind.checkValue_eq {node other : Node} (h : node.SameKind other) (a : Attribute)
    (value : Value) : other.checkValue a value = node.checkValue a value := by
  cases value with
  | node child => simp only [checkValue, foundName, h.1]
  | list _ => rfl
  | json _ => rfl

theorem SameKind.checkValues_eq {node other : Node} (h : node.SameKind other) (a : Attribute)
    (values : List Value) : other.checkValues a values = node.checkValues a values := by
  induction values with
  | nil => rfl
  | cons value rest ih => rw [checkValues, checkValues, h.checkValue_eq, ih]

theorem SameKind.scalarValue_eq {node other : Node} (h : node.SameKind other) (a : Attribute)
    (values : List Value) : other.scalarValue a values = node.scalarValue a values := by
  cases values with
  | nil => rw [scalarValue, scalarValue, spawn, spawn, h.1]
  | cons value rest => rw [scalarValue, scalarValue, h.checkValue_eq]

theorem answer_put (node : Node) (a : Attribute) (slot : Slot) (result : Except BuildError Unit)
    (state : σ) :
    (node.put a.name slot).answer a result state =
      ⟨node.put a.name slot, result.map fun _ => some slot, state⟩ := by
  rw [answer, slot?_put, if_pos rfl]

/-- Two outcomes that come of one change in a place: the same slot is put there, and the same is
answered and handed on. -/
def SameChange {α : Type} (attr : String) (node other : Node) (outcome outcome' : Outcome σ α) :
    Prop :=
  ∃ slot? result state,
    outcome = ⟨node.putSome attr slot?, result, state⟩ ∧
      outcome' = ⟨other.putSome attr slot?, result, state⟩

/-- An operation that passes on only whether its call succeeds comes to the change of the call. -/
theorem SameChange.silent {τ α : Type} {attr : String} {node other : Node}
    {outcome outcome' : Outcome τ α} (h : SameChange attr node other outcome outcome')
    (pass : τ → σ) :
    SameChange attr node other (outcome.ignore.silent (pass outcome.state))
      (outcome'.ignore.silent (pass outcome'.state)) := by
  obtain ⟨slot?, result, state, rfl, rfl⟩ := h
  exact ⟨slot?, _, pass state, rfl, rfl⟩

/-- Nodes that agree on the slot of an attribute are changed by its calls in the same way. -/
theorem AgreeAt.invoke_sameChange {node other : Node} {name : String} {a : Attribute}
    (h : AgreeAt a.name node other) (ha : node.kind.accessor? name = some a)
    (values : List Value) (block? : Option (Block σ)) (state : σ) :
    SameChange a.name node other (node.invoke name values block? state)
      (other.invoke name values block? state) := by
  have ha' : other.kind.accessor? name = some a := by rw [h.sameKind.kind_eq, ha]
  have hspawn : other.spawn a.target = node.spawn a.target := by rw [spawn, spawn, h.sameKind.1]
  cases hshape : a.isList with
  | false =>
    rw [invoke_of_scalar ha hshape, invoke_of_scalar ha' hshape]
    unfold callScalar
    rw [h.sameKind.scalarValue_eq]
    cases node.scalarValue a values with
    | error e => exact ⟨none, _, _, rfl, rfl⟩
    | ok value =>
      cases block? with
      | none =>
        simp only [answer_put]
        exact ⟨some (.single value), _, _, rfl, rfl⟩
      | some block =>
        cases value with
        | node child =>
          simp only [answer_put]
          exact ⟨some (.single (.node (block child none state).node)), _, _, rfl, rfl⟩
        | list _ => exact ⟨none, _, _, rfl, rfl⟩
        | json _ => exact ⟨none, _, _, rfl, rfl⟩
  | true =>
    rw [invoke_of_list ha hshape, invoke_of_list ha' hshape]
    unfold callList
    cases block? with
    | some block =>
      simp only [answer_put, hspawn, h.listOf_eq]
      exact ⟨some (.items _), _, _, rfl, rfl⟩
    | none =>
      cases values with
      | nil =>
        -- a look answers with the slot, on which the nodes agree
        refine ⟨none, .ok (node.slot? a.name), state, rfl, ?_⟩
        simp only [List.isEmpty_nil, if_true, answer, h.slot_eq]
        rfl
      | cons value rest =>
        simp only [List.isEmpty_cons, Bool.false_eq_true, if_false, h.sameKind.checkValues_eq]
        cases node.checkValues a (splice (value :: rest)) with
        | error e => exact ⟨none, _, _, rfl, rfl⟩
        | ok _ =>
          simp only [answer_put, h.listOf_eq]
          exact ⟨some (.items _), _, _, rfl, rfl⟩

end Node

namespace Operation

open Node (AgreeAt SameChange)

/-- **The step.** An operation comes to the same change on nodes that agree on the slot that its
name leads to. -/
theorem run_sameChange (op : Operation σ) {node other : Node} {name : String} {a : Attribute}
    (h : AgreeAt a.name node other) (ha : node.kind.accessor? name = some a) (state : σ) :
    SameChange a.name node other (op.run node name state) (op.run other name state) := by
  have ha' : other.kind.accessor? name = some a := by rw [h.sameKind.kind_eq, ha]
  cases op with
  | invoke values block? => exact h.invoke_sameChange ha values block? state
  | query =>
    refine ⟨none, .ok (node.slot? a.name), state, ?_, ?_⟩
    · simp only [run, Node.query, ha]
      rfl
    · simp only [run, Node.query, ha', h.slot_eq]
      rfl
  | set value =>
    exact (h.invoke_sameChange ha [value] (none : Option (Block Unit)) ()).silent fun _ => state
  | append values =>
    cases hshape : a.isList with
    | false =>
      refine ⟨none, _, state, congrArg (Outcome.silent · state) (Node.append_of_scalar ha hshape _),
        ?_⟩
      rw [← h.sameKind.1]
      exact congrArg (Outcome.silent · state) (Node.append_of_scalar ha' hshape values)
    | true =>
      have hlist : ∀ b, node.kind.accessor? name = some b → b.isList = true := by
        intro b hb
        rw [← Option.some.inj (ha.symm.trans hb), hshape]
      have hlist' : ∀ b, other.kind.accessor? name = some b → b.isList = true := by
        rw [h.sameKind.kind_eq]
        exact hlist
      simp only [run, Node.append_eq_invoke hlist, Node.append_eq_invoke hlist']
      exact (h.invoke_sameChange ha [.list values] (none : Option (Block Unit)) ()).silent
        fun _ => state
  | build block =>
    exact (h.invoke_sameChange ha [] (some fun child _ state => block child state) state).silent id
  | each values block =>
    exact (h.invoke_sameChange ha [.list values] (Operation.each values block).block? state).silent
      id

end Operation

/-! ## Sequences of requests

The operations carry no state, so that what a block does depends on its child and its item alone. -/

/-- An operation under the name that it is asked for. -/
structure Request where
  name : String
  op : Operation Unit

namespace Node

/-- Carries a request out. -/
def perform (node : Node) (request : Request) : Outcome Unit (Option Slot) :=
  request.op.run node request.name ()

/-- The node after the requests in turn, whether they succeed or fail. -/
def after (node : Node) : List Request → Node
  | [] => node
  | request :: rest => (node.perform request).node.after rest

/-- What becomes of the requests, in order. -/
def results (node : Node) : List Request → List (Except BuildError (Option Slot))
  | [] => []
  | request :: rest =>
    (node.perform request).result :: (node.perform request).node.results rest

/-- Whether the name of a request leads to the attribute of a declared name. -/
def leadsTo (node : Node) (attr : String) (request : Request) : Bool :=
  (node.kind.accessor? request.name).any fun a => a.name = attr

theorem leadsTo_iff {node : Node} {attr : String} {request : Request} :
    node.leadsTo attr request = true ↔
      ∃ a, node.kind.accessor? request.name = some a ∧ a.name = attr := by
  simp [leadsTo, Option.any_eq_true]

theorem length_results (node : Node) (requests : List Request) :
    (node.results requests).length = requests.length := by
  induction requests generalizing node with
  | nil => rfl
  | cons request rest ih => rw [results, List.length_cons, List.length_cons, ih]

theorem SameKind.leadsTo_eq {node other : Node} (h : node.SameKind other) (attr : String)
    (request : Request) : other.leadsTo attr request = node.leadsTo attr request := by
  rw [leadsTo, leadsTo, h.kind_eq]

theorem perform_sameKind (node : Node) (request : Request) :
    node.SameKind (node.perform request).node :=
  request.op.run_sameKind node request.name ()

theorem sameKind_after (node : Node) (requests : List Request) :
    node.SameKind (node.after requests) := by
  induction requests generalizing node with
  | nil => exact .refl node
  | cons request rest ih => exact (node.perform_sameKind request).trans (ih _)

/-- Requests on the attribute of the place do the same on both nodes. -/
theorem AgreeAt.perform {attr : String} {node other : Node} (h : AgreeAt attr node other)
    {request : Request} (hleads : node.leadsTo attr request = true) :
    (other.perform request).result = (node.perform request).result ∧
      AgreeAt attr (node.perform request).node (other.perform request).node := by
  obtain ⟨a, ha, rfl⟩ := leadsTo_iff.1 hleads
  obtain ⟨slot?, result, state, hnode, hother⟩ := request.op.run_sameChange h ha ()
  rw [Node.perform, Node.perform, hnode, hother]
  exact ⟨rfl, h.putSome a.name slot?⟩

theorem perform_of_unbound {node : Node} {request : Request}
    (ha : node.kind.accessor? request.name = none) :
    node.perform request = node.refuse (node.unknownAccessor request.name) () :=
  ((Operation.Refused.unbound ha).run_eq ()).1

/-- Requests on other attributes cannot be told in the place. -/
theorem AgreeAt.perform_other {attr : String} {node other : Node} (h : AgreeAt attr node other)
    {request : Request} (hleads : ¬ node.leadsTo attr request = true) :
    AgreeAt attr (node.perform request).node other := by
  cases ha : node.kind.accessor? request.name with
  | none =>
    rw [perform_of_unbound ha]
    exact h
  | some a =>
    have hplace : attr ≠ a.name := fun heq => hleads (leadsTo_iff.2 ⟨a, ha, heq.symm⟩)
    obtain ⟨slot?, result, state, hnode, -⟩ := request.op.run_sameChange (.refl a.name node) ha ()
    rw [Node.perform, hnode]
    exact h.putSome_other hplace slot?

/-- **A slot after a sequence** is that after the requests on its attribute alone. -/
theorem AgreeAt.after_filter {attr : String} {node other : Node} (h : AgreeAt attr node other)
    (requests : List Request) :
    AgreeAt attr (node.after requests) (other.after (requests.filter (node.leadsTo attr))) := by
  induction requests generalizing node other with
  | nil => exact h
  | cons request rest ih =>
    have hkind := node.perform_sameKind request
    have hsame : (node.perform request).node.leadsTo attr = node.leadsTo attr :=
      funext (hkind.leadsTo_eq attr)
    by_cases hleads : node.leadsTo attr request = true
    · rw [List.filter_cons_of_pos hleads, ← hsame]
      exact ih (h.perform hleads).2
    · rw [List.filter_cons_of_neg hleads, ← hsame]
      exact ih (h.perform_other hleads)

variable {ι : Type}

/-- **The results on an attribute**, each with the place of its request, are those of a sequence of
the requests on this attribute alone. -/
theorem AgreeAt.results_filter {attr : String} {node other : Node} (h : AgreeAt attr node other)
    (requests : ι → Request) (places : List ι) :
    (places.zip (node.results (places.map requests))).filter
        (fun entry => node.leadsTo attr (requests entry.1)) =
      (places.filter fun i => node.leadsTo attr (requests i)).zip
        (other.results ((places.filter fun i => node.leadsTo attr (requests i)).map requests)) := by
  induction places generalizing node other with
  | nil => rfl
  | cons i rest ih =>
    have hkind := node.perform_sameKind (requests i)
    rw [List.map_cons, results, List.zip_cons_cons]
    by_cases hleads : node.leadsTo attr (requests i) = true
    · obtain ⟨hresult, hagree⟩ := h.perform hleads
      have hrest := ih hagree
      simp only [hkind.leadsTo_eq] at hrest
      simp only [List.filter_cons, hleads, if_true, List.map_cons, results, List.zip_cons_cons,
        hresult, hrest]
    · have hrest := ih (h.perform_other hleads)
      simp only [hkind.leadsTo_eq] at hrest
      simp only [List.filter_cons, hleads, Bool.false_eq_true, if_false, hrest]

theorem exists_mem_results (node : Node) (requests : ι → Request) {places : List ι} {i : ι}
    (hi : i ∈ places) :
    ∃ result, (i, result) ∈ places.zip (node.results (places.map requests)) := by
  induction places generalizing node with
  | nil => exact absurd hi List.not_mem_nil
  | cons j rest ih =>
    rw [List.map_cons, results, List.zip_cons_cons]
    rcases List.mem_cons.1 hi with rfl | hi
    · exact ⟨_, .head _⟩
    · obtain ⟨result, hmem⟩ := ih (node.perform (requests j)).node hi
      exact ⟨result, .tail _ hmem⟩

/-- The result of a request whose name leads nowhere does not depend on its place. -/
theorem result_of_unbound {node : Node} {requests : ι → Request} {places : List ι} {i : ι}
    {result : Except BuildError (Option Slot)}
    (hmem : (i, result) ∈ places.zip (node.results (places.map requests)))
    (ha : node.kind.accessor? (requests i).name = none) :
    result = .error (node.unknownAccessor (requests i).name) := by
  induction places generalizing node with
  | nil => exact absurd hmem List.not_mem_nil
  | cons j rest ih =>
    rw [List.map_cons, results, List.zip_cons_cons] at hmem
    rcases List.mem_cons.1 hmem with heq | hmem
    · obtain ⟨rfl, rfl⟩ := Prod.mk.inj heq
      rw [perform_of_unbound ha]
      rfl
    · have hkind := (node.perform_sameKind (requests j)).kind_eq
      have hrest := ih hmem (by rw [hkind, ha])
      rw [hrest, unknownAccessor, unknownAccessor, kindName, kindName, hkind]

/-! ## Rearranged sequences -/

/-- A rearrangement that keeps the order within a class leaves the class as it is: both sides ascend
and have the same members. -/
theorem filter_map_order {n : Nat} (order : Equiv.Perm (Fin n)) (p : Fin n → Bool)
    (h : ∀ k l, k < l → p (order k) = true → p (order l) = true → order k < order l) :
    ((List.finRange n).map order).filter p = (List.finRange n).filter p := by
  have hascends : (((List.finRange n).map order).filter p).Pairwise (· < ·) := by
    refine List.pairwise_filter.2 (List.pairwise_map.2 ?_)
    exact (List.pairwise_lt_finRange n).imp fun hkl hk hl => h _ _ hkl hk hl
  have hascends' : ((List.finRange n).filter p).Pairwise (· < ·) :=
    (List.pairwise_lt_finRange n).filter p
  exact (order.map_finRange_perm.filter p).eq_of_pairwise' hascends hascends'

/-- Sequences that have the requests of every attribute in one order leave the same slots. -/
theorem slot?_after {node : Node} {requests : ι → Request} {places places' : List ι} {attr : String}
    (h : (places'.filter fun i => node.leadsTo attr (requests i)) =
      places.filter fun i => node.leadsTo attr (requests i)) :
    (node.after (places'.map requests)).slot? attr =
      (node.after (places.map requests)).slot? attr := by
  have hleft := ((AgreeAt.refl attr node).after_filter (places'.map requests)).slot_eq
  have hright := ((AgreeAt.refl attr node).after_filter (places.map requests)).slot_eq
  rw [List.filter_map] at hleft hright
  have hsame : places'.filter (node.leadsTo attr ∘ requests) =
      places.filter (node.leadsTo attr ∘ requests) := h
  rw [hsame, hright] at hleft
  exact hleft.symm

/-- The slots stay in name order. -/
theorem sorted_after {node : Node} (h : node.slots.Sorted) (requests : List Request) :
    (node.after requests).slots.Sorted := by
  induction requests generalizing node with
  | nil => exact h
  | cons request rest ih =>
    refine ih ?_
    cases ha : node.kind.accessor? request.name with
    | none =>
      rw [perform_of_unbound ha]
      exact h
    | some a =>
      obtain ⟨slot?, result, state, hnode, -⟩ :=
        request.op.run_sameChange (.refl a.name node) ha ()
      rw [perform, hnode]
      cases slot? with
      | none => exact h
      | some slot => exact h.insert a.name slot

/-- Nodes of one kind with the same slots, in name order, are equal. -/
theorem SameKind.eq_of_slot? {node other : Node} (h : node.SameKind other)
    (hnode : node.slots.Sorted) (hother : other.slots.Sorted)
    (hslot : ∀ attr, other.slot? attr = node.slot? attr) : other = node := by
  obtain ⟨registry, kindId, slots⟩ := node
  obtain ⟨registry', kindId', slots'⟩ := other
  have hregistry : registry' = registry := h.1
  have hkindId : kindId' = kindId := h.2
  have hslots : slots' = slots := Entries.Sorted.ext hother hnode hslot
  rw [hregistry, hkindId, hslots]

/-- The result of a request is the same in sequences that have the requests of its attribute in one
order. -/
theorem mem_results_of_filter {node : Node} {requests : ι → Request} {places places' : List ι}
    (h : ∀ attr, (places'.filter fun i => node.leadsTo attr (requests i)) =
      places.filter fun i => node.leadsTo attr (requests i)) {i : ι} (hi : i ∈ places)
    {result : Except BuildError (Option Slot)}
    (hmem : (i, result) ∈ places'.zip (node.results (places'.map requests))) :
    (i, result) ∈ places.zip (node.results (places.map requests)) := by
  cases ha : node.kind.accessor? (requests i).name with
  | none =>
    obtain ⟨other, hother⟩ := exists_mem_results node requests hi
    rw [result_of_unbound hmem ha, ← result_of_unbound hother ha]
    exact hother
  | some a =>
    have hleads : node.leadsTo a.name (requests i) = true := leadsTo_iff.2 ⟨a, ha, rfl⟩
    have hleft := (AgreeAt.refl a.name node).results_filter requests places'
    have hright := (AgreeAt.refl a.name node).results_filter requests places
    rw [h a.name, ← hright] at hleft
    have hfilter : (i, result) ∈ (places'.zip (node.results (places'.map requests))).filter
        fun entry => node.leadsTo a.name (requests entry.1) := List.mem_filter.2 ⟨hmem, hleads⟩
    rw [hleft] at hfilter
    exact (List.mem_filter.1 hfilter).1

theorem getElem?_of_mem_zip_finRange {n : Nat} {α : Type} {xs : List α} {i : Fin n} {x : α}
    (h : (i, x) ∈ (List.finRange n).zip xs) : xs[i.val]? = some x := by
  obtain ⟨j, hj, heq⟩ := List.getElem_of_mem h
  rw [List.getElem_zip] at heq
  obtain ⟨hplace, hvalue⟩ := Prod.mk.inj heq
  rw [← hplace, List.getElem_finRange, ← hvalue]
  exact List.getElem?_eq_getElem _

/-- **Attributes are independent.** A sequence of requests on a reachable node, under any names and
with blocks that depend on nothing but their child and item, may be rearranged as long as the
requests on each attribute keep their order: every request has the same result, an answer or an
error, and the node is the same in the end. -/
theorem Reachable.rearranged {node : Node} (hnode : node.Reachable) {n : Nat}
    (requests : Fin n → Request) (order : Equiv.Perm (Fin n))
    (horder : ∀ attr k l, k < l → node.leadsTo attr (requests (order k)) = true →
      node.leadsTo attr (requests (order l)) = true → order k < order l) :
    let given := List.ofFn requests
    let rearranged := List.ofFn fun k => requests (order k)
    node.after rearranged = node.after given ∧
      ∀ k : Fin n, ∃ result, (node.results rearranged)[k.val]? = some result ∧
        (node.results given)[(order k).val]? = some result := by
  intro given rearranged
  have hgiven : given = (List.finRange n).map requests := List.ofFn_eq_map
  have hrearranged : rearranged = ((List.finRange n).map order).map requests := by
    rw [List.map_map]
    exact List.ofFn_eq_map
  have hfilter : ∀ attr,
      ((List.finRange n).map order).filter (fun i => node.leadsTo attr (requests i)) =
        (List.finRange n).filter fun i => node.leadsTo attr (requests i) :=
    fun attr => filter_map_order order _ fun k l hkl hk hl => horder attr k l hkl hk hl
  rw [hgiven, hrearranged]
  refine ⟨?_, fun k => ?_⟩
  · have hsorted := hnode.grown.wellFormed.sorted
    refine SameKind.eq_of_slot? ?_ (sorted_after hsorted _) (sorted_after hsorted _)
      fun attr => slot?_after (hfilter attr)
    have hgiven' := node.sameKind_after ((List.finRange n).map requests)
    have hrearranged' := node.sameKind_after (((List.finRange n).map order).map requests)
    exact ⟨hrearranged'.1.trans hgiven'.1.symm, hrearranged'.2.trans hgiven'.2.symm⟩
  · have hlength := node.length_results (((List.finRange n).map order).map requests)
    simp only [List.length_map, List.length_finRange] at hlength
    have hk : k.val < (node.results (((List.finRange n).map order).map requests)).length := by
      rw [hlength]
      exact k.isLt
    refine ⟨_, List.getElem?_eq_getElem hk, ?_⟩
    refine getElem?_of_mem_zip_finRange (mem_results_of_filter hfilter (List.mem_finRange _) ?_)
    refine List.mem_iff_getElem.2 ⟨k.val, ?_, ?_⟩
    · simp [length_results]
    · simp [List.getElem_zip]

/-- The default rule of a policy may be set before its list of rules is begun or behind it; the
second request on the list, whose block fails, stays behind the first. -/
theorem Reachable.rearranged_sample :
    let requests : Fin 3 → Request := fun
      | 0 => ⟨"rules", .set (.json (.string "first"))⟩
      | 1 => ⟨"default", .set (.json (.string "second"))⟩
      | 2 => ⟨"rules", .build fun child _ => ⟨child, .error (.notANode "title"), ()⟩⟩
    let order : Equiv.Perm (Fin 3) := Equiv.swap 0 1
    let policy := fresh sampleRegistry 0
    policy.Reachable ∧
      policy.after [requests 1, requests 0, requests 2] =
        policy.after [requests 0, requests 1, requests 2] ∧
      ∀ k : Fin 3, ∃ result,
        (policy.results [requests 1, requests 0, requests 2])[k.val]? = some result ∧
          (policy.results [requests 0, requests 1, requests 2])[(order k).val]? = some result := by
  intro requests order policy
  have hroot : policy.Reachable := Registry.compiled_sample.reachable_fresh (by decide)
  have hrules : policy.kind.accessor? "rules" = some ⟨"rules", true, 1⟩ :=
    Registry.accessor?_rules
  have hdefault : policy.kind.accessor? "default" = some ⟨"default", false, 1⟩ :=
    Registry.accessor?_default
  -- each of the three goes by the declared name of its attribute
  have hname : ∀ i attr, policy.leadsTo attr (requests i) = true → attr = (requests i).name := by
    intro i attr hleads
    obtain ⟨a, ha, rfl⟩ := leadsTo_iff.1 hleads
    match i with
    | 0 => rw [← Option.some.inj (hrules.symm.trans ha)]
    | 1 => rw [← Option.some.inj (hdefault.symm.trans ha)]
    | 2 => rw [← Option.some.inj (hrules.symm.trans ha)]
  have hkeeps : ∀ k l : Fin 3, k < l →
      (requests (order k)).name = (requests (order l)).name → order k < order l := by decide
  have horder : ∀ attr k l, k < l → policy.leadsTo attr (requests (order k)) = true →
      policy.leadsTo attr (requests (order l)) = true → order k < order l :=
    fun attr k l hkl hk hl => hkeeps k l hkl ((hname _ _ hk).symm.trans (hname _ _ hl))
  exact ⟨hroot, hroot.rearranged requests order horder⟩

end Node

end SchemaNodes
