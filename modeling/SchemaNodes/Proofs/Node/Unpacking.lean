import SchemaNodes.Proofs.Node.Simulation

/-!
# Arrays as leaves and as lists

An array can be handed to an operation as one leaf, or as the list that `Value.ofJson` turns it
into. Trees keep the form in which a value came, so they differ; but they are alike under a
correspondence that leaves kinds alone and unpacks arrays, and so no run can tell them apart.

* **`Procedure.Alike.run_unpacked`**: with leaves unpacked at any places among its arguments, a
  procedure is told the same, operation by operation and block by block, and leaves the same
  document.
-/

namespace SchemaNodes

/-- Every kind stands for itself, and an array leaf for the list of its items too. -/
def Correspondence.unpacking : Correspondence where
  kinds r k r' k' := r' = r ∧ k' = k
  unpacks := True
  name_eq := by
    rintro _ _ _ _ ⟨rfl, rfl⟩
    rfl
  names_eq := by
    rintro _ _ _ _ ⟨rfl, rfl⟩
    rfl
  accessor := by
    rintro _ _ r k ⟨rfl, rfl⟩ name
    cases (r.kind k).accessor? name with
    | none => exact .none
    | some a => exact .some ⟨rfl, rfl, rfl, rfl⟩
  registry_iff := by
    rintro _ _ _ _ _ _ _ _ ⟨rfl, rfl⟩ ⟨rfl, rfl⟩
    rfl
  id_iff := by
    rintro _ _ _ _ _ _ ⟨rfl, rfl⟩ ⟨-, rfl⟩
    rfl

/-! ## What is not unpacked

An argument that is handed over in one form on both sides is alike to itself, whatever it holds. -/

mutual

theorem Node.Alike.same : ∀ node : Node, node.Alike .unpacking node
  | .mk _ _ slots => .mk ⟨rfl, rfl⟩ (slots_alike_same slots)

theorem slots_alike_same : ∀ slots : List (String × Slot),
    List.Forall₂ (Entry.Alike .unpacking) slots slots
  | [] => .nil
  | (name, slot) :: rest => .cons (.mk name (Slot.Alike.same slot)) (slots_alike_same rest)

theorem Slot.Alike.same : ∀ slot : Slot, slot.Alike .unpacking slot
  | .single value => .single (Value.Alike.same value)
  | .items values => .items (values_alike_same values)

theorem Value.Alike.same : ∀ value : Value, value.Alike .unpacking value
  | .node node => .node (Node.Alike.same node)
  | .list items => .list (values_alike_same items)
  | .json leaf => .leaf leaf

theorem values_alike_same : ∀ values : List Value,
    List.Forall₂ (Value.Alike .unpacking) values values
  | [] => .nil
  | value :: rest => .cons (Value.Alike.same value) (values_alike_same rest)

end

namespace Procedure

/-- Two procedures that differ only in the form in which arrays stand among their arguments, at any
places and any depth, have the same run, and leave one document; and an array is written as it was
read in either form. -/
theorem Alike.run_unpacked {procedure procedure' : Procedure}
    (h : procedure.Alike .unpacking procedure') (node : Node) :
    SameRun .unpacking (procedure.run node .start) (procedure'.run node .start) ∧
      ∀ leaf : Json, (Value.json leaf).toJson = leaf ∧ (Value.ofJson leaf).toJson = leaf := by
  refine ⟨h.sameRun (Node.Alike.same node), fun leaf => ⟨?_, Value.toJson_ofJson leaf⟩⟩
  rw [Value.toJson]

/-- Makes a rule for every item of an argument, with the item as its title. -/
def ruleForEach (argument : Value) : Procedure :=
  .operate "rules" (.configure [.value argument])
    (fun events =>
      -- the block is told that it begins and that its only operation has ended, so that the items
      -- are at half the number of events
      .operate "title" (.set (.item (events.length / 2))) (fun _ => .finish (.ok ()))
        (fun _ => .finish (.ok ())))
    (fun _ => .finish (.ok ()))

theorem run_ruleForEach {argument first second : Value}
    (hitems : splice [argument] = [first, second]) (hfirst : first.asNode? = none)
    (hsecond : second.asNode? = none) :
    ((ruleForEach argument).run (.fresh sampleRegistry 0) .start).node =
      (Node.fresh sampleRegistry 0).put "rules" (.items [
        .node ((Node.fresh sampleRegistry 1).put "title" (.single first)),
        .node ((Node.fresh sampleRegistry 1).put "title" (.single second))]) := by
  have hrules : (Node.fresh sampleRegistry 0).kind.accessor? "rules" = some ⟨"rules", true, 1⟩ :=
    Registry.accessor?_rules
  have htitle : (Node.fresh sampleRegistry 1).kind.accessor? "title" = some ⟨"title", false, 2⟩ :=
    Registry.accessor?_title
  have hset : ∀ item : Value, item.asNode? = none →
      (Node.fresh sampleRegistry 1).set "title" item =
        ⟨(Node.fresh sampleRegistry 1).put "title" (.single item), .ok (), ()⟩ := by
    intro item hitem
    refine Node.set_of_scalar htitle rfl ?_
    cases item with
    | node _ => cases hitem
    | list _ | json _ => trivial
  have hspawn : (Node.fresh sampleRegistry 0).spawn 1 = .fresh sampleRegistry 1 := rfl
  have hlist : (Node.fresh sampleRegistry 0).listOf "rules" = [] := rfl
  simp only [ruleForEach, Procedure.run, Form.operation, Operation.run, evalAll, Operand.eval,
    Node.invoke_block_of_list hrules rfl]
  simp only [Node.blockItems, hitems, List.map_cons, List.map_nil, Node.configureEach, onChild,
    Memory.enter, Memory.start, hspawn, hlist]
  simp [hset first hfirst, hset second hsecond, Outcome.silent, Memory.answer, Memory.note,
    Node.answer]

/-- A title stays the leaf or the list as which it was handed in; the documents are the same. -/
theorem Alike.run_unpacked_sample :
    let titles := Json.array [.array [.string "first"], .string "second"]
    let policy := Node.fresh sampleRegistry 0
    let rule (title : Value) : Value :=
      .node ((Node.fresh sampleRegistry 1).put "title" (.single title))
    (ruleForEach (.json titles)).Alike .unpacking (ruleForEach (.ofJson titles)) ∧
      ((ruleForEach (.json titles)).run policy .start).node =
        policy.put "rules" (.items [rule (.json (.array [.string "first"])),
          rule (.json (.string "second"))]) ∧
      ((ruleForEach (.ofJson titles)).run policy .start).node =
        policy.put "rules" (.items [rule (.list [.json (.string "first")]),
          rule (.json (.string "second"))]) ∧
      SameRun .unpacking ((ruleForEach (.json titles)).run policy .start)
        ((ruleForEach (.ofJson titles)).run policy .start) := by
  intro titles policy rule
  have hfinish : ∀ result, Procedure.Alike .unpacking (.finish result) (.finish result) := .finish
  have halike : (ruleForEach (.json titles)).Alike .unpacking (ruleForEach (.ofJson titles)) :=
    .operate _ (.configure (.cons (.value (.unpacked trivial rfl)) .nil))
      (fun _ => .operate _ (.set (.item _)) (fun _ => hfinish _) (fun _ => hfinish _))
      (fun _ => hfinish _)
  exact ⟨halike, run_ruleForEach rfl rfl rfl, run_ruleForEach rfl rfl rfl,
    (Alike.run_unpacked halike policy).1⟩

end Procedure

end SchemaNodes
