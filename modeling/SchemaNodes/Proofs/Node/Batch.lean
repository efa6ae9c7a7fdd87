import SchemaNodes.Proofs.Node.Independence

/-!
# Calls in batches

A list attribute takes the values of its calls in order, and checks each by itself. So it makes no
difference whether values are handed over in one call or in several, nor by which name of the
attribute, as long as no call is refused; and one call is refused if and only if one of several
would be, with the first of their errors.

* **`Node.checkValues_append`**: the check of values one after the other is the check of all.
* **`Node.invoke_of_itemsAdded`**, **`Node.invoke_values_eq_error_iff`**: a call with values adds
  all of what they are replaced by or nothing.
* **`Node.Reachable.calledInBatches`**: two calls against one, and against an append.
-/

namespace SchemaNodes

variable {σ : Type}

namespace Node

/-! ## One call

Values are checked in order, so a call with values is decided by one check, and what it does in
either case is known. -/

theorem checkValues_append (node : Node) (a : Attribute) (xs ys : List Value) :
    node.checkValues a (xs ++ ys) =
      (node.checkValues a xs).bind fun _ => node.checkValues a ys := by
  induction xs with
  | nil => rfl
  | cons x xs ih =>
    rw [List.cons_append, checkValues, checkValues, ih]
    cases node.checkValue a x with
    | error e => rfl
    | ok _ => rfl

/-- The check of two lists of values fails as the first of them that fails. -/
theorem checkValues_append_eq_error_iff {node : Node} {a : Attribute} {xs ys : List Value}
    {e : BuildError} :
    node.checkValues a (xs ++ ys) = .error e ↔
      node.checkValues a xs = .error e ∨
        node.checkValues a xs = .ok () ∧ node.checkValues a ys = .error e := by
  rw [checkValues_append]
  cases node.checkValues a xs with
  | error e' => simp [Except.bind]
  | ok _ => simp [Except.bind]

/-- What a call leads to that adds values to a list attribute. -/
def added (node : Node) (a : Attribute) (values : List Value) (state : σ) :
    Outcome σ (Option Slot) :=
  ⟨node.put a.name (.items (node.listOf a.name ++ values)),
    .ok (some (.items (node.listOf a.name ++ values))), state⟩

section

variable {node : Node} {name : String} {a : Attribute} {values : List Value}

theorem invoke_of_itemsAdded (ha : node.kind.accessor? name = some a) (hshape : a.isList = true)
    (hvalues : values ≠ []) (hcheck : node.checkValues a (splice values) = .ok ()) (state : σ) :
    node.invoke name values none state = node.added a (splice values) state := by
  have hsome : values.isEmpty = false := by simpa using hvalues
  rw [invoke_of_list ha hshape]
  simp only [callList, hsome, Bool.false_eq_true, if_false, hcheck, answer, Except.map, slot?_put,
    if_true, added]

/-- A call with values fails as their check does. -/
theorem invoke_values_eq_error_iff (ha : node.kind.accessor? name = some a)
    (hshape : a.isList = true) (hvalues : values ≠ []) {state : σ} {e : BuildError} :
    (node.invoke name values none state).result = .error e ↔
      node.checkValues a (splice values) = .error e := by
  cases hcheck : node.checkValues a (splice values) with
  | error e' =>
    rw [invoke_of_itemRefused ha hshape hcheck, refuse, Except.error.injEq, Except.error.injEq]
  | ok _ =>
    rw [invoke_of_itemsAdded ha hshape hvalues hcheck]
    simp [added]

/-- A call with values succeeds if their check does. -/
theorem exists_invoke_values_iff (ha : node.kind.accessor? name = some a)
    (hshape : a.isList = true) (hvalues : values ≠ []) {state : σ} :
    (∃ answer, (node.invoke name values none state).result = .ok answer) ↔
      node.checkValues a (splice values) = .ok () := by
  cases hcheck : node.checkValues a (splice values) with
  | error e =>
    rw [invoke_of_itemRefused ha hshape hcheck]
    simp [refuse]
  | ok _ =>
    rw [invoke_of_itemsAdded ha hshape hvalues hcheck]
    exact ⟨fun _ => rfl, fun _ => ⟨_, rfl⟩⟩

/-- An append of values of which one does not fit is refused. -/
theorem append_of_misfit (ha : node.kind.accessor? name = some a) (hshape : a.isList = true)
    (hmisfit : ¬ ∀ value ∈ values, value.Fits node.registry a.target) :
    ∃ e, node.append name values = node.refuse e () := by
  have hlist : ∀ b, node.kind.accessor? name = some b → b.isList = true := by
    intro b hb
    rw [← Option.some.inj (ha.symm.trans hb)]
    exact hshape
  cases hcheck : node.checkValues a values with
  | ok _ => exact absurd (checkValues_eq_ok_iff.1 hcheck) hmisfit
  | error e =>
    -- the append hands its values over as one list, of which splicing leaves the items
    have hlisted : node.checkValues a (splice [.list values]) = .error e :=
      (congrArg (node.checkValues a) (splice_singleton _)).trans hcheck
    rw [append_eq_invoke hlist, invoke_of_itemRefused ha hshape hlisted]
    exact ⟨e, rfl⟩

end

/-! ## Two calls against one -/

/-- Values for one list attribute, handed over in two calls by two of its names, in one call, and in
an append. -/
structure CalledInBatches (node : Node) (name other : String) (a : Attribute)
    (xs ys : List Value) (state : σ) : Prop where
  /-- There is a list to add to, or nothing yet. -/
  held : node.slot? a.name = none ∧ node.listOf a.name = [] ∨
    node.slot? a.name = some (.items (node.listOf a.name))
  /-- A call succeeds if everything that its arguments are replaced by has a place, -/
  succeeds_iff : (∃ answer, (node.invoke name xs none state).result = .ok answer) ↔
    ∀ value ∈ xs.flatMap Value.pieces, value.Fits node.registry a.target
  /-- and then adds all of it to the list. -/
  stores : ∀ answer, (node.invoke name xs none state).result = .ok answer →
    node.invoke name xs none state = node.added a (xs.flatMap Value.pieces) state
  /-- Two calls that both succeed lead to what the one call leads to. -/
  in_turn : ∀ first second, (node.invoke name xs none state).result = .ok first →
    ((node.invoke name xs none state).node.invoke other ys none state).result = .ok second →
      (node.invoke name xs none state).node.invoke other ys none state =
        node.invoke name (xs ++ ys) none state
  /-- The second call fails behind the first as it does by itself. -/
  apart : ∀ first e, (node.invoke name xs none state).result = .ok first →
    (((node.invoke name xs none state).node.invoke other ys none state).result = .error e ↔
      (node.invoke other ys none state).result = .error e)
  /-- The one call fails with the error of the first of the two that fails by itself, -/
  fails_iff : ∀ e, (node.invoke name (xs ++ ys) none state).result = .error e ↔
    (node.invoke name xs none state).result = .error e ∨
      (∃ answer, (node.invoke name xs none state).result = .ok answer) ∧
        (node.invoke other ys none state).result = .error e
  /-- and leaves the node as it was. -/
  unchanged : ∀ e, (node.invoke name (xs ++ ys) none state).result = .error e →
    node.invoke name (xs ++ ys) none state = node.refuse e state
  /-- An append adds its values as they are, one entry for each, lists and arrays included, -/
  append_stores : ∀ items, (∀ item ∈ items, item.Fits node.registry a.target) →
    node.append name items =
      ⟨node.put a.name (.items (node.listOf a.name ++ items)), .ok (), ()⟩
  /-- or nothing. -/
  append_unchanged : ∀ items, (¬ ∀ item ∈ items, item.Fits node.registry a.target) →
    ∃ e, node.append name items = node.refuse e ()

/-- **Calls of a list attribute can be batched.** On every reachable node, and for any two names of
one list attribute: a call stores the list that was there, followed by what its arguments are
replaced by. Two calls that both succeed do what the one call with the arguments of both does; the
one call fails if and only if one of the two would by itself, with the error of the first that does,
and then changes nothing. An append stores its values as they are. -/
theorem Reachable.calledInBatches {node : Node} (hnode : node.Reachable) {name other : String}
    {a : Attribute} (ha : node.kind.accessor? name = some a)
    (hb : node.kind.accessor? other = some a) (hshape : a.isList = true) (xs ys : List Value)
    (hxs : xs ≠ []) (hys : ys ≠ []) (state : σ) :
    node.CalledInBatches name other a xs ys state := by
  have hne : xs ++ ys ≠ [] := by simp [hxs]
  have hfirst : ∀ answer, (node.invoke name xs none state).result = .ok answer →
      node.checkValues a (splice xs) = .ok () ∧
        node.invoke name xs none state = node.added a (splice xs) state := by
    intro answer hanswer
    have hcheck := (exists_invoke_values_iff ha hshape hxs).1 ⟨answer, hanswer⟩
    exact ⟨hcheck, invoke_of_itemsAdded ha hshape hxs hcheck state⟩
  -- behind the first call the second has the same check before it
  have hkind : node.SameKind (node.added a (splice xs) state).node := sameKind_put node _ _
  have hb' : (node.added a (splice xs) state).node.kind.accessor? other = some a := hb
  refine ⟨hnode.grown.wellFormed.slot?_of_list ha hshape, ?_, ?_, ?_, ?_, ?_, ?_,
    fun _ => append_of_list ha hshape, fun _ => append_of_misfit ha hshape⟩
  · rw [exists_invoke_values_iff ha hshape hxs, checkValues_eq_ok_iff, splice_eq_flatMap]
  · intro answer hanswer
    rw [← splice_eq_flatMap]
    exact (hfirst answer hanswer).2
  · intro answer later hanswer hlater
    obtain ⟨hx, heq⟩ := hfirst answer hanswer
    rw [heq] at hlater ⊢
    have hy := (exists_invoke_values_iff hb' hshape hys).1 ⟨later, hlater⟩
    have hboth : node.checkValues a (splice (xs ++ ys)) = .ok () := by
      rw [splice_append, checkValues_append, hx, ← hkind.checkValues_eq]
      exact hy
    rw [invoke_of_itemsAdded hb' hshape hys hy, invoke_of_itemsAdded ha hshape hne hboth,
      splice_append]
    simp only [added, listOf_put_items, put_put, List.append_assoc]
  · intro answer e hanswer
    rw [(hfirst answer hanswer).2, invoke_values_eq_error_iff hb' hshape hys,
      invoke_values_eq_error_iff hb hshape hys, hkind.checkValues_eq]
  · intro e
    rw [invoke_values_eq_error_iff ha hshape hne, invoke_values_eq_error_iff ha hshape hxs,
      invoke_values_eq_error_iff hb hshape hys, exists_invoke_values_iff ha hshape hxs,
      splice_append, checkValues_append_eq_error_iff]
  · intro e he
    exact invoke_of_itemRefused ha hshape ((invoke_values_eq_error_iff ha hshape hne).1 he) state

/-- A list with a list in it and an array leaf are added by the plural and the singular name; a
policy among the rules spoils the whole call. -/
theorem Reachable.calledInBatches_sample :
    let policy := fresh sampleRegistry 0
    let rules : Attribute := ⟨"rules", true, 1⟩
    let xs : List Value := [.list [.json (.string "first"), .list [.json (.string "inner")]]]
    let ys : List Value := [.json (.array [.string "second"])]
    policy.Reachable ∧ policy.kind.accessor? "rules" = some rules ∧
      policy.kind.accessor? "rule" = some rules ∧
      (policy.invoke "rules" xs none ()).node.invoke "rule" ys none () =
        policy.added rules
          [.json (.string "first"), .list [.json (.string "inner")], .json (.string "second")] () ∧
      policy.invoke "rules" (xs ++ [.node policy]) none () =
        policy.refuse (.typeMismatch "rules" "Rule" "Policy") () := by
  intro policy rules xs ys
  have hroot : policy.Reachable := Registry.compiled_sample.reachable_fresh (by decide)
  have ha : policy.kind.accessor? "rules" = some rules := Registry.accessor?_rules
  have hb : policy.kind.accessor? "rule" = some rules := Registry.accessor?_rule
  have hxs : xs ≠ [] := by simp [xs]
  have hys : ys ≠ [] := by simp [ys]
  have hbatch := hroot.calledInBatches ha hb rfl xs ys hxs hys ()
  have hspoiled := hroot.calledInBatches ha hb rfl xs [.node policy] hxs (by simp) ()
  have hcall : policy.invoke "rules" (xs ++ ys) none () =
      policy.added rules
        [.json (.string "first"), .list [.json (.string "inner")], .json (.string "second")] () :=
    invoke_of_itemsAdded ha rfl (by simp [xs]) rfl ()
  have hfirst : policy.invoke "rules" xs none () = policy.added rules (splice xs) () :=
    invoke_of_itemsAdded ha rfl hxs rfl ()
  refine ⟨hroot, ha, hb, ?_, ?_⟩
  · have hb' : (policy.added rules (splice xs) ()).node.kind.accessor? "rule" = some rules := hb
    have hsecond : (policy.added rules (splice xs) ()).node.invoke "rule" ys none () =
        (policy.added rules (splice xs) ()).node.added rules (splice ys) () :=
      invoke_of_itemsAdded hb' rfl hys rfl ()
    rw [← hfirst] at hsecond
    exact (hbatch.in_turn _ _ (congrArg Outcome.result hfirst)
      (congrArg Outcome.result hsecond)).trans hcall
  · have hok : ∃ answer, (policy.invoke "rules" xs none ()).result = .ok answer :=
      ⟨_, congrArg Outcome.result hfirst⟩
    have hcheck : policy.checkValues rules (splice [.node policy]) =
        .error (.typeMismatch "rules" "Rule" "Policy") :=
      (checkValues_cons_of_not_fits (fun h => absurd h.2 (by decide)) []).trans (by
        rw [mismatch, foundName, if_pos rfl]
        rfl)
    have hrefused : policy.invoke "rule" [.node policy] none () =
        policy.refuse (.typeMismatch "rules" "Rule" "Policy") () :=
      invoke_of_itemRefused hb rfl hcheck ()
    exact hspoiled.unchanged _
      ((hspoiled.fails_iff _).2 (.inr ⟨hok, congrArg Outcome.result hrefused⟩))

end Node

end SchemaNodes
