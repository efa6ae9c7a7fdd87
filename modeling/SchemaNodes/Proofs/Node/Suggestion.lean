import SchemaNodes.Proofs.Naming.Suggestion
import SchemaNodes.Proofs.Node.Refusal
import SchemaNodes.Proofs.Registry.Redirection

/-!
# Suggestions that help

The two errors about names that lead nowhere carry a suggestion: a callable name of the kind for an
unknown accessor, a declared type for an unresolved reference. This module says when there is one,
and what is gained by following it.

* **`Operation.run_of_unbound`**: every operation looks its name up first.
* **`Operation.blockFailed_of_bound`**: under a callable name only the block of an operation can fail
  with an unknown accessor.
* **`BuildError.suggestions_followed`**: the two errors together.
-/

namespace SchemaNodes

open Naming Registry

variable {σ : Type}

/-- The error of a name that leads to no attribute. -/
def BuildError.IsUnknownAccessor : BuildError → Prop
  | .unknownAccessor .. => True
  | _ => False

namespace Operation

/-- Under a name that leads nowhere every operation is refused, with what is suggested among the
callable names. -/
theorem run_of_unbound (op : Operation σ) {node : Node} {name : String}
    (ha : node.kind.accessor? name = none) (state : σ) :
    op.run node name state = ⟨node, .error (.unknownAccessor node.kindName name
      (suggest name node.kind.accessors.keys)), state⟩ :=
  ((Refused.unbound ha : op.Refused node name _).run_eq state).1

/-- An operation is refused as an unknown accessor only under a name that leads nowhere. -/
theorem Refused.unbound_of_isUnknownAccessor {op : Operation σ} {node : Node} {name : String}
    {e : BuildError} (h : op.Refused node name e) (he : e.IsUnknownAccessor) :
    node.kind.accessor? name = none := by
  cases h with
  | unbound ha => exact ha
  | valueMisfits | noChild | itemMisfits | appendToScalar => exact he.elim

/-- Under a callable name an unknown accessor is an error that the block has returned. -/
theorem blockFailed_of_bound {op : Operation σ} {node : Node} {name : String} {a : Attribute}
    (ha : node.kind.accessor? name = some a) {state : σ} {e : BuildError}
    (h : (op.run node name state).result = .error e) (he : e.IsUnknownAccessor) :
    ∃ block, op.block? = some block ∧
      ∃ run ∈ op.runs node name state, (run.outcome block).result = .error e := by
  rcases refused_or_blockFailed h with hrefused | hblock
  · rw [hrefused.unbound_of_isUnknownAccessor he] at ha
    cases ha
  · exact hblock

end Operation

namespace BuildError

/-- **Suggestions help, and are given where anything is comparable.** On every node, an operation
under a name that is not callable fails with an unknown accessor. It carries a suggestion if and
only if a callable name of the kind is comparable, and then the suggestion is such a name; the
operation repeated under it fails with an unknown accessor only if its own block returns that error.
A schema that refers to a type without declaring it does not compile, and the error is about such a
reference. It carries a suggestion if and only if a declared type is comparable, and then the
suggestion is such a type; with the reference pointed at it the schema compiles or fails at a later
reference. -/
theorem suggestions_followed :
    (∀ {σ : Type} (op : Operation σ) (node : Node) (name : String) (state : σ),
      name ∉ node.kind.accessors.keys →
        ∃ suggestion?, op.run node name state =
            ⟨node, .error (.unknownAccessor node.kindName name suggestion?), state⟩ ∧
          (suggestion?.isSome = true ↔
            ∃ s ∈ node.kind.accessors.keys, Comparable name s) ∧
          ∀ s, suggestion? = some s →
            s ∈ node.kind.accessors.keys ∧ Comparable name s ∧
              ∀ e, (op.run node s state).result = .error e → e.IsUnknownAccessor →
                ∃ block, op.block? = some block ∧
                  ∃ run ∈ op.runs node s state, (run.outcome block).result = .error e) ∧
    ∀ (schema : Schema) (r : Schema.Reference) (naming : NamingSettings) (label? : Option String)
      (serial : Nat), schema.Refers r → r.target ∉ schema.keys →
        ∃ type attr reference suggestion?,
          compile schema naming label? serial =
            .error (.unresolvedReference type attr reference suggestion?) ∧
          schema.Refers ⟨type, attr, reference⟩ ∧ reference ∉ schema.keys ∧
          (suggestion?.isSome = true ↔ ∃ s ∈ schema.keys, Comparable reference s) ∧
          ∀ s, suggestion? = some s →
            s ∈ schema.keys ∧ Comparable reference s ∧
              ((∃ registry, compile (schema.redirect ⟨type, attr, reference⟩ s) naming label?
                  serial = .ok registry) ∨
                ∃ type' attr' reference' suggestion?',
                  compile (schema.redirect ⟨type, attr, reference⟩ s) naming label? serial =
                    .error (.unresolvedReference type' attr' reference' suggestion?') ∧
                  (type < type' ∨ type = type' ∧ attr < attr')) := by
  constructor
  · intro σ op node name state hname
    refine ⟨suggest name node.kind.accessors.keys,
      op.run_of_unbound (Entries.find?_eq_none_iff.2 hname) state, suggest_isSome_iff,
      fun s hs => ?_⟩
    obtain ⟨hmem, hcomparable⟩ := mem_of_suggest hs
    obtain ⟨a, ha⟩ := Dict.mem_keys_iff.1 hmem
    exact ⟨hmem, hcomparable, fun e => Operation.blockFailed_of_bound ha⟩
  · intro schema q naming label? serial hq hmissing
    -- a reference is unresolved, so there is a first one
    obtain ⟨e, he⟩ : ∃ e, compile schema naming label? serial = .error e := by
      cases hcompile : compile schema naming label? serial with
      | error e => exact ⟨e, rfl⟩
      | ok registry => exact absurd (exists_compile_iff.1 ⟨registry, hcompile⟩ q hq) hmissing
    obtain ⟨r, hr, hundeclared, hleast, rfl⟩ := compile_eq_error_iff.1 he
    refine ⟨r.type, r.attr, r.target, suggest r.target schema.keys, he, hr, hundeclared,
      suggest_isSome_iff, fun s hs => ?_⟩
    obtain ⟨hmem, hcomparable⟩ := mem_of_suggest hs
    refine ⟨hmem, hcomparable, ?_⟩
    rcases compile_redirect hr hleast hmem naming label? serial with
      hcompiles | ⟨later, hprecedes, hfails⟩
    · exact .inl hcompiles
    · exact .inr ⟨_, _, _, _, hfails, hprecedes⟩

/-! ## Slips in the sample -/

theorem keys_policy : (Node.fresh sampleRegistry 0).kind.accessors.keys =
    ["Default", "Rule", "Rules", "default", "rule", "rules"] := by
  show (AccessorTable.ofAttributes _ _ _).keys = _
  simp only [AccessorTable.ofAttributes, AccessorTable.candidates, accessorNames, sortByRank_eq]
  decide +kernel

theorem keys_rule : (Node.fresh sampleRegistry 1).kind.accessors.keys = ["Title", "title"] := by
  show (AccessorTable.ofAttributes _ _ _).keys = _
  simp only [AccessorTable.ofAttributes, AccessorTable.candidates, accessorNames, sortByRank_eq]
  decide +kernel

theorem ruls_not_mem_keys : "ruls" ∉ (Node.fresh sampleRegistry 0).kind.accessors.keys := by
  rw [keys_policy]
  decide

theorem suggest_ruls :
    suggest "ruls" (Node.fresh sampleRegistry 0).kind.accessors.keys = some "rules" := by
  rw [keys_policy]
  decide +kernel

/-- `sampleSchema` with a slip in each of two references. -/
def slipSchema : Schema :=
  .ofList [
    ("Policy", .record (.ofList [("default", .scalar "Rul")])),
    ("Rule", .record (.ofList [("title", .scalar "Txt")])),
    ("Text", .primitive "String")]

theorem compile_slip : compile slipSchema .default none 0 =
    .error (.unresolvedReference "Policy" "default" "Rul" (some "Rule")) := by
  rw [← failure?_eq_some_iff, failure?_compile]
  decide +kernel

theorem refers_slip : slipSchema.Refers ⟨"Policy", "default", "Rul"⟩ := by
  obtain ⟨r, hr, -, -, he⟩ := compile_eq_error_iff.1 compile_slip
  cases r
  cases he
  exact hr

/-- A slip in the name of a list is mended by the suggestion, and so is a slip in a reference. -/
theorem suggestions_followed_slip :
    "ruls" ∉ (Node.fresh sampleRegistry 0).kind.accessors.keys ∧
    (Operation.append [] : Operation Unit).run (.fresh sampleRegistry 0) "ruls" () =
      ⟨.fresh sampleRegistry 0, .error (.unknownAccessor "Policy" "ruls" (some "rules")), ()⟩ ∧
    (∀ e, ((Operation.append [] : Operation Unit).run (.fresh sampleRegistry 0) "rules" ()).result =
      .error e → ¬ e.IsUnknownAccessor) ∧
    compile slipSchema .default none 0 =
      .error (.unresolvedReference "Policy" "default" "Rul" (some "Rule")) ∧
    ((∃ registry, compile (slipSchema.redirect ⟨"Policy", "default", "Rul"⟩ "Rule") .default none
        0 = .ok registry) ∨
      ∃ type attr reference suggestion?,
        compile (slipSchema.redirect ⟨"Policy", "default", "Rul"⟩ "Rule") .default none 0 =
          .error (.unresolvedReference type attr reference suggestion?) ∧
        ("Policy" < type ∨ "Policy" = type ∧ "default" < attr)) := by
  obtain ⟨suggestion?, hrun, -, haccessor⟩ := suggestions_followed.1
    (Operation.append [] : Operation Unit) _ _ () ruls_not_mem_keys
  have hrules : (Operation.append [] : Operation Unit).run (.fresh sampleRegistry 0) "ruls" () =
      ⟨.fresh sampleRegistry 0, .error (.unknownAccessor "Policy" "ruls" (some "rules")), ()⟩ := by
    rw [Operation.run_of_unbound _ (Entries.find?_eq_none_iff.2 ruls_not_mem_keys), suggest_ruls]
    rfl
  obtain rfl : suggestion? = some "rules" := by
    rw [hrules] at hrun
    cases hrun
    rfl
  obtain ⟨type, attr, reference, suggestion?, he, -, -, -, hreference⟩ :=
    suggestions_followed.2 _ _ .default none 0 refers_slip (by decide)
  rw [compile_slip] at he
  cases he
  refine ⟨ruls_not_mem_keys, hrules, fun e he hunknown => ?_, compile_slip,
    (hreference "Rule" rfl).2.2⟩
  -- an append has no block
  obtain ⟨block, hblock, -⟩ := (haccessor "rules" rfl).2.2 e he hunknown
  cases hblock

/-- A block that itself asks for a name that leads nowhere fails with an unknown accessor under the
suggested name, too. -/
theorem suggestion_fails_inside :
    let op : Operation Unit :=
      .build fun child state => ⟨child, (child.query "zzz").map fun _ => (), state⟩
    (op.run (.fresh sampleRegistry 0) "ruls" ()).result =
        .error (.unknownAccessor "Policy" "ruls" (some "rules")) ∧
      (op.run (.fresh sampleRegistry 0) "rules" ()).result =
        .error (.unknownAccessor "Rule" "zzz" none) := by
  intro op
  constructor
  · rw [op.run_of_unbound (Entries.find?_eq_none_iff.2 ruls_not_mem_keys), suggest_ruls]
    rfl
  · have hinner : (Node.fresh sampleRegistry 1).query "zzz" =
        .error (.unknownAccessor "Rule" "zzz" none) := by
      have hnone : (Node.fresh sampleRegistry 1).kind.accessor? "zzz" = none := by
        refine Entries.find?_eq_none_iff.2 ?_
        rw [← Dict.keys, keys_rule]
        decide
      have hsuggest : suggest "zzz" (Node.fresh sampleRegistry 1).kind.accessors.keys = none := by
        rw [keys_rule]
        decide +kernel
      rw [Node.query, hnone]
      simp only [Node.unknownAccessor, hsuggest]
      rfl
    have ha : (Node.fresh sampleRegistry 0).kind.accessor? "rules" = some ⟨"rules", true, 1⟩ :=
      accessor?_rules
    show (((Node.fresh sampleRegistry 0).build "rules" _ ()).silent _).result = _
    rw [Node.build_of_list ha rfl]
    show ((((Node.fresh sampleRegistry 1).query "zzz").map fun _ => ()).map fun _ => none) = _
    rw [hinner]
    rfl

end BuildError

end SchemaNodes
