import SchemaNodes.Proofs.Node.Simulation

/-!
# Runs under a schema with further types

A schema with further types renumbers kinds, but a procedure does not see ids: nodes of kinds of one
name are alike, and whatever is done to them goes side by side. Other registries may take part, as
the origins of nodes that have no place under any attribute; a `Matching` says which stand for
which.

* **`Matching.along`**: one registry in place of another, and all others in their own places.
* **`Registry.compile_extended`**: a type has its names and attributes under either schema, and a
  procedure that starts with a node of it has the same run.
-/

namespace SchemaNodes

/-- Which registries stand for which. -/
structure Matching where
  pairs : Registry → Registry → Prop
  /-- A registry stands for one whose types it has, -/
  extended : ∀ {r r'}, pairs r r' → r.ExtendedBy r'
  /-- and no two stand for one or are stood for by one. -/
  one_to_one : ∀ {r r' s s'}, pairs r r' → pairs s s' → (s' = r' ↔ s = r)

namespace Matching

/-- A registry whose place is taken by one with further types, while every other compiled registry
keeps its place. -/
def along {registry registry' : Registry} (h : registry.ExtendedBy registry') : Matching where
  pairs r r' := (r = registry ∧ r' = registry') ∨
    (r ≠ registry ∧ r ≠ registry' ∧ r.Compiled ∧ r' = r)
  extended := by
    rintro r r' (⟨rfl, rfl⟩ | ⟨-, -, hcompiled, rfl⟩)
    · exact h
    · exact .refl hcompiled
  one_to_one := by
    -- a registry that keeps its place is neither of the two, so it is never one of them on one side
    rintro r r' s s' (⟨rfl, rfl⟩ | ⟨hne, hne', -, rfl⟩) (⟨rfl, rfl⟩ | ⟨hne₂, hne₂', -, rfl⟩)
    · exact iff_of_true rfl rfl
    · exact iff_of_false hne₂' hne₂
    · exact iff_of_false hne'.symm hne.symm
    · rfl

/-- Kinds of one name in registries that stand for one another. -/
def correspondence (m : Matching) : Correspondence where
  kinds r k r' k' := m.pairs r r' ∧ Registry.Namesakes r k r' k'
  unpacks := False
  name_eq h := h.2.name_eq
  names_eq h := ((m.extended h.1).kind_matches h.2).names_eq
  accessor := by
    rintro r k r' k' ⟨hpair, hkinds⟩ name
    match (r.kind k).accessor? name, (r'.kind k').accessor? name,
      ((m.extended hpair).kind_matches hkinds).accessor name with
    | _, _, .none => exact .none
    | _, _, .some ha => exact .some ⟨ha.name_eq, ha.isList_eq, hpair, ha.target⟩
  registry_iff h hs := m.one_to_one h.1 hs.1
  id_iff h hl := (m.extended h.1).id_iff h.2 hl.2

end Matching

namespace Registry

open Procedure

/-- Further types change nothing about a type: it has the same attributes and names, with targets of
the same names, and starting with a node of it, procedures with alike arguments have the same
run. -/
theorem compile_extended {schema schema' : Schema} {naming : NamingSettings}
    {label? label?' : Option String} {serial serial' : Nat} {registry registry' : Registry}
    (h : compile schema naming label? serial = .ok registry)
    (h' : compile schema' naming label?' serial' = .ok registry')
    (hextends : schema.ExtendedBy schema') {type : String} {definition : TypeDefinition}
    (htype : schema.find? type = some definition) :
    ∃ id id',
      (registry.lookup? type = some (registry.kind id) ∧
        registry'.lookup? type = some (registry'.kind id') ∧
          (registry.kind id).Matches registry registry' (registry'.kind id')) ∧
      registry.instantiate type = .ok (.fresh registry id) ∧
        registry'.instantiate type = .ok (.fresh registry' id') ∧
          ∀ m : Matching, m.pairs registry registry' →
            ∀ {procedure procedure' : Procedure}, procedure.Alike m.correspondence procedure' →
              SameRun m.correspondence (procedure.run (.fresh registry id) .start)
                (procedure'.run (.fresh registry' id') .start) := by
  have hregistries : registry.ExtendedBy registry' := ⟨_, _, _, _, _, _, _, h, h', hextends⟩
  obtain ⟨id, hid, rfl⟩ := exists_kind_of_find? h htype
  obtain ⟨id', hkinds⟩ := hregistries.exists_namesake hid
  have hname : (registry'.kind id').name = (registry.kind id).name := hkinds.name_eq
  refine ⟨id, id',
    ⟨hregistries.compiled.lookup?_kind_name hid, ?_, hregistries.kind_matches hkinds⟩,
    hregistries.compiled.instantiate_kind_name hid, ?_, fun m hpair _ _ hprocedure => ?_⟩
  · rw [← hname]
    exact hregistries.compiled'.lookup?_kind_name hkinds.lt'
  · rw [← hname]
    exact hregistries.compiled'.instantiate_kind_name hkinds.lt'
  · exact hprocedure.sameRun (.mk ⟨hpair, hkinds⟩ .nil)

/-- A policy is given a rule that was made before, a default rule, and a name that it does not
know. -/
theorem compile_extended_draft :
    let finish : List Event → Procedure := fun _ => .finish (.ok ())
    let entitle : List Event → Procedure := fun _ =>
      .operate "title" (.set (.value (.json (.string "first")))) finish finish
    let procedure (rule : Node) : Procedure :=
      .operate "rules" (.append [.value (.node rule)]) finish fun _ =>
        .operate "default" .build entitle fun _ => .operate "owner" .query finish finish
    let m := Matching.along ⟨_, _, _, _, _, _, _, compile_sample, compile_draft, extendedBy_draft⟩
    compile sampleSchema .default none 0 = .ok sampleRegistry ∧
      compile draftSchema .default none 1 = .ok draftRegistry ∧
      sampleSchema.ExtendedBy draftSchema ∧ sampleSchema.find? "Policy" ≠ none ∧
      ∃ policy policy', sampleRegistry.instantiate "Policy" = .ok policy ∧
        draftRegistry.instantiate "Policy" = .ok policy' ∧
          SameRun m.correspondence ((procedure (.fresh sampleRegistry 1)).run policy .start)
            ((procedure (.fresh draftRegistry 2)).run policy' .start) := by
  intro finish entitle procedure m
  obtain ⟨definition, htype⟩ : ∃ definition, sampleSchema.find? "Policy" = some definition :=
    Option.isSome_iff_exists.1 (by decide)
  obtain ⟨id, id', -, hroot, hroot', hrun⟩ :=
    compile_extended compile_sample compile_draft extendedBy_draft htype
  have hpair : m.pairs sampleRegistry draftRegistry := .inl ⟨rfl, rfl⟩
  have hrule : (Node.fresh sampleRegistry 1).Alike m.correspondence (.fresh draftRegistry 2) :=
    .mk ⟨hpair, by decide, by decide, by decide⟩ .nil
  have hfinish : ∀ events, (finish events).Alike m.correspondence (finish events) :=
    fun _ => .finish _
  have hentitle : ∀ events, (entitle events).Alike m.correspondence (entitle events) :=
    fun _ => .operate _ (.set (.value (.leaf _))) hfinish hfinish
  have hprocedure : (procedure (.fresh sampleRegistry 1)).Alike m.correspondence
      (procedure (.fresh draftRegistry 2)) :=
    .operate _ (.append (.cons (.value (.node hrule)) .nil)) hfinish fun _ =>
      .operate _ .build hentitle fun _ => .operate _ .query hfinish hfinish
  refine ⟨compile_sample, compile_draft, extendedBy_draft, ?_, _, _, hroot, hroot',
    hrun m hpair hprocedure⟩
  rw [htype]
  exact Option.some_ne_none _

end Registry

end SchemaNodes
