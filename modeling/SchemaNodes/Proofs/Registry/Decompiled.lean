import SchemaNodes.Proofs.Registry.Reference

/-!
# Compiling and decompiling

Compiling a schema loses nothing. An id stands for a name, a resolved reference for the name that it
was resolved from, and so the kinds give the definitions back that they were compiled from, whichever
way the references of the schema run.

* **`definition_of_compileKind`**: a kind decompiles to the definition that it was compiled from.
* **`Registry.Mirrors`**: what a registry has in common with its schema, ids and look-ups included.
* **`Registry.compile_faithful`**: when a schema compiles, what the error is when it does not, and
  that the registry mirrors it when it does.
-/

namespace SchemaNodes

namespace Registry

section Decompiling

variable {schema : Schema} {naming : NamingSettings} {label? : Option String} {serial : Nat}
  {registry : Registry}

/-- A resolved reference names the type that it was resolved from. -/
theorem reference_of_resolve (h : compile schema naming label? serial = .ok registry) {type : String}
    {entry : String × AttributeType} {a : Attribute}
    (hresolve : resolve schema type entry = .ok a) :
    (a.name, registry.reference a) = entry := by
  obtain ⟨attr, shape⟩ := entry
  obtain ⟨hname, hlist, -⟩ := resolve_eq_ok_iff.1 hresolve
  have htarget : (registry.kind a.target).name = shape.typeName := (target_of_resolve h hresolve).2
  have hshape : registry.reference a = shape := by
    cases shape with
    | scalar target => simp_all [reference, AttributeType.isList, AttributeType.typeName]
    | list element => simp_all [reference, AttributeType.isList, AttributeType.typeName]
  rw [hshape, hname]

theorem definition_of_compileKind (h : compile schema naming label? serial = .ok registry)
    {inflector : Naming.Inflector} {caseAliases : Bool} {name : String} {type : TypeDefinition}
    {id : Nat} {kind : Kind}
    (hkind : compileKind schema inflector caseAliases ((name, type), id) = .ok kind) :
    registry.definition kind = type := by
  obtain ⟨hattributes, -, -, hprimitive, -⟩ := compileKind_eq_ok_iff.1 hkind
  cases type with
  | primitive primitive =>
    have hsome : kind.primitive? = some primitive := hprimitive
    rw [definition, hsome]
  | record attributes =>
    have hnone : kind.primitive? = none := hprimitive
    have hentries : (kind.attributes.map fun a => (a.name, registry.reference a)) =
        attributes.entries := by
      have hsame : attributes.entries.map (fun entry => entry) =
          kind.attributes.map fun a => (a.name, registry.reference a) :=
        map_eq_of_forall₂ hattributes fun entry a hresolve =>
          (reference_of_resolve h hresolve).symm
      rw [← hsame, List.map_id']
    rw [definition, hnone]
    simp only [hentries, Dict.ofList_entries]

/-- The kinds decompile to the types, in their order. -/
theorem definitions_of_compile (h : compile schema naming label? serial = .ok registry) :
    (registry.kinds.map fun kind => (kind.name, registry.definition kind)) = schema.entries := by
  have hsame : schema.entries.zipIdx.map (·.1) =
      registry.kinds.map fun kind => (kind.name, registry.definition kind) := by
    refine map_eq_of_forall₂ (compile_eq_ok_iff.1 h).1 ?_
    rintro ⟨⟨name, type⟩, id⟩ kind hkind
    have hname : kind.name = name := (compileKind_eq_ok_iff.1 hkind).2.2.1
    rw [hname, definition_of_compileKind h hkind]
  rw [← hsame, List.zipIdx_map_fst]

/-- The ids count the kinds. -/
theorem ids_of_compile (h : compile schema naming label? serial = .ok registry) :
    registry.kinds.map (·.id) = List.range registry.size := by
  have hids : schema.entries.zipIdx.map (·.2) = registry.kinds.map (·.id) :=
    map_eq_of_forall₂ (compile_eq_ok_iff.1 h).1 fun entry kind hkind =>
      (compileKind_eq_ok_iff.1 hkind).2.1.symm
  have hsize : schema.entries.length = registry.size := by
    rw [← size_of_compile h]
    simp [Dict.keys, Entries.keys]
  rw [← hids, List.zipIdx_map_snd, hsize, List.range_eq_range']

/-- A look-up finds the kind at the place that the name has among the types. -/
theorem lookup?_of_compile (h : compile schema naming label? serial = .ok registry)
    (type : String) :
    registry.lookup? type = (schema.keys.idxOf? type).map registry.kind := by
  have hcompiled := compiled_of_compile h
  cases hplace : schema.keys.idxOf? type with
  | some id =>
    obtain ⟨hlt, hkey, -⟩ := List.idxOf?_eq_some_iff.1 hplace
    obtain ⟨hid, hname⟩ := name_of_key h (List.getElem?_eq_some_iff.2 ⟨hlt, hkey⟩)
    rw [← hname]
    exact hcompiled.lookup?_kind_name hid
  | none =>
    have hundeclared : type ∉ registry.kinds.map (·.name) := by
      rw [names_of_compile h]
      exact List.idxOf?_eq_none_iff.1 hplace
    refine List.find?_eq_none.2 fun kind hkind hname => hundeclared ?_
    exact List.mem_map.2 ⟨kind, hkind, of_decide_eq_true hname⟩

theorem lookup?_eq_some_iff (h : compile schema naming label? serial = .ok registry)
    {type : String} {kind : Kind} :
    registry.lookup? type = some kind ↔ kind ∈ registry.kinds ∧ kind.name = type := by
  have hcompiled := compiled_of_compile h
  constructor
  · intro hkind
    have hname := List.find?_some (p := fun kind : Kind => decide (kind.name = type)) hkind
    exact ⟨List.mem_of_find?_eq_some hkind, of_decide_eq_true hname⟩
  · rintro ⟨hmem, rfl⟩
    exact find?_name_of_mem hcompiled.kinds_sorted hmem

/-- A kind is found by its id. -/
theorem kind_id_of_lookup? (h : compile schema naming label? serial = .ok registry)
    {type : String} {kind : Kind} (hkind : registry.lookup? type = some kind) :
    registry.kind kind.id = kind := by
  have hcompiled := compiled_of_compile h
  rw [lookup?_of_compile h] at hkind
  obtain ⟨id, hplace, rfl⟩ := Option.map_eq_some_iff.1 hkind
  have hid : id < registry.size := by
    rw [← size_of_compile h]
    exact (List.idxOf?_eq_some_iff.1 hplace).1
  rw [(hcompiled.kind_sound hid).1]

end Decompiling

/-- What a registry shows of a schema. -/
structure Mirrors (registry : Registry) (schema : Schema) : Prop where
  /-- Decompiling it gives the schema. -/
  schema_eq : registry.schema = schema
  /-- The kinds are called like the types and are in their order, -/
  names : registry.kinds.map (·.name) = schema.keys
  /-- in which the ids count them. -/
  ids : registry.kinds.map (·.id) = List.range registry.size
  kind_id : ∀ id < registry.size, (registry.kind id).id = id
  /-- A name is looked up by its place among the types, which gives the kind of the name. -/
  lookup?_eq : ∀ type, registry.lookup? type = (schema.keys.idxOf? type).map registry.kind
  lookup?_eq_some_iff : ∀ type kind, registry.lookup? type = some kind ↔
    kind ∈ registry.kinds ∧ kind.name = type
  exists_lookup?_iff : ∀ type, (∃ kind, registry.lookup? type = some kind) ↔ type ∈ schema.keys
  /-- An instance of a type is an empty node of its kind. -/
  instantiate_eq : ∀ type kind, registry.lookup? type = some kind →
    ∃ node, registry.instantiate type = .ok node ∧ node.registry = registry ∧
      node.kind = kind ∧ node.slots = []
  instantiate_undeclared : ∀ type, type ∉ schema.keys →
    ∃ suggestion?, registry.instantiate type = .error (.unknownType type suggestion?)

theorem mirrors_of_compile {schema : Schema} {naming : NamingSettings} {label? : Option String}
    {serial : Nat} {registry : Registry}
    (h : compile schema naming label? serial = .ok registry) : registry.Mirrors schema where
  schema_eq := by rw [Registry.schema, definitions_of_compile h, Dict.ofList_entries]
  names := names_of_compile h
  ids := ids_of_compile h
  kind_id id hid := ((compiled_of_compile h).kind_sound hid).1
  lookup?_eq := lookup?_of_compile h
  lookup?_eq_some_iff _ _ := lookup?_eq_some_iff h
  exists_lookup?_iff type := by
    rw [lookup?_of_compile h, ← Option.isSome_iff_exists, Option.isSome_map, List.isSome_idxOf?]
  instantiate_eq type kind hkind :=
    ⟨.fresh registry kind.id, by rw [instantiate, hkind], rfl, kind_id_of_lookup? h hkind, rfl⟩
  instantiate_undeclared type hundeclared := by
    have hnone : registry.lookup? type = none := by
      rw [lookup?_of_compile h, List.idxOf?_eq_none_iff.2 hundeclared, Option.map_none]
    exact ⟨_, by rw [instantiate, hnone]⟩

/-- **Compilation is faithful.** A schema compiles if and only if every type name that it refers to
is declared. If it does not, the error names the least pair of type and attribute whose reference is
undeclared, with that reference; if it does, the registry shows exactly the schema. -/
theorem compile_faithful (schema : Schema) (naming : NamingSettings) (label? : Option String)
    (serial : Nat) :
    ((∃ registry, compile schema naming label? serial = .ok registry) ↔
      ∀ r, schema.Refers r → r.target ∈ schema.keys) ∧
    (∀ e, compile schema naming label? serial = .error e ↔
      ∃ r, schema.Refers r ∧ r.target ∉ schema.keys ∧
        (∀ s, schema.Refers s → s.target ∉ schema.keys → s = r ∨ r.Precedes s) ∧
          e = .unresolvedReference r.type r.attr r.target
            (Naming.suggest r.target schema.keys)) ∧
    ∀ registry, compile schema naming label? serial = .ok registry → registry.Mirrors schema :=
  ⟨exists_compile_iff, fun _ => compile_eq_error_iff, fun _ h => mirrors_of_compile h⟩

end Registry

end SchemaNodes
