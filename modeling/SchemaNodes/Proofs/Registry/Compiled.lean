import SchemaNodes.Node.Basic
import SchemaNodes.Proofs.Chain
import SchemaNodes.Proofs.Registry.Claim
import SchemaNodes.Registry.Compile

/-!
# What compiling guarantees

Every registry that nodes are made from comes out of `Registry.compile`. This module takes the
compilation apart, step by step from the outside in, and states what the later modules use:

* **`compile_eq_ok_iff`**, **`compileKind_eq_ok_iff`**, **`resolve_eq_ok_iff`**: what a success of
  each stage says about its result.
* **`Compiled.kind_sound`**: a kind stands at the place of its id, its attributes are in name order
  and refer to kinds of the registry, and its table is that of its attributes.
* **`Compiled.declared_of_accessor?`**: a callable name leads to a declared attribute with a name.
* **`Compiled.instantiate_kind_name`**: every kind is instantiated by its name, so that a fresh node
  of it is a root.
* **`names_of_compile`**, **`definition_of_kind`**, **`kind_of_declared`**: kinds and types by name.
* **`sampleRegistry`**: a registry for concrete runs.
-/

namespace SchemaNodes

/-! ## The stages of compilation -/

theorem TypeDefinition.attributes_sorted (type : TypeDefinition) : type.attributes.Sorted := by
  cases type with
  | primitive _ => exact List.Pairwise.nil
  | record attributes => exact attributes.sorted

namespace Registry

/-- A resolved reference is the place of the type that it names. -/
theorem resolve_eq_ok_iff {schema : Schema} {type : String} {entry : String × AttributeType}
    {a : Attribute} :
    resolve schema type entry = .ok a ↔
      a.name = entry.1 ∧ a.isList = entry.2.isList ∧
        schema.keys.idxOf? entry.2.typeName = some a.target := by
  unfold resolve
  cases hplace : schema.keys.idxOf? entry.2.typeName with
  | none => simp [hplace]
  | some target =>
    obtain ⟨name, isList, place⟩ := a
    simp [hplace, eq_comm]

theorem compileKind_eq_ok_iff {schema : Schema} {inflector : Naming.Inflector}
    {caseAliases : Bool} {name : String} {type : TypeDefinition} {id : Nat} {kind : Kind} :
    compileKind schema inflector caseAliases ((name, type), id) = .ok kind ↔
      List.Forall₂ (fun entry a => resolve schema name entry = .ok a)
          type.attributes kind.attributes ∧
        kind.id = id ∧ kind.name = name ∧ kind.primitive? = primitiveOf? type ∧
          kind.accessors = .ofAttributes inflector caseAliases kind.attributes := by
  simp only [compileKind]
  rw [bind_eq_ok_iff]
  constructor
  · rintro ⟨attributes, hattributes, hkind⟩
    obtain rfl : _ = kind := by simpa [pure, Except.pure] using hkind
    exact ⟨mapM_eq_ok_iff.1 hattributes, rfl, rfl, rfl, rfl⟩
  · rintro ⟨hattributes, rfl, rfl, hprimitive, haccessors⟩
    refine ⟨kind.attributes, mapM_eq_ok_iff.2 hattributes, ?_⟩
    rw [← hprimitive, ← haccessors]
    rfl

theorem compile_eq_ok_iff {schema : Schema} {naming : NamingSettings} {label? : Option String}
    {serial : Nat} {registry : Registry} :
    compile schema naming label? serial = .ok registry ↔
      List.Forall₂ (fun definition kind =>
          compileKind schema (.ofSettings naming) naming.caseAliases definition = .ok kind)
          schema.entries.zipIdx registry.kinds ∧
        registry.serial = serial ∧ registry.label? = label? ∧
          registry.fingerprint = Schema.checksum schema := by
  simp only [compile]
  rw [bind_eq_ok_iff]
  constructor
  · rintro ⟨kinds, hkinds, hregistry⟩
    obtain rfl : _ = registry := by simpa [pure, Except.pure] using hregistry
    exact ⟨mapM_eq_ok_iff.1 hkinds, rfl, rfl, rfl⟩
  · rintro ⟨hkinds, rfl, rfl, hfingerprint⟩
    refine ⟨registry.kinds, mapM_eq_ok_iff.2 hkinds, ?_⟩
    rw [← hfingerprint]
    rfl

/-! ## Compiled registries -/

/-- The registry was compiled from a schema, under some naming settings. -/
def Compiled (registry : Registry) : Prop :=
  ∃ schema naming label? serial, compile schema naming label? serial = .ok registry

theorem compiled_of_compile {schema : Schema} {naming : NamingSettings} {label? : Option String}
    {serial : Nat} {registry : Registry}
    (h : compile schema naming label? serial = .ok registry) : registry.Compiled :=
  ⟨schema, naming, label?, serial, h⟩

end Registry

/-- What a kind of a registry of `size` kinds keeps to. -/
structure Kind.Sound (kind : Kind) (size : Nat) : Prop where
  /-- The attributes are in name order. -/
  sorted : kind.attributes.Pairwise fun a b => a.name < b.name
  /-- The attributes refer to kinds of the registry. -/
  target_lt : ∀ a ∈ kind.attributes, a.target < size
  /-- The table is that of the attributes. -/
  accessors_eq : ∃ inflector caseAliases,
    kind.accessors = .ofAttributes inflector caseAliases kind.attributes

/-- Where names ascend, a search by name finds the only element of the name. -/
theorem find?_name_of_mem {α : Type} {nameOf : α → String} {xs : List α}
    (hsorted : xs.Pairwise fun x y => nameOf x < nameOf y) {x : α} (hx : x ∈ xs) :
    xs.find? (fun y => nameOf y = nameOf x) = some x := by
  obtain ⟨i, hi, rfl⟩ := List.getElem_of_mem hx
  refine List.find?_eq_some_iff_getElem.2 ⟨by simp, i, hi, rfl, fun j hji => ?_⟩
  have hlt := List.pairwise_iff_getElem.1 hsorted j i (Nat.lt_trans hji hi) hi hji
  simp only [Bool.not_eq_true', decide_eq_false_iff_not]
  intro heq
  rw [heq] at hlt
  exact String.lt_irrefl _ hlt

/-- A declared attribute is found by its name. -/
theorem Kind.Sound.attribute?_of_mem {kind : Kind} {size : Nat} (h : kind.Sound size)
    {a : Attribute} (ha : a ∈ kind.attributes) : kind.attribute? a.name = some a :=
  find?_name_of_mem h.sorted ha

/-- A declared attribute with a name can be called by it. -/
theorem Kind.Sound.accessor?_declared {kind : Kind} {size : Nat} (h : kind.Sound size)
    {a : Attribute} (ha : a ∈ kind.attributes) (hname : a.name ≠ "") :
    kind.accessor? a.name = some a := by
  obtain ⟨inflector, caseAliases, htable⟩ := h.accessors_eq
  rw [Kind.accessor?, htable]
  exact AccessorTable.find?_declared h.sorted ha hname

namespace Registry

theorem kind_eq_of_getElem? {registry : Registry} {id : Nat} {kind : Kind}
    (h : registry.kinds[id]? = some kind) : registry.kind id = kind := by
  simp [Registry.kind, h]

/-- A kind comes from the definition at its place. -/
theorem compileKind_of_compile {schema : Schema} {naming : NamingSettings} {label? : Option String}
    {serial : Nat} {registry : Registry}
    (h : compile schema naming label? serial = .ok registry) {id : Nat} (hid : id < registry.size) :
    ∃ name type, schema.entries[id]? = some (name, type) ∧
      compileKind schema (.ofSettings naming) naming.caseAliases ((name, type), id) =
        .ok (registry.kind id) := by
  have hkinds := (compile_eq_ok_iff.1 h).1
  have hlength := hkinds.length_eq
  have hlt : id < schema.entries.length := by
    rw [List.length_zipIdx] at hlength
    rw [hlength]
    exact hid
  refine ⟨schema.entries[id].1, schema.entries[id].2, List.getElem?_eq_getElem hlt, ?_⟩
  have hplace : id < registry.kinds.length := hid
  have hkind := hkinds.get (i := id) (by simpa using hlt) hplace
  rw [kind_eq_of_getElem? (List.getElem?_eq_getElem hplace)]
  simpa using hkind

/-- A compiled registry has as many kinds as its schema has types. -/
theorem size_of_compile {schema : Schema} {naming : NamingSettings} {label? : Option String}
    {serial : Nat} {registry : Registry}
    (h : compile schema naming label? serial = .ok registry) :
    schema.keys.length = registry.size := by
  have hlength := (compile_eq_ok_iff.1 h).1.length_eq
  simpa [Dict.keys, Entries.keys, size] using hlength

/-- A compiled kind stands at the place of its id and is sound. -/
theorem Compiled.kind_sound {registry : Registry} (h : registry.Compiled) {id : Nat}
    (hid : id < registry.size) :
    (registry.kind id).id = id ∧ (registry.kind id).Sound registry.size := by
  obtain ⟨schema, naming, label?, serial, hcompile⟩ := h
  obtain ⟨name, type, -, hkind⟩ := compileKind_of_compile hcompile hid
  obtain ⟨hattributes, hplace, -, -, haccessors⟩ := compileKind_eq_ok_iff.1 hkind
  refine ⟨hplace, ?_, ?_, ⟨_, _, haccessors⟩⟩
  · -- the attributes have the names of the entries that they come from
    have hnames : type.attributes.map (·.1) = (registry.kind id).attributes.map (·.name) :=
      map_eq_of_forall₂ hattributes fun entry a h => (resolve_eq_ok_iff.1 h).1.symm
    have hsorted := List.pairwise_map.2 type.attributes_sorted
    rw [hnames] at hsorted
    exact List.pairwise_map.1 hsorted
  · intro a ha
    obtain ⟨i, hi, rfl⟩ := List.getElem_of_mem ha
    have hresolve := hattributes.get (by rw [hattributes.length_eq]; exact hi) hi
    obtain ⟨-, -, hplace⟩ := resolve_eq_ok_iff.1 hresolve
    obtain ⟨hlt, -⟩ := List.idxOf?_eq_some_iff.1 hplace
    rw [← size_of_compile hcompile]
    exact hlt

/-- A callable name leads to a declared attribute, which has a name and refers to a kind of the
registry. -/
theorem Compiled.declared_of_accessor? {registry : Registry} (h : registry.Compiled) {id : Nat}
    (hid : id < registry.size) {name : String} {a : Attribute}
    (ha : (registry.kind id).accessor? name = some a) :
    (registry.kind id).attribute? a.name = some a ∧ a.name ≠ "" ∧ a.target < registry.size := by
  obtain ⟨-, hsound⟩ := h.kind_sound hid
  obtain ⟨inflector, caseAliases, htable⟩ := hsound.accessors_eq
  have hfound : (AccessorTable.ofAttributes inflector caseAliases
      (registry.kind id).attributes).find? name = some a := by
    rw [← htable]
    exact ha
  obtain ⟨hmem, rank, hclaim⟩ := AccessorTable.claims_of_find? hfound
  exact ⟨hsound.attribute?_of_mem hmem, hclaim.name_ne_empty, hsound.target_lt a hmem⟩

/-- The kinds have the names of the types, in their order. -/
theorem names_of_compile {schema : Schema} {naming : NamingSettings} {label? : Option String}
    {serial : Nat} {registry : Registry}
    (h : compile schema naming label? serial = .ok registry) :
    registry.kinds.map (·.name) = schema.keys := by
  have hnames : schema.entries.zipIdx.map (·.1.1) = registry.kinds.map (·.name) :=
    map_eq_of_forall₂ (compile_eq_ok_iff.1 h).1 fun entry kind hkind =>
      (compileKind_eq_ok_iff.1 hkind).2.2.1.symm
  rw [← hnames, ← Function.comp_def, ← List.map_map, List.zipIdx_map_fst]
  rfl

/-- The kinds are in name order. -/
theorem Compiled.kinds_sorted {registry : Registry} (h : registry.Compiled) :
    registry.kinds.Pairwise fun k l => k.name < l.name := by
  obtain ⟨schema, naming, label?, serial, hcompile⟩ := h
  have hsorted : schema.keys.Pairwise (· < ·) := List.pairwise_map.2 schema.sorted
  rw [← names_of_compile hcompile] at hsorted
  exact List.pairwise_map.1 hsorted

/-- Instantiating gives a node without slots of a kind of the registry. -/
theorem Compiled.fresh_of_instantiate {registry : Registry} (h : registry.Compiled)
    {type : String} {node : Node} (hnode : registry.instantiate type = .ok node) :
    ∃ id < registry.size, node = .fresh registry id := by
  unfold instantiate lookup? at hnode
  split at hnode
  · next kind hkind =>
    obtain ⟨i, hi, rfl⟩ := List.getElem_of_mem (List.mem_of_find?_eq_some hkind)
    obtain ⟨hplace, -⟩ := h.kind_sound hi
    rw [kind_eq_of_getElem? (List.getElem?_eq_getElem hi)] at hplace
    refine ⟨i, hi, ?_⟩
    rw [hplace] at hnode
    exact (Except.ok.inj hnode).symm
  · exact absurd hnode (by simp)

/-- A kind is found by its name. -/
theorem Compiled.lookup?_kind_name {registry : Registry} (h : registry.Compiled) {id : Nat}
    (hid : id < registry.size) :
    registry.lookup? (registry.kind id).name = some (registry.kind id) := by
  have hplace : registry.kinds[id]? = some registry.kinds[id] := List.getElem?_eq_getElem hid
  rw [kind_eq_of_getElem? hplace]
  exact find?_name_of_mem h.kinds_sorted (List.getElem_mem hid)

/-- A node without slots of a kind of the registry is what its kind's name instantiates. -/
theorem Compiled.instantiate_kind_name {registry : Registry} (h : registry.Compiled) {id : Nat}
    (hid : id < registry.size) :
    registry.instantiate (registry.kind id).name = .ok (.fresh registry id) := by
  rw [instantiate, h.lookup?_kind_name hid]
  exact congrArg (fun place => Except.ok (Node.fresh registry place)) (h.kind_sound hid).1

/-- The name of a kind tells its id. -/
theorem Compiled.id_eq_of_name_eq {registry : Registry} (h : registry.Compiled) {id other : Nat}
    (hid : id < registry.size) (hother : other < registry.size)
    (hname : (registry.kind id).name = (registry.kind other).name) : id = other := by
  have hfound := h.lookup?_kind_name hid
  rw [hname, h.lookup?_kind_name hother] at hfound
  have hkind : registry.kind other = registry.kind id := Option.some.inj hfound
  rw [← (h.kind_sound hid).1, ← (h.kind_sound hother).1, hkind]

/-! ## Kinds and the types that they come from -/

section Places

variable {schema : Schema} {naming : NamingSettings} {label? : Option String} {serial : Nat}
  {registry : Registry}

/-- The key at a place of the schema is the name of the kind at that place. -/
theorem name_of_key (h : compile schema naming label? serial = .ok registry) {id : Nat}
    {type : String} (hkey : schema.keys[id]? = some type) :
    id < registry.size ∧ (registry.kind id).name = type := by
  have hid : id < registry.size := by
    rw [← size_of_compile h]
    exact (List.getElem?_eq_some_iff.1 hkey).1
  obtain ⟨name, definition, hentry, hkind⟩ := compileKind_of_compile h hid
  obtain ⟨-, -, hname, -⟩ := compileKind_eq_ok_iff.1 hkind
  rw [Dict.keys, Entries.keys, List.getElem?_map, hentry] at hkey
  exact ⟨hid, hname.trans (Option.some.inj hkey)⟩

/-- Every type has a kind. -/
theorem exists_kind_of_find? (h : compile schema naming label? serial = .ok registry)
    {type : String} {definition : TypeDefinition} (hfind : schema.find? type = some definition) :
    ∃ id < registry.size, (registry.kind id).name = type := by
  obtain ⟨id, hkey⟩ := List.mem_iff_getElem?.1 (Dict.mem_keys_iff.2 ⟨definition, hfind⟩)
  exact ⟨id, name_of_key h hkey⟩

/-- A reference is resolved to the kind of the type that it names. -/
theorem target_of_resolve (h : compile schema naming label? serial = .ok registry) {type : String}
    {entry : String × AttributeType} {a : Attribute}
    (hresolve : resolve schema type entry = .ok a) :
    a.target < registry.size ∧ (registry.kind a.target).name = entry.2.typeName := by
  obtain ⟨-, -, hplace⟩ := resolve_eq_ok_iff.1 hresolve
  obtain ⟨hlt, hkey, -⟩ := List.idxOf?_eq_some_iff.1 hplace
  exact name_of_key h (List.getElem?_eq_some_iff.2 ⟨hlt, hkey⟩)

/-- A kind comes from the definition of the type that it is called by. -/
theorem definition_of_kind (h : compile schema naming label? serial = .ok registry) {id : Nat}
    (hid : id < registry.size) :
    ∃ definition, schema.find? (registry.kind id).name = some definition ∧
      compileKind schema (.ofSettings naming) naming.caseAliases
        (((registry.kind id).name, definition), id) = .ok (registry.kind id) := by
  obtain ⟨name, definition, hentry, hkind⟩ := compileKind_of_compile h hid
  obtain ⟨-, -, hname, -⟩ := compileKind_eq_ok_iff.1 hkind
  rw [hname]
  exact ⟨definition, Dict.mem_entries_iff.1 (List.mem_of_getElem? hentry), hkind⟩

/-- The kind of a declared type, with what its attributes and its table come from. -/
theorem kind_of_declared (h : compile schema naming label? serial = .ok registry) {type : String}
    {definition : TypeDefinition} (hfind : schema.find? type = some definition) :
    ∃ kind, registry.lookup? type = some kind ∧ kind.Sound registry.size ∧
      List.Forall₂ (fun entry a => resolve schema type entry = .ok a) definition.attributes
        kind.attributes ∧
      kind.accessors = .ofAttributes (.ofSettings naming) naming.caseAliases kind.attributes := by
  have hcompiled := compiled_of_compile h
  obtain ⟨id, hid, rfl⟩ := exists_kind_of_find? h hfind
  obtain ⟨definition', hfind', hkind⟩ := definition_of_kind h hid
  obtain rfl : definition = definition' := Option.some.inj (hfind.symm.trans hfind')
  obtain ⟨hattributes, -, -, -, haccessors⟩ := compileKind_eq_ok_iff.1 hkind
  exact ⟨registry.kind id, hcompiled.lookup?_kind_name hid, (hcompiled.kind_sound hid).2,
    hattributes, haccessors⟩

/-- What is found under a name among references and among what they were resolved to. -/
theorem rel_resolved {type : String} {entries : Entries AttributeType}
    {attributes : List Attribute}
    (h : List.Forall₂ (fun entry a => resolve schema type entry = .ok a) entries attributes)
    (name : String) :
    Option.Rel (fun shape a => resolve schema type (name, shape) = .ok a)
      (entries.find? name) (attributes.find? fun a => a.name = name) := by
  induction h with
  | nil => exact .none
  | @cons entry a rest _ hresolve _ ih =>
    obtain ⟨attr, shape⟩ := entry
    have hname : a.name = attr := (resolve_eq_ok_iff.1 hresolve).1
    rw [Entries.find?_cons, List.find?_cons, hname]
    by_cases heq : attr = name
    · subst heq
      simp only [if_true, decide_true]
      exact .some hresolve
    · simp only [heq, if_false, decide_false]
      exact ih

/-- A declared attribute is there in the kind. -/
theorem attribute?_of_declared {kind : Kind} {type name : String} {entries : Entries AttributeType}
    (h : List.Forall₂ (fun entry a => resolve schema type entry = .ok a) entries kind.attributes)
    {shape : AttributeType} (hshape : entries.find? name = some shape) :
    ∃ a, kind.attribute? name = some a ∧ a.name = name ∧ a.isList = shape.isList := by
  have hrel := rel_resolved h name
  rw [hshape] at hrel
  cases hfind : kind.attributes.find? fun a => a.name = name with
  | none =>
    rw [hfind] at hrel
    cases hrel
  | some a =>
    rw [hfind] at hrel
    cases hrel with
    | some hresolve =>
      obtain ⟨hname, hlist, -⟩ := resolve_eq_ok_iff.1 hresolve
      exact ⟨a, hfind, hname, hlist⟩

/-- A name that is not declared is the name of no attribute of the kind. -/
theorem name_ne_of_undeclared {attributes : List Attribute} {type name : String}
    {entries : Entries AttributeType}
    (h : List.Forall₂ (fun entry a => resolve schema type entry = .ok a) entries attributes)
    (hnone : entries.find? name = none) : ∀ a ∈ attributes, a.name ≠ name := by
  have hrel := rel_resolved h name
  rw [hnone] at hrel
  cases hfind : attributes.find? fun a => a.name = name with
  | none => simpa using hfind
  | some a =>
    rw [hfind] at hrel
    cases hrel

end Places

end Registry

/-! ## A registry to calculate with

The theorems about runs are for every compiled registry; this one is for the runs that show that
their hypotheses can be met. -/

/-- Policies with a default rule and a list of rules, and rules with a title. -/
def sampleSchema : Schema :=
  .ofList [
    ("Policy", .record (.ofList [("default", .scalar "Rule"), ("rules", .list "Rule")])),
    ("Rule", .record (.ofList [("title", .scalar "Text")])),
    ("Text", .primitive "String")]

/-- A kind of `sampleRegistry`. -/
def sampleKind (id : Nat) (name : String) (primitive? : Option String)
    (attributes : List Attribute) : Kind :=
  ⟨id, name, primitive?, attributes, .ofAttributes (.ofSettings .default) true attributes⟩

/-- What `sampleSchema` compiles to under the default settings. -/
def sampleRegistry : Registry where
  serial := 0
  label? := none
  kinds := [
    sampleKind 0 "Policy" none [⟨"default", false, 1⟩, ⟨"rules", true, 1⟩],
    sampleKind 1 "Rule" none [⟨"title", false, 2⟩],
    sampleKind 2 "Text" (some "String") []]
  fingerprint := Schema.checksum sampleSchema

namespace Registry

theorem resolve_of_idxOf? {schema : Schema} {type name : String} {shape : AttributeType}
    {target : Nat} (h : schema.keys.idxOf? shape.typeName = some target) :
    resolve schema type (name, shape) = .ok ⟨name, shape.isList, target⟩ :=
  resolve_eq_ok_iff.2 ⟨rfl, rfl, h⟩

theorem compile_sample :
    compile sampleSchema .default none 0 = .ok sampleRegistry := by
  refine compile_eq_ok_iff.2 ⟨?_, rfl, rfl, rfl⟩
  -- only the references are looked up: tables and checksum are the same terms on both sides
  refine .cons (compileKind_eq_ok_iff.2 ⟨?_, rfl, rfl, rfl, rfl⟩) (.cons
    (compileKind_eq_ok_iff.2 ⟨?_, rfl, rfl, rfl, rfl⟩) (.cons
      (compileKind_eq_ok_iff.2 ⟨?_, rfl, rfl, rfl, rfl⟩) .nil))
  · exact .cons (resolve_of_idxOf? (by decide)) (.cons (resolve_of_idxOf? (by decide)) .nil)
  · exact .cons (resolve_of_idxOf? (by decide)) .nil
  · exact .nil

theorem compiled_sample : sampleRegistry.Compiled := ⟨_, _, _, _, compile_sample⟩

/-- Attributes of the sample are called by their names. -/
theorem accessor?_sample (id : Nat) (a : Attribute) (hid : id < sampleRegistry.size)
    (ha : a ∈ (sampleRegistry.kind id).attributes) (hname : a.name ≠ "") :
    (sampleRegistry.kind id).accessor? a.name = some a :=
  (compiled_sample.kind_sound hid).2.accessor?_declared ha hname

theorem accessor?_rules : (sampleRegistry.kind 0).accessor? "rules" = some ⟨"rules", true, 1⟩ :=
  accessor?_sample 0 ⟨"rules", true, 1⟩ (by decide) (.tail _ (.head _)) (by decide)

/-- A list of the sample is also called by its singular. -/
theorem accessor?_rule : (sampleRegistry.kind 0).accessor? "rule" = some ⟨"rules", true, 1⟩ := by
  show (AccessorTable.ofAttributes _ _ _).find? _ = _
  rw [AccessorTable.find?_ofAttributes]
  decide +kernel

theorem accessor?_default :
    (sampleRegistry.kind 0).accessor? "default" = some ⟨"default", false, 1⟩ :=
  accessor?_sample 0 ⟨"default", false, 1⟩ (by decide) (.head _) (by decide)

theorem accessor?_title : (sampleRegistry.kind 1).accessor? "title" = some ⟨"title", false, 2⟩ :=
  accessor?_sample 1 ⟨"title", false, 2⟩ (by decide) (.head _) (by decide)

end Registry

end SchemaNodes
