import SchemaNodes.Proofs.Registry.Compiled

/-!
# Schemas with further types

What becomes of a type when its schema is compiled with further types around it. Ids are positions
in name order, so every kind may move, and every reference to it with it; but a kind is found by its
name, a reference names a type, and a table is made from names and shapes. Under their names the
kinds therefore stay as they were.

* **`ofAttributes_matches`**: a name leads to the same attribute, if attributes differ in their
  targets only.
* **`Registry.ExtendedBy.kind_matches`**: the kinds of one name, before and after.
* **`Registry.ExtendedBy.id_iff`**: the renumbering is one to one.
-/

namespace SchemaNodes

/-! ## Attributes up to their targets -/

/-- Attributes of one name and shape whose targets stand for one another. -/
structure Attribute.Matches (kinds : Registry → Nat → Registry → Nat → Prop)
    (registry registry' : Registry) (a a' : Attribute) : Prop where
  name_eq : a'.name = a.name
  isList_eq : a'.isList = a.isList
  target : kinds registry a.target registry' a'.target

/-- Lists that are both made from one list, place by place. -/
theorem forall₂_of_common {α β γ : Type} {R : α → β → Prop} {S : α → γ → Prop} {T : β → γ → Prop}
    (h : ∀ {x y z}, R x y → S x z → T y z) {xs : List α} {ys : List β} {zs : List γ}
    (hys : List.Forall₂ R xs ys) (hzs : List.Forall₂ S xs zs) : List.Forall₂ T ys zs := by
  induction hys generalizing zs with
  | nil =>
    cases hzs
    exact .nil
  | cons hxy _ ih =>
    cases hzs with
    | cons hxz hrest => exact .cons (h hxy hxz) (ih hrest)

theorem rel_find? {α β : Type} {R : α → β → Prop} {p : α → Bool} {q : β → Bool} {xs : List α}
    {ys : List β} (h : List.Forall₂ R xs ys) (hpq : ∀ {x y}, R x y → q y = p x) :
    Option.Rel R (xs.find? p) (ys.find? q) := by
  induction h with
  | nil => exact .none
  | @cons x y _ _ hxy _ ih =>
    rw [List.find?_cons, List.find?_cons, hpq hxy]
    cases p x with
    | true => exact .some hxy
    | false => exact ih

theorem rel_findSome? {α β γ : Type} {R : α → β → Prop} {f : γ → Option α} {g : γ → Option β}
    (h : ∀ c, Option.Rel R (f c) (g c)) (cs : List γ) :
    Option.Rel R (cs.findSome? f) (cs.findSome? g) := by
  induction cs with
  | nil => exact .none
  | cons c rest ih =>
    rw [List.findSome?_cons, List.findSome?_cons]
    match f c, g c, h c with
    | _, _, .none => exact ih
    | _, _, .some hxy => exact .some hxy

section Tables

variable {kinds : Registry → Nat → Registry → Nat → Prop} {registry registry' : Registry}
  {attributes attributes' : List Attribute}

/-- What a name is claimed for does not depend on targets. -/
theorem Attribute.Matches.claims_iff {a a' : Attribute} (h : a.Matches kinds registry registry' a')
    {inflector : Naming.Inflector} {caseAliases : Bool} {name : String} {rank : Naming.NameRank} :
    a'.Claims inflector caseAliases name rank ↔ a.Claims inflector caseAliases name rank := by
  unfold Claims
  rw [h.name_eq, h.isList_eq]

/-- A name leads to attributes that match: reason by reason, the search stops at the same place. -/
theorem ofAttributes_matches
    (h : List.Forall₂ (Attribute.Matches kinds registry registry') attributes attributes')
    (inflector : Naming.Inflector) (caseAliases : Bool) (name : String) :
    Option.Rel (Attribute.Matches kinds registry registry')
      ((AccessorTable.ofAttributes inflector caseAliases attributes).find? name)
      ((AccessorTable.ofAttributes inflector caseAliases attributes').find? name) := by
  rw [AccessorTable.find?_ofAttributes, AccessorTable.find?_ofAttributes]
  refine rel_findSome? (fun rank => ?_) _
  exact rel_find? h fun hmatch => decide_eq_decide.2 hmatch.claims_iff

end Tables

/-- Dictionaries that lead the same names somewhere have the same keys. -/
theorem Dict.keys_eq_of_rel {α β : Type} {R : α → β → Prop} {dict : Dict α} {dict' : Dict β}
    (h : ∀ name, Option.Rel R (dict.find? name) (dict'.find? name)) : dict'.keys = dict.keys := by
  have hmem : ∀ name, name ∈ dict'.keys ↔ name ∈ dict.keys := by
    intro name
    rw [mem_keys_iff, mem_keys_iff]
    match dict.find? name, dict'.find? name, h name with
    | _, _, .none => simp
    | _, _, .some _ => simp
  have hperm : dict'.keys.Perm dict.keys :=
    (List.perm_ext_iff_of_nodup dict'.sorted.nodup_keys dict.sorted.nodup_keys).2 hmem
  refine hperm.eq_of_pairwise (fun name other _ _ hlt hgt => ?_)
    (List.pairwise_map.2 dict'.sorted) (List.pairwise_map.2 dict.sorted)
  exact absurd (String.lt_trans hlt hgt) (String.lt_irrefl name)

/-! ## Further types -/

/-- Every type is a type of the other schema, with the same definition. -/
def Schema.ExtendedBy (schema schema' : Schema) : Prop :=
  ∀ type definition, schema.find? type = some definition → schema'.find? type = some definition

namespace Registry

/-- The kinds of two registries that have one name. -/
structure Namesakes (registry : Registry) (id : Nat) (registry' : Registry) (id' : Nat) : Prop where
  lt : id < registry.size
  lt' : id' < registry'.size
  name_eq : (registry'.kind id').name = (registry.kind id).name

end Registry

open Registry in
/-- Two kinds are the same but for the ids that tell where they and the targets of their attributes
stand. -/
structure Kind.Matches (registry registry' : Registry) (kind kind' : Kind) : Prop where
  name_eq : kind'.name = kind.name
  primitive?_eq : kind'.primitive? = kind.primitive?
  attributes : List.Forall₂ (Attribute.Matches Namesakes registry registry') kind.attributes
    kind'.attributes
  /-- They are called by the same names, -/
  names_eq : kind'.accessors.keys = kind.accessors.keys
  /-- and these lead to the same attributes. -/
  accessor : ∀ name, Option.Rel (Attribute.Matches Namesakes registry registry')
    (kind.accessor? name) (kind'.accessor? name)

namespace Registry

/-- The other registry was compiled under the same naming settings from a schema with further types,
or with none. -/
def ExtendedBy (registry registry' : Registry) : Prop :=
  ∃ schema schema' naming label? label?' serial serial',
    compile schema naming label? serial = .ok registry ∧
      compile schema' naming label?' serial' = .ok registry' ∧ schema.ExtendedBy schema'

/-- One reference, resolved in either registry. -/
theorem matches_of_resolve {schema schema' : Schema} {naming : NamingSettings}
    {label? label?' : Option String} {serial serial' : Nat} {registry registry' : Registry}
    (h : compile schema naming label? serial = .ok registry)
    (h' : compile schema' naming label?' serial' = .ok registry') {type type' : String}
    {entry : String × AttributeType} {a a' : Attribute}
    (hresolve : resolve schema type entry = .ok a)
    (hresolve' : resolve schema' type' entry = .ok a') :
    a.Matches Namesakes registry registry' a' := by
  obtain ⟨hname, hlist, -⟩ := resolve_eq_ok_iff.1 hresolve
  obtain ⟨hname', hlist', -⟩ := resolve_eq_ok_iff.1 hresolve'
  obtain ⟨hlt, htarget⟩ := target_of_resolve h hresolve
  obtain ⟨hlt', htarget'⟩ := target_of_resolve h' hresolve'
  exact ⟨hname'.trans hname.symm, hlist'.trans hlist.symm, hlt, hlt', htarget'.trans htarget.symm⟩

namespace ExtendedBy

variable {registry registry' : Registry}

theorem compiled (h : registry.ExtendedBy registry') : registry.Compiled := by
  obtain ⟨_, _, _, _, _, _, _, hcompile, -, -⟩ := h
  exact ⟨_, _, _, _, hcompile⟩

theorem compiled' (h : registry.ExtendedBy registry') : registry'.Compiled := by
  obtain ⟨_, _, _, _, _, _, _, -, hcompile, -⟩ := h
  exact ⟨_, _, _, _, hcompile⟩

/-- A registry has further types, or none, beside its own. -/
theorem refl (h : registry.Compiled) : registry.ExtendedBy registry := by
  obtain ⟨schema, naming, label?, serial, hcompile⟩ := h
  exact ⟨schema, schema, naming, label?, label?, serial, serial, hcompile, hcompile,
    fun _ _ hfind => hfind⟩

/-- Every kind is there under its name. -/
theorem exists_namesake (h : registry.ExtendedBy registry') {id : Nat} (hid : id < registry.size) :
    ∃ id', Namesakes registry id registry' id' := by
  obtain ⟨schema, schema', naming, _, _, _, _, hcompile, hcompile', hextends⟩ := h
  obtain ⟨definition, hfind, -⟩ := definition_of_kind hcompile hid
  obtain ⟨id', hid', hname⟩ := exists_kind_of_find? hcompile' (hextends _ _ hfind)
  exact ⟨id', hid, hid', hname⟩

/-- Under their names, ids stand for one another one to one. -/
theorem id_iff (h : registry.ExtendedBy registry') {id other id' other' : Nat}
    (hid : Namesakes registry id registry' id')
    (hother : Namesakes registry other registry' other') : other' = id' ↔ other = id := by
  constructor
  · rintro rfl
    exact h.compiled.id_eq_of_name_eq hother.lt hid.lt (hother.name_eq.symm.trans hid.name_eq)
  · rintro rfl
    exact h.compiled'.id_eq_of_name_eq hother.lt' hid.lt' (hother.name_eq.trans hid.name_eq.symm)

/-- Kinds of one name match. -/
theorem kind_matches (h : registry.ExtendedBy registry') {id id' : Nat}
    (hkinds : Namesakes registry id registry' id') :
    (registry.kind id).Matches registry registry' (registry'.kind id') := by
  obtain ⟨schema, schema', naming, _, _, _, _, hcompile, hcompile', hextends⟩ := h
  obtain ⟨definition, hfind, hkind⟩ := definition_of_kind hcompile hkinds.lt
  obtain ⟨definition', hfind', hkind'⟩ := definition_of_kind hcompile' hkinds.lt'
  -- both kinds come from the definition of the one type that they are named after
  have hsame : definition' = definition := by
    rw [hkinds.name_eq, hextends _ _ hfind] at hfind'
    exact (Option.some.inj hfind').symm
  subst hsame
  obtain ⟨hattributes, -, -, hprimitive, haccessors⟩ := compileKind_eq_ok_iff.1 hkind
  obtain ⟨hattributes', -, -, hprimitive', haccessors'⟩ := compileKind_eq_ok_iff.1 hkind'
  have hmatches : List.Forall₂ (Attribute.Matches Namesakes registry registry')
      (registry.kind id).attributes (registry'.kind id').attributes := by
    refine forall₂_of_common ?_ hattributes hattributes'
    intro entry a a' hresolve hresolve'
    exact matches_of_resolve hcompile hcompile' hresolve hresolve'
  have haccessor : ∀ name, Option.Rel (Attribute.Matches Namesakes registry registry')
      ((registry.kind id).accessor? name) ((registry'.kind id').accessor? name) := by
    intro name
    rw [Kind.accessor?, Kind.accessor?, haccessors, haccessors']
    exact ofAttributes_matches hmatches _ _ name
  exact ⟨hkinds.name_eq, hprimitive'.trans hprimitive.symm, hmatches,
    Dict.keys_eq_of_rel haccessor, haccessor⟩

end ExtendedBy

end Registry

/-! ## One more type

`Draft` comes before all types of `sampleSchema`, so that every id changes. -/

theorem Schema.extendedBy_insert {schema : Schema} {type : String}
    (hnew : schema.find? type = none) (definition : TypeDefinition) :
    schema.ExtendedBy (schema.insert type definition) := by
  intro other old hfind
  rw [Dict.find?_insert, if_neg, hfind]
  rintro rfl
  exact absurd (hnew.symm.trans hfind) (by simp)

/-- `sampleSchema` with drafts of policies. -/
def draftSchema : Schema :=
  sampleSchema.insert "Draft" (.record (.ofList [("policy", .scalar "Policy")]))

/-- What `draftSchema` compiles to under the default settings. -/
def draftRegistry : Registry where
  serial := 1
  label? := none
  kinds := [
    sampleKind 0 "Draft" none [⟨"policy", false, 1⟩],
    sampleKind 1 "Policy" none [⟨"default", false, 2⟩, ⟨"rules", true, 2⟩],
    sampleKind 2 "Rule" none [⟨"title", false, 3⟩],
    sampleKind 3 "Text" (some "String") []]
  fingerprint := Schema.checksum draftSchema

theorem extendedBy_draft : sampleSchema.ExtendedBy draftSchema :=
  Schema.extendedBy_insert (by decide) _

namespace Registry

theorem compile_draft : compile draftSchema .default none 1 = .ok draftRegistry := by
  refine compile_eq_ok_iff.2 ⟨?_, rfl, rfl, rfl⟩
  refine .cons (compileKind_eq_ok_iff.2 ⟨?_, rfl, rfl, rfl, rfl⟩) (.cons
    (compileKind_eq_ok_iff.2 ⟨?_, rfl, rfl, rfl, rfl⟩) (.cons
      (compileKind_eq_ok_iff.2 ⟨?_, rfl, rfl, rfl, rfl⟩) (.cons
        (compileKind_eq_ok_iff.2 ⟨?_, rfl, rfl, rfl, rfl⟩) .nil)))
  · exact .cons (resolve_of_idxOf? (by decide)) .nil
  · exact .cons (resolve_of_idxOf? (by decide)) (.cons (resolve_of_idxOf? (by decide)) .nil)
  · exact .cons (resolve_of_idxOf? (by decide)) .nil
  · exact .nil

end Registry

end SchemaNodes
