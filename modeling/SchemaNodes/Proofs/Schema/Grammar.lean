import SchemaNodes.Proofs.Chain
import SchemaNodes.Proofs.Json.Canonical
import SchemaNodes.Schema.Basic

/-!
# The grammar of schema documents

Which JSON values are documents, said without a reader: the types are an object of names and of
records, a record is an object of names and of lists of one name, and the resources are objects of
objects of objects of names and of lists of names. Everything else is refused at every level.

* **`Reads`**, **`reads_dict`**: a reader accepts what its grammar says and loses nothing of it; for
  objects this follows from their values.
* **`reads_types`**, **`reads_resources`**: the readers of the two parts.
* **`Document.exists_ofJson?_iff`**: a value is read if and only if it is a document.
* **`Document.toJson_of_ofJson?`**: what a document that was read is written as.
-/

namespace SchemaNodes

namespace Json

/-- An object whose every value satisfies the predicate. -/
def ObjectOf (p : Json → Prop) (v : Json) : Prop :=
  ∃ members, v = .object members ∧ ∀ member ∈ members, p member.2

/-- A type name, or an array of exactly one. -/
def IsAttributeType (v : Json) : Prop :=
  (∃ type, v = .string type) ∨ ∃ element, v = .array [.string element]

/-- The name of a primitive, or an object of attributes. -/
def IsTypeDefinition (v : Json) : Prop :=
  (∃ name, v = .string name) ∨ ObjectOf IsAttributeType v

/-- A type name, or an array of any number of type names. -/
def IsResourceUse (v : Json) : Prop :=
  (∃ type, v = .string type) ∨ ∃ types : List String, v = .array (types.map .string)

/-- An object of type definitions. -/
def IsTypes : Json → Prop := ObjectOf IsTypeDefinition

/-- An object of objects of objects of uses. -/
def IsResources : Json → Prop := ObjectOf (ObjectOf (ObjectOf IsResourceUse))

/-- The part of a document under a key, or at a place if the document is given as an array. -/
def part? (name : String) (place : Nat) : Json → Option Json
  | .object members => Entries.find? name members
  | .array items => items[place]?
  | _ => none

/-- The types of a document. -/
def types? : Json → Option Json := part? "Types" 0

/-- The resources of a document. -/
def resources? : Json → Option Json := part? "Resources" 1

/-- An object, or an array of at most two elements, whose parts are as they should be; a part may be
missing, and what stands under the other keys of the object is of no concern. -/
def IsDocument (v : Json) : Prop :=
  ((∃ members, v = .object members) ∨ ∃ items, v = .array items ∧ items.length ≤ 2) ∧
    (∀ types, v.types? = some types → types.IsTypes) ∧
    ∀ resources, v.resources? = some resources → resources.IsResources

/-- No key of the object itself is given twice. -/
def DistinctKeys : Json → Prop
  | .object members => (Entries.keys members).Nodup
  | _ => True

instance (v : Json) : Decidable v.DistinctKeys :=
  match v with
  | .object members => inferInstanceAs (Decidable (Entries.keys members).Nodup)
  | .null | .bool _ | .number _ | .string _ | .array _ => isTrue trivial

/-- The member of the resources, which is left out where there are none. -/
def resourcesMember : Option Json → List (String × Json)
  | none | some (.object []) => []
  | some resources => [("Resources", resources.canonical)]

/-- What a document is written as once it has been read: its types, or an empty object in their
place, and its resources if there are any, both in canonical form. -/
def documentForm (v : Json) : Json :=
  .object (("Types", (v.types?.getD (.object [])).canonical) :: resourcesMember v.resources?)

end Json

open Json

/-- The reader succeeds exactly on what the grammar accepts, and what it returns is written as the
canonical form of what was read. -/
structure Reads {α : Type} (read : Json → Option α) (form : α → Json) (accepted : Json → Prop) :
    Prop where
  exists_iff : ∀ v, (∃ a, read v = some a) ↔ accepted v
  form_eq : ∀ v a, read v = some a → form a = v.canonical

variable {α : Type} {read : Json → Option α} {form : α → Json} {accepted : Json → Prop}

/-! ## Objects -/

/-- The entry is what the member is read as, under the same key. -/
def ReadAs (read : Json → Option α) (member : String × Json) (entry : String × α) : Prop :=
  member.1 = entry.1 ∧ read member.2 = some entry.2

/-- An object is read member by member, and put together from what its members are read as. -/
theorem Dict.ofJson?_eq_some_iff {v : Json} {dict : Dict α} :
    Dict.ofJson? read v = some dict ↔
      ∃ members entries, v = .object members ∧ List.Forall₂ (ReadAs read) members entries ∧
        .ofList entries = dict := by
  cases v with
  | object members =>
    have hmember : ∀ (member : String × Json) (entry : String × α),
        (read member.2).map (fun a => (member.1, a)) = some entry ↔ ReadAs read member entry := by
      rintro member ⟨name, a⟩
      simp only [ReadAs, Option.map_eq_some_iff, Prod.mk.injEq]
      constructor
      · rintro ⟨b, hb, hname, rfl⟩
        exact ⟨hname, hb⟩
      · rintro ⟨hname, ha⟩
        exact ⟨a, ha, hname, rfl⟩
    simp [Dict.ofJson?, Option.map_eq_some_iff, mapM_eq_some_iff, hmember]
  | _ => simp [Dict.ofJson?]

theorem Dict.exists_ofJson?_iff {v : Json} :
    (∃ dict, Dict.ofJson? read v = some dict) ↔ ObjectOf (fun v => ∃ a, read v = some a) v := by
  cases v with
  | object members =>
    have hmembers : (∃ entries, (members.mapM fun member =>
        (read member.2).map fun a => (member.1, a)) = some entries) ↔
        ∀ member ∈ members, ∃ a, read member.2 = some a := by
      rw [exists_mapM_eq_some_iff]
      simp
    constructor
    · rintro ⟨dict, h⟩
      obtain ⟨entries, hentries, -⟩ := Option.map_eq_some_iff.1 h
      exact ⟨members, rfl, hmembers.1 ⟨entries, hentries⟩⟩
    · rintro ⟨members', heq, h⟩
      obtain rfl : members = members' := Json.object.inj heq
      obtain ⟨entries, hentries⟩ := hmembers.2 h
      exact ⟨.ofList entries, Option.map_eq_some_iff.2 ⟨entries, hentries, rfl⟩⟩
  | _ => simp [Dict.ofJson?, ObjectOf]

/-- Written values may be put together before or after they are written. -/
theorem Dict.toJson_ofList (form : α → Json) (entries : Entries α) :
    (Dict.ofList entries).toJson form =
      .object (Entries.insertAll (Entries.mapValues form entries) []) :=
  congrArg Json.object (Entries.mapValues_insertAll form entries [])

/-- A reader of objects is as good as its reader of values. -/
theorem reads_dict (h : Reads read form accepted) :
    Reads (Dict.ofJson? read) (·.toJson form) (ObjectOf accepted) where
  exists_iff v := by
    rw [Dict.exists_ofJson?_iff]
    simp only [ObjectOf, h.exists_iff]
  form_eq v dict hread := by
    obtain ⟨members, entries, rfl, hentries, rfl⟩ := Dict.ofJson?_eq_some_iff.1 hread
    have hforms : Entries.mapValues form entries = Entries.mapValues canonical members := by
      refine (map_eq_of_forall₂ hentries ?_).symm
      rintro member entry ⟨hname, hvalue⟩
      rw [hname, h.form_eq _ _ hvalue]
    rw [Dict.toJson_ofList, hforms, canonical_object]

/-! ## The two parts of a document -/

theorem reads_attributeType :
    Reads AttributeType.ofJson? AttributeType.toJson IsAttributeType where
  exists_iff v := by
    unfold AttributeType.ofJson? IsAttributeType
    split <;> simp_all
  form_eq v a h := by
    unfold AttributeType.ofJson? at h
    split at h
    · cases h
      rfl
    · cases h
      rfl
    · simp at h

theorem reads_typeDefinition :
    Reads TypeDefinition.ofJson? TypeDefinition.toJson IsTypeDefinition where
  exists_iff v := by
    have hrecord := (reads_dict reads_attributeType).exists_iff v
    unfold TypeDefinition.ofJson? IsTypeDefinition
    rw [← hrecord]
    split
    · simp
    · next hstring =>
      have hnot : ¬ ∃ name, v = .string name := fun ⟨name, h⟩ => hstring name h
      simp [hnot]
  form_eq v a h := by
    unfold TypeDefinition.ofJson? at h
    split at h
    · cases h
      rfl
    · obtain ⟨attributes, hattributes, rfl⟩ := Option.map_eq_some_iff.1 h
      exact (reads_dict reads_attributeType).form_eq _ _ hattributes

theorem asString?_eq_some_iff {v : Json} {text : String} :
    v.asString? = some text ↔ v = .string text := by
  cases v <;> simp [asString?]

theorem mapM_asString?_eq_some_iff {items : List Json} {texts : List String} :
    items.mapM asString? = some texts ↔ items = texts.map .string := by
  rw [mapM_eq_some_iff]
  simp only [asString?_eq_some_iff]
  rw [← List.forall₂_eq_eq_eq, List.forall₂_map_right_iff]

theorem reads_resourceUse : Reads ResourceUse.ofJson? ResourceUse.toJson IsResourceUse where
  exists_iff v := by
    cases v with
    | array items =>
      simp [ResourceUse.ofJson?, IsResourceUse, mapM_asString?_eq_some_iff]
    | _ => simp [ResourceUse.ofJson?, IsResourceUse]
  form_eq v a h := by
    unfold ResourceUse.ofJson? at h
    split at h
    · cases h
      rfl
    · next items =>
      obtain ⟨types, htypes, rfl⟩ := Option.map_eq_some_iff.1 h
      obtain rfl := mapM_asString?_eq_some_iff.1 htypes
      rw [ResourceUse.toJson, canonical, canonicalItems_eq_map]
      simp [canonical]
    · simp at h

theorem reads_types : Reads Schema.ofJson? Schema.toJson IsTypes := reads_dict reads_typeDefinition

theorem reads_resources : Reads Resources.ofJson? Resources.toJson IsResources :=
  reads_dict (reads_dict (reads_dict reads_resourceUse))

/-! ## Documents -/

namespace Document

theorem exists_part_iff {read : Json → Option (Dict α)} {form : Dict α → Json}
    (h : Reads read form accepted) (found : Option Json) :
    (∃ dict, part read found = some dict) ↔ ∀ v, found = some v → accepted v := by
  cases found with
  | none => simp [part]
  | some v => simpa [part] using h.exists_iff v

/-- A document is an object or a short array, and its parts are read each for itself. -/
theorem ofJson?_eq_some_iff {v : Json} {d : Document} :
    ofJson? v = some d ↔
      ((∃ members, v = .object members) ∨ ∃ items, v = .array items ∧ items.length ≤ 2) ∧
        part Schema.ofJson? v.types? = some d.types ∧
        part Resources.ofJson? v.resources? = some d.resources := by
  have hparts : ∀ types? resources? : Option Json,
      (do
        let types ← part Schema.ofJson? types?
        let resources ← part Resources.ofJson? resources?
        return ⟨types, resources⟩) = some d ↔
      part Schema.ofJson? types? = some d.types ∧
        part Resources.ofJson? resources? = some d.resources := by
    intro types? resources?
    obtain ⟨types, resources⟩ := d
    simp only [Option.bind_eq_bind, Option.bind_eq_some_iff, Option.pure_def, Option.some.injEq,
      Document.mk.injEq]
    constructor
    · rintro ⟨types', htypes, resources', hresources, rfl, rfl⟩
      exact ⟨htypes, hresources⟩
    · rintro ⟨htypes, hresources⟩
      exact ⟨types, htypes, resources, hresources, rfl, rfl⟩
  cases v with
  | object members =>
    rw [ofJson?, hparts]
    simp [types?, resources?, part?]
  | array items =>
    rw [ofJson?]
    split
    · next hshort =>
      rw [hparts]
      simp [types?, resources?, part?, hshort]
    · next hlong => simp [hlong]
  | _ => simp [ofJson?]

/-- A value is read if and only if it is a document. -/
theorem exists_ofJson?_iff (v : Json) : (∃ d, ofJson? v = some d) ↔ v.IsDocument := by
  have htypes := exists_part_iff reads_types v.types?
  have hresources := exists_part_iff reads_resources v.resources?
  rw [IsDocument, ← htypes, ← hresources]
  simp only [ofJson?_eq_some_iff]
  constructor
  · rintro ⟨d, hshape, htypes, hresources⟩
    exact ⟨hshape, ⟨_, htypes⟩, _, hresources⟩
  · rintro ⟨hshape, ⟨types, htypes⟩, resources, hresources⟩
    exact ⟨⟨types, resources⟩, hshape, htypes, hresources⟩

theorem toJson_types_of_part {found? : Option Json} {types : Schema}
    (h : part Schema.ofJson? found? = some types) :
    Schema.toJson types = (found?.getD (.object [])).canonical := by
  cases found? with
  | none =>
    rw [part, Option.some.injEq] at h
    rw [← h]
    rfl
  | some v => exact reads_types.form_eq _ _ h

theorem toJson_resources_of_part {found? : Option Json} {resources : Resources}
    (h : part Resources.ofJson? found? = some resources) :
    (if resources.isEmpty then [] else [("Resources", Resources.toJson resources)]) =
      resourcesMember found? := by
  cases found? with
  | none =>
    rw [part, Option.some.injEq] at h
    rw [← h]
    rfl
  | some v =>
    have hform := reads_resources.form_eq _ _ h
    obtain ⟨members, rfl, -⟩ := (reads_resources.exists_iff _).1 ⟨_, h⟩
    have hempty : resources.isEmpty = true ↔ members = [] := by
      have hentries := Json.object.inj (hform.trans (canonical_object members))
      rw [Dict.isEmpty, List.isEmpty_iff, ← List.map_eq_nil_iff, hentries,
        Entries.insertAll_eq_nil_iff, Entries.mapValues, List.map_eq_nil_iff]
    cases members with
    | nil => simp [hempty, resourcesMember]
    | cons member rest => simp [hempty, hform, resourcesMember]

/-- What a document is written as once it has been read. -/
theorem toJson_of_ofJson? {v : Json} {d : Document} (h : ofJson? v = some d) :
    d.toJson = v.documentForm := by
  obtain ⟨-, htypes, hresources⟩ := ofJson?_eq_some_iff.1 h
  rw [toJson, documentForm, toJson_types_of_part htypes, toJson_resources_of_part hresources]

end Document

end SchemaNodes
