import SchemaNodes.Lint.Basic
import SchemaNodes.Proofs.Registry.Reference

/-!
# Warnings about unknown types

The lint pass and the compiler go over the same references, one to report all that lead nowhere and
the other to stop at the first. This module says where in a document types are used, lists the uses
in the order of their places, and reads both passes off that list.

* **`Document.mem_uses_iff`**, **`Document.pairwise_uses`**: the list holds the use in every place
  and is in the order of the places, so it is determined by the document.
* **`Document.unknownTypes_lint`**: the warnings about unknown types are the undeclared uses.
* **`Document.lint_agrees_with_compile`**: what the warnings say about compiling the types.
-/

namespace SchemaNodes

/-! ## Places -/

/-- A place of a document where a type is used: a position in a use by a resource, or an attribute of
a type. -/
inductive Place where
  | inResource (resource part name : String) (position : Nat)
  | inType (type attr : String)
  deriving DecidableEq, Repr

namespace Place

/-- The path under which a place is reported. The positions in one use share it. -/
def path : Place → String
  | .inResource resource part name _ => s!"Resources.{resource}.{part}.{name}"
  | .inType type attr => s!"Types.{type}.{attr}"

/-- One place comes before another: resources before types, and each by its names in turn. -/
def Precedes : Place → Place → Prop
  | .inResource r s n i, .inResource r' s' n' i' =>
    r < r' ∨ r = r' ∧ (s < s' ∨ s = s' ∧ (n < n' ∨ n = n' ∧ i < i'))
  | .inResource .., .inType .. => True
  | .inType .., .inResource .. => False
  | .inType t a, .inType t' a' => t < t' ∨ t = t' ∧ a < a'

theorem startsWith_path_inType (type attr : String) :
    (path (.inType type attr)).startsWith "Types." = true := by
  rw [String.startsWith_string_iff]
  refine ⟨(type ++ "." ++ attr).toList, ?_⟩
  simp [path, toString, String.toList_append]

/-- No path is both under resources and under types. -/
theorem not_startsWith_types {path : String} (h : path.startsWith "Resources." = true) :
    ¬ path.startsWith "Types." = true := by
  intro htypes
  rw [String.startsWith_string_iff] at h htypes
  have hstart := List.prefix_of_prefix_length_le htypes h (by decide)
  exact absurd hstart (by decide)

theorem startsWith_path_inResource (resource part name : String) (position : Nat) :
    (path (.inResource resource part name position)).startsWith "Resources." = true := by
  rw [String.startsWith_string_iff]
  refine ⟨(resource ++ "." ++ part ++ "." ++ name).toList, ?_⟩
  simp [path, toString, String.toList_append]

end Place

/-- The type in a position of a use: a single type is in the first, and a list has one in each. -/
def ResourceUse.typeAt? : ResourceUse → Nat → Option String
  | .single type, 0 => some type
  | .single _, _ + 1 => none
  | .list types, position => types[position]?

theorem ResourceUse.getElem?_typeNames (use : ResourceUse) (position : Nat) :
    use.typeNames[position]? = use.typeAt? position := by
  cases use with
  | single type =>
    cases position with
    | zero => rfl
    | succ _ => rfl
  | list types => rfl

/-- The type under the name of an attribute: that of its value, or of the elements of its list. -/
def TypeDefinition.typeAt? (attr : String) : TypeDefinition → Option String
  | .primitive _ => none
  | .record attributes =>
    match attributes.find? attr with
    | some (.scalar type) => some type
    | some (.list element) => some element
    | none => none

theorem TypeDefinition.typeAt?_eq_some_iff {definition : TypeDefinition} {attr type : String} :
    definition.typeAt? attr = some type ↔
      ∃ shape, definition.attributes.find? attr = some shape ∧ shape.typeName = type := by
  cases definition with
  | primitive name => simp [typeAt?, attributes]
  | record entries =>
    cases hshape : entries.entries.find? attr with
    | none => simp [typeAt?, attributes, Dict.find?, hshape]
    | some shape =>
      cases shape with
      | scalar type => simp [typeAt?, attributes, Dict.find?, hshape, AttributeType.typeName]
      | list element => simp [typeAt?, attributes, Dict.find?, hshape, AttributeType.typeName]

namespace Document

open Place

/-- The type that is used in a place, if the document has such a place. -/
def typeAt? (document : Document) : Place → Option String
  | .inResource resource part name position =>
    (document.resources.find? resource).bind fun sections =>
      (sections.find? part).bind fun uses =>
        (uses.find? name).bind fun use => use.typeAt? position
  | .inType type attr => (document.types.find? type).bind fun definition => definition.typeAt? attr

/-! ## The uses in order -/

/-- The uses by resources. -/
def resourceUses (document : Document) : List (Place × String) :=
  document.resources.entries.flatMap fun (resource, sections) =>
    sections.entries.flatMap fun (part, uses) =>
      uses.entries.flatMap fun (name, use) =>
        use.typeNames.zipIdx.map fun (type, i) => (.inResource resource part name i, type)

/-- The uses by attributes of types. -/
def typeUses (document : Document) : List (Place × String) :=
  document.types.references.map fun r => (.inType r.type r.attr, r.target)

/-- All uses, in the order of their places. -/
def uses (document : Document) : List (Place × String) :=
  document.resourceUses ++ document.typeUses

theorem mem_resourceUses_iff {document : Document} {place : Place} {type : String} :
    (place, type) ∈ document.resourceUses ↔
      ∃ resource part name position, place = .inResource resource part name position ∧
        document.typeAt? place = some type := by
  simp only [resourceUses, List.mem_flatMap, List.mem_map, Prod.exists]
  constructor
  · rintro ⟨resource, sections, hresource, part, uses, hpart, name, use, hname, type', i, hi, heq⟩
    obtain ⟨rfl, rfl⟩ := Prod.mk.inj heq
    refine ⟨resource, part, name, i, rfl, ?_⟩
    rw [typeAt?, Dict.mem_entries_iff.1 hresource, Option.bind_some, Dict.mem_entries_iff.1 hpart,
      Option.bind_some, Dict.mem_entries_iff.1 hname, Option.bind_some,
      ← ResourceUse.getElem?_typeNames]
    exact List.mem_zipIdx_iff_getElem?.1 hi
  · rintro ⟨resource, part, name, position, rfl, htype⟩
    simp only [typeAt?, Option.bind_eq_some_iff] at htype
    obtain ⟨sections, hresource, uses, hpart, use, hname, hi⟩ := htype
    rw [← ResourceUse.getElem?_typeNames] at hi
    exact ⟨resource, sections, Dict.mem_entries_iff.2 hresource, part, uses,
      Dict.mem_entries_iff.2 hpart, name, use, Dict.mem_entries_iff.2 hname, type, position,
      List.mem_zipIdx_iff_getElem?.2 hi, rfl⟩

theorem mem_typeUses_iff {document : Document} {place : Place} {type : String} :
    (place, type) ∈ document.typeUses ↔
      ∃ owner attr, place = .inType owner attr ∧ document.typeAt? place = some type := by
  rw [typeUses, List.mem_map]
  constructor
  · rintro ⟨r, hr, heq⟩
    obtain ⟨rfl, rfl⟩ := Prod.mk.inj heq
    obtain ⟨definition, shape, htype, hattr, htarget⟩ := Schema.mem_references_iff.1 hr
    refine ⟨r.type, r.attr, rfl, ?_⟩
    rw [typeAt?, htype, Option.bind_some]
    exact TypeDefinition.typeAt?_eq_some_iff.2 ⟨shape, hattr, htarget⟩
  · rintro ⟨owner, attr, rfl, htype⟩
    obtain ⟨definition, hdefinition, hattr⟩ := Option.bind_eq_some_iff.1 htype
    obtain ⟨shape, hshape, htarget⟩ := TypeDefinition.typeAt?_eq_some_iff.1 hattr
    exact ⟨⟨owner, attr, type⟩,
      Schema.mem_references_iff.2 ⟨definition, shape, hdefinition, hshape, htarget⟩, rfl⟩

theorem mem_uses_iff {document : Document} {place : Place} {type : String} :
    (place, type) ∈ document.uses ↔ document.typeAt? place = some type := by
  rw [uses, List.mem_append, mem_resourceUses_iff, mem_typeUses_iff]
  constructor
  · rintro (⟨_, _, _, _, -, htype⟩ | ⟨_, _, -, htype⟩)
    · exact htype
    · exact htype
  · intro htype
    cases place with
    | inResource resource part name position =>
      exact .inl ⟨resource, part, name, position, rfl, htype⟩
    | inType owner attr => exact .inr ⟨owner, attr, rfl, htype⟩

theorem pairwise_resourceUses (document : Document) :
    document.resourceUses.Pairwise fun u v => u.1.Precedes v.1 := by
  refine document.resources.sorted.pairwise_flatMap ?_ ?_
  · rintro ⟨resource, sections⟩ -
    refine sections.sorted.pairwise_flatMap ?_ ?_
    · rintro ⟨part, uses⟩ -
      refine uses.sorted.pairwise_flatMap ?_ ?_
      · rintro ⟨name, use⟩ -
        have hpositions : use.typeNames.zipIdx.Pairwise fun x y => x.2 < y.2 := by
          rw [← List.pairwise_map (f := Prod.snd) (R := (· < ·)), List.zipIdx_map_snd]
          exact List.pairwise_lt_range'
        refine List.pairwise_map.2 (hpositions.imp fun hlt => ?_)
        exact .inr ⟨rfl, .inr ⟨rfl, .inr ⟨rfl, hlt⟩⟩⟩
      · rintro ⟨name, use⟩ ⟨name', use'⟩ hlt x hx y hy
        obtain ⟨_, -, rfl⟩ := List.mem_map.1 hx
        obtain ⟨_, -, rfl⟩ := List.mem_map.1 hy
        exact .inr ⟨rfl, .inr ⟨rfl, .inl hlt⟩⟩
    · rintro ⟨part, uses⟩ ⟨part', uses'⟩ hlt x hx y hy
      obtain ⟨_, -, hx⟩ := List.mem_flatMap.1 hx
      obtain ⟨_, -, hy⟩ := List.mem_flatMap.1 hy
      obtain ⟨_, -, rfl⟩ := List.mem_map.1 hx
      obtain ⟨_, -, rfl⟩ := List.mem_map.1 hy
      exact .inr ⟨rfl, .inl hlt⟩
  · rintro ⟨resource, sections⟩ ⟨resource', sections'⟩ hlt x hx y hy
    obtain ⟨_, -, hx⟩ := List.mem_flatMap.1 hx
    obtain ⟨_, -, hy⟩ := List.mem_flatMap.1 hy
    obtain ⟨_, -, hx⟩ := List.mem_flatMap.1 hx
    obtain ⟨_, -, hy⟩ := List.mem_flatMap.1 hy
    obtain ⟨_, -, rfl⟩ := List.mem_map.1 hx
    obtain ⟨_, -, rfl⟩ := List.mem_map.1 hy
    exact .inl hlt

theorem pairwise_uses (document : Document) :
    document.uses.Pairwise fun u v => u.1.Precedes v.1 := by
  have htypes : document.typeUses.Pairwise fun u v => u.1.Precedes v.1 :=
    List.pairwise_map.2 (Schema.pairwise_references document.types)
  refine List.pairwise_append.2 ⟨pairwise_resourceUses document, htypes, ?_⟩
  rintro ⟨place, type⟩ hu ⟨place', type'⟩ hv
  obtain ⟨_, _, _, _, rfl, -⟩ := mem_resourceUses_iff.1 hu
  obtain ⟨_, _, rfl, -⟩ := mem_typeUses_iff.1 hv
  trivial

/-! ## The warnings are the undeclared uses -/

/-- The use is of a type that is not declared. -/
def undeclared (document : Document) (u : Place × String) : Bool := !document.types.contains u.2

/-- The warning about a use. -/
def useWarning (u : Place × String) : LintWarning := ⟨u.1.path, .unknownType u.2⟩

theorem withCode_lintUses (document : Document) (path : String) (types : List String) :
    (document.lintUses path types).filter (fun w => w.finding.code = .unknownType) =
      document.lintUses path types := by
  refine List.filter_eq_self.2 fun w hw => ?_
  obtain ⟨type, -, rfl⟩ := List.mem_map.1 hw
  rfl

theorem withCode_lintAlias (inflector : Naming.Inflector) (attributes : Entries AttributeType)
    (path : String) (attr : String × AttributeType) :
    (lintAlias inflector attributes path attr).filter (fun w => w.finding.code = .unknownType) =
      [] := by
  simp only [lintAlias]
  split
  · rfl
  · rfl

theorem lintUses_resource (document : Document) (resource part name : String)
    (types : List String) :
    document.lintUses (s!"Resources.{resource}.{part}.{name}") types =
      ((types.zipIdx.map fun (type, i) => (Place.inResource resource part name i, type)).filter
        document.undeclared).map useWarning := by
  rw [List.filter_map, List.map_map, lintUses]
  conv_lhs => rw [← List.zipIdx_map_fst 0 types, List.filter_map, List.map_map]
  rfl

theorem lintResources_eq (document : Document) :
    document.lintResources = (document.resourceUses.filter document.undeclared).map useWarning := by
  simp only [lintResources, resourceUses, List.filter_flatMap, List.map_flatMap, lintUses_resource]

theorem withCode_lintTypes (inflector : Naming.Inflector) (document : Document) :
    (lintTypes inflector document).filter (fun w => w.finding.code = .unknownType) =
      (document.typeUses.filter document.undeclared).map useWarning := by
  have hattributes : ∀ (type : String) (attributes : Entries AttributeType),
      attributes.flatMap (fun attr =>
        document.lintUses (s!"Types.{type}.{attr.1}") [attr.2.typeName]) =
          ((attributes.map fun attr => (Place.inType type attr.1, attr.2.typeName)).filter
            document.undeclared).map useWarning := by
    intro type attributes
    induction attributes with
    | nil => rfl
    | cons attr rest ih =>
      rw [List.flatMap_cons, ih, List.map_cons, List.filter_cons]
      cases hdeclared : document.types.contains attr.2.typeName with
      | true => simp [lintUses, undeclared, hdeclared]
      | false => simp [lintUses, undeclared, hdeclared, useWarning, Place.path]
  simp only [lintTypes, typeUses, Schema.references, List.filter_flatMap, List.filter_append,
    withCode_lintUses, withCode_lintAlias, List.append_nil, List.map_flatMap, List.map_map,
    hattributes]
  rfl

/-- The warnings about unknown types are the undeclared uses, one for each and in their order. -/
theorem unknownTypes_lint (inflector : Naming.Inflector) (id : String) (document : Document) :
    (lint inflector id document).withCode .unknownType =
      (document.uses.filter document.undeclared).map useWarning := by
  have hresources : document.lintResources.filter (fun w => w.finding.code = .unknownType) =
      document.lintResources := by
    refine List.filter_eq_self.2 fun w hw => ?_
    rw [lintResources_eq] at hw
    obtain ⟨u, -, rfl⟩ := List.mem_map.1 hw
    rfl
  rw [LintResult.withCode, lint, List.filter_append, hresources, withCode_lintTypes,
    lintResources_eq, uses, List.filter_append, List.map_append]

/-! ## What they say about compiling -/

/-- The first warning about a type is about the reference with which compiling fails. -/
theorem find?_unknownTypes (inflector : Naming.Inflector) (id : String) (document : Document) :
    ((lint inflector id document).withCode .unknownType).find? (·.path.startsWith "Types.") =
      (document.types.references.find? fun r => !document.types.contains r.target).map fun r =>
        ⟨s!"Types.{r.type}.{r.attr}", .unknownType r.target⟩ := by
  have hresources : ((document.resourceUses.filter document.undeclared).map useWarning).find?
      (·.path.startsWith "Types.") = none := by
    refine List.find?_eq_none.2 fun w hw => ?_
    obtain ⟨⟨place, type⟩, hu, rfl⟩ := List.mem_map.1 hw
    obtain ⟨resource, part, name, position, rfl, -⟩ :=
      mem_resourceUses_iff.1 (List.mem_of_mem_filter hu)
    exact not_startsWith_types (startsWith_path_inResource resource part name position)
  rw [unknownTypes_lint, uses, List.filter_append, List.map_append, List.find?_append, hresources,
    Option.none_or, typeUses, List.filter_map, List.map_map, List.find?_map, List.find?_filter]
  -- every warning about a type is under a path of types, so the search stops at the first
  have hfirst : (document.types.references.find? fun r =>
      decide ((document.undeclared ∘ fun r => (Place.inType r.type r.attr, r.target)) r = true ∧
        ((fun w : LintWarning => w.path.startsWith "Types.") ∘ useWarning ∘ fun r =>
          (Place.inType r.type r.attr, r.target)) r = true)) =
        document.types.references.find? fun r => !document.types.contains r.target := by
    congr 1
    funext r
    simp [undeclared, useWarning, startsWith_path_inType]
  rw [hfirst]
  rfl

/-- **The lint pass and the compiler agree about unknown types.** For every document, every linter
and all naming settings: the warnings about unknown types are, in order, one for each place in which
a type is used that is not declared. The types fail to compile if and only if one of these warnings
is about a type, and then the first such warning is about the reference in the error. Undeclared
types in resources stand in the way of nothing. -/
theorem lint_agrees_with_compile (document : Document) (inflector : Naming.Inflector) (id : String)
    (naming : NamingSettings) (label? : Option String) (serial : Nat) :
    let warnings := (lint inflector id document).withCode .unknownType
    let result := Registry.compile document.types naming label? serial
    (∃ uses : List (Place × String),
      uses.Pairwise (fun u v => u.1.Precedes v.1) ∧
      (∀ place type, (place, type) ∈ uses ↔
        document.typeAt? place = some type ∧ type ∉ document.types.keys) ∧
      warnings = uses.map fun u => ⟨u.1.path, .unknownType u.2⟩) ∧
    ((∃ e, result = .error e) ↔ ∃ w ∈ warnings, w.path.startsWith "Types.") ∧
    (∀ e, result = .error e →
      ∃ type attr reference suggestion?,
        e = .unresolvedReference type attr reference suggestion? ∧
        ∃ w, warnings.find? (·.path.startsWith "Types.") = some w ∧
          w.path = s!"Types.{type}.{attr}" ∧ w.finding.message = s!"unknown type {reference}") ∧
    ((∀ w ∈ warnings, w.path.startsWith "Resources.") → ∃ registry, result = .ok registry) := by
  intro warnings result
  have hfirst : warnings.find? (·.path.startsWith "Types.") =
      (document.types.references.find? fun r => !document.types.contains r.target).map fun r =>
        ⟨s!"Types.{r.type}.{r.attr}", .unknownType r.target⟩ :=
    find?_unknownTypes inflector id document
  have hfails : (∃ e, result = .error e) ↔ ∃ w ∈ warnings, w.path.startsWith "Types." :=
    calc (∃ e, result = .error e)
        ↔ (failure? result).isSome := by
          simp only [Option.isSome_iff_exists, failure?_eq_some_iff]
      _ ↔ (document.types.references.find? fun r => !document.types.contains r.target).isSome := by
          rw [Registry.failure?_compile, Option.isSome_map]
      _ ↔ (warnings.find? (·.path.startsWith "Types.")).isSome := by
          rw [hfirst, Option.isSome_map]
      _ ↔ ∃ w ∈ warnings, w.path.startsWith "Types." := List.find?_isSome
  refine ⟨⟨document.uses.filter document.undeclared, ?_, ?_, ?_⟩, hfails, ?_, ?_⟩
  · exact (pairwise_uses document).filter _
  · intro place type
    rw [List.mem_filter, mem_uses_iff, ← Dict.contains_iff_mem_keys]
    simp [undeclared]
  · exact unknownTypes_lint inflector id document
  · intro e he
    rw [← failure?_eq_some_iff, Registry.failure?_compile, Option.map_eq_some_iff] at he
    obtain ⟨r, hr, rfl⟩ := he
    refine ⟨r.type, r.attr, r.target, _, rfl, ⟨s!"Types.{r.type}.{r.attr}", .unknownType r.target⟩,
      ?_, rfl, rfl⟩
    rw [hfirst, hr, Option.map_some]
  · intro hresources
    cases hresult : result with
    | ok registry => exact ⟨registry, rfl⟩
    | error e =>
      obtain ⟨w, hw, htypes⟩ := hfails.1 ⟨e, hresult⟩
      exact absurd htypes (not_startsWith_types (hresources w hw))

/-- A server with one network that is declared between two that are not, and a tag with a slip. -/
def serverDocument : Document where
  types := .ofList [
    ("String", .primitive "String"),
    ("Tag", .record (.ofList [("Key", .scalar "Strng"), ("Values", .list "String")]))]
  resources := .ofList [("Server", .ofList [("Properties", .ofList [
    ("Image", .single "String"), ("Networks", .list ["Network", "String", "Port"])])])]

/-- Two of the networks are reported, and the slip, with which compiling fails. -/
theorem lint_agrees_with_compile_server :
    let warnings := (lint .standard "server" serverDocument).withCode .unknownType
    warnings = [
      ⟨"Resources.Server.Properties.Networks", .unknownType "Network"⟩,
      ⟨"Resources.Server.Properties.Networks", .unknownType "Port"⟩,
      ⟨"Types.Tag.Key", .unknownType "Strng"⟩] ∧
    serverDocument.typeAt? (.inResource "Server" "Properties" "Networks" 2) = some "Port" ∧
    Registry.compile serverDocument.types .default none 0 =
      .error (.unresolvedReference "Tag" "Key" "Strng" (some "String")) ∧
    ∃ w, warnings.find? (·.path.startsWith "Types.") = some w ∧ w.path = "Types.Tag.Key" ∧
      w.finding.message = "unknown type Strng" := by
  intro warnings
  have hcompile : Registry.compile serverDocument.types .default none 0 =
      .error (.unresolvedReference "Tag" "Key" "Strng" (some "String")) := by
    rw [← failure?_eq_some_iff, Registry.failure?_compile]
    decide +kernel
  obtain ⟨-, -, hfirst, -⟩ :=
    lint_agrees_with_compile serverDocument .standard "server" .default none 0
  obtain ⟨type, attr, reference, suggestion?, he, w, hw, hpath, hmessage⟩ := hfirst _ hcompile
  cases he
  exact ⟨by decide +kernel, by decide, hcompile, w, hw, hpath, hmessage⟩

end Document

end SchemaNodes
