import SchemaNodes.Lint.Basic
import SchemaNodes.Proofs.Registry.Compiled

/-!
# Warnings about shadowed aliases

The lint pass reports a list attribute when its singular is declared; the accessor table decides by
rank and place between all attributes that claim the name. The two agree that a reported singular is
out of reach, and what the lint pass passes over is told here exactly: a singular that is not
declared can still go to a case alias, or to an earlier list with the same singular.

* **`Document.warnsShadowed_iff`**: when an attribute is reported.
* **`AccessorTable.find?_singular`**: where the singular of a list leads if it is not declared.
* **`Document.shadowedAlias_compiled`**: the warning against the compiled table.
-/

namespace SchemaNodes

open Naming

/-! ## When an attribute is reported -/

namespace Document

/-- The lint pass reports the attribute of a type for its singular. Types and attributes may have
dots in their names, so the path alone does not tell the attribute. -/
def WarnsShadowed (inflector : Inflector) (id : String) (document : Document) (type attr : String) :
    Prop :=
  ∃ singular, ⟨s!"Types.{type}.{attr}", .shadowedAlias attr singular⟩ ∈
    (lint inflector id document).withCode .shadowedAlias

theorem shadowedAlias_not_mem_lintUses {document : Document} {path : String} {types : List String}
    (other attr singular : String) :
    ⟨other, .shadowedAlias attr singular⟩ ∉ document.lintUses path types := by
  intro h
  obtain ⟨type, -, heq⟩ := List.mem_map.1 h
  simp at heq

theorem mem_lintAlias_iff {inflector : Inflector} {attributes : Entries AttributeType}
    {path other attr singular : String} {entry : String × AttributeType} :
    ⟨other, .shadowedAlias attr singular⟩ ∈ lintAlias inflector attributes path entry ↔
      (entry.2.isList = true ∧ inflector.singularize entry.1 ≠ entry.1 ∧
        (attributes.find? (inflector.singularize entry.1)).isSome = true) ∧
          other = path ∧ attr = entry.1 ∧ singular = inflector.singularize entry.1 := by
  simp only [lintAlias]
  split
  · next hcond =>
    simp only [Bool.and_eq_true, decide_eq_true_eq] at hcond
    simp [hcond.1.1, hcond.1.2, hcond.2]
  · next hcond =>
    simp only [Bool.and_eq_true, decide_eq_true_eq] at hcond
    simp only [List.not_mem_nil, false_iff]
    rintro ⟨⟨hlist, hdiffers, hdeclared⟩, -⟩
    exact hcond ⟨⟨hlist, hdiffers⟩, hdeclared⟩

/-- What is reported about an attribute comes from the attribute of the type in the path. -/
theorem mem_shadowedAlias_iff {inflector : Inflector} {id : String} {document : Document}
    {type attr singular : String} :
    ⟨s!"Types.{type}.{attr}", .shadowedAlias attr singular⟩ ∈
        (lint inflector id document).withCode .shadowedAlias ↔
      ∃ definition shape, document.types.find? type = some definition ∧
        definition.attributes.find? attr = some shape ∧ shape.isList = true ∧
          singular = inflector.singularize attr ∧ singular ≠ attr ∧
            (definition.attributes.find? singular).isSome = true := by
  constructor
  · intro h
    obtain ⟨hmem, -⟩ := List.mem_filter.1 h
    rcases List.mem_append.1 hmem with hresources | htypes
    · -- about resources there are only warnings about unknown types
      simp only [lintResources, List.mem_flatMap] at hresources
      obtain ⟨_, _, _, _, _, _, huses⟩ := hresources
      exact absurd huses (shadowedAlias_not_mem_lintUses _ _ _)
    · obtain ⟨⟨type', definition⟩, hentry, hattributes⟩ := List.mem_flatMap.1 htypes
      obtain ⟨⟨attr', shape⟩, hattr, hw⟩ := List.mem_flatMap.1 hattributes
      rcases List.mem_append.1 hw with huses | halias
      · exact absurd huses (shadowedAlias_not_mem_lintUses _ _ _)
      · obtain ⟨hcond, hpath, rfl, rfl⟩ := mem_lintAlias_iff.1 halias
        obtain rfl : type = type' := by simpa [toString] using hpath
        exact ⟨definition, shape, Dict.mem_entries_iff.1 hentry,
          definition.attributes_sorted.find?_of_mem hattr, hcond.1, rfl, hcond.2⟩
  · rintro ⟨definition, shape, htype, hattr, hlist, rfl, hdiffers, hdeclared⟩
    refine List.mem_filter.2 ⟨List.mem_append_right _ ?_, rfl⟩
    refine List.mem_flatMap.2 ⟨(type, definition), Dict.mem_entries_iff.2 htype, ?_⟩
    refine List.mem_flatMap.2 ⟨(attr, shape), Entries.mem_of_find? hattr, ?_⟩
    exact List.mem_append_right _ (mem_lintAlias_iff.2 ⟨⟨hlist, hdiffers, hdeclared⟩, rfl, rfl, rfl⟩)

/-- A list attribute is reported if its singular is another name, and declared. -/
theorem warnsShadowed_iff {inflector : Inflector} {id : String} {document : Document}
    {type attr : String} {definition : TypeDefinition} {shape : AttributeType}
    (htype : document.types.find? type = some definition)
    (hattr : definition.attributes.find? attr = some shape) :
    WarnsShadowed inflector id document type attr ↔
      shape.isList = true ∧ inflector.singularize attr ≠ attr ∧
        (definition.attributes.find? (inflector.singularize attr)).isSome = true := by
  constructor
  · rintro ⟨singular, hw⟩
    obtain ⟨definition', shape', htype', hattr', hlist, rfl, hdiffers, hdeclared⟩ :=
      mem_shadowedAlias_iff.1 hw
    obtain rfl : definition = definition' := Option.some.inj (htype.symm.trans htype')
    obtain rfl : shape = shape' := Option.some.inj (hattr.symm.trans hattr')
    exact ⟨hlist, hdiffers, hdeclared⟩
  · rintro ⟨hlist, hdiffers, hdeclared⟩
    exact ⟨_, mem_shadowedAlias_iff.2
      ⟨definition, shape, htype, hattr, hlist, rfl, hdiffers, hdeclared⟩⟩

end Document

/-! ## Where a singular leads -/

/-- The attribute competes for the singular of a list: it has it as its case alias, or is a list
that has it as its singular. -/
def Attribute.Contends (inflector : Inflector) (caseAliases : Bool) (singular : String)
    (b : Attribute) : Prop :=
  caseAliases = true ∧ Text.swapFirstCase b.name = singular ∨
    b.isList = true ∧ inflector.singularize b.name = singular

namespace AccessorTable

variable {inflector : Inflector} {caseAliases : Bool} {attributes : List Attribute}

/-- A singular that is not declared leads to the first attribute that has it as its case alias, if
there is one, and otherwise to the first list that has it as its singular. -/
theorem find?_singular {a : Attribute} (ha : a ∈ attributes) (hlist : a.isList = true)
    (hname : inflector.singularize a.name ≠ "")
    (hundeclared : ∀ b ∈ attributes, b.name ≠ inflector.singularize a.name) :
    (ofAttributes inflector caseAliases attributes).find? (inflector.singularize a.name) =
      (attributes.find? fun b =>
        caseAliases && Text.swapFirstCase b.name = inflector.singularize a.name).or
        (attributes.find? fun b =>
          b.isList && inflector.singularize b.name = inflector.singularize a.name) := by
  have hexact : (attributes.find? fun b =>
      b.Claims inflector caseAliases (inflector.singularize a.name) .exact) = none := by
    refine List.find?_eq_none.2 fun b hb hclaim => hundeclared b hb ?_
    exact (of_decide_eq_true hclaim).2.symm
  have hcase : (attributes.find? fun b =>
      b.Claims inflector caseAliases (inflector.singularize a.name) .caseAlias) =
        attributes.find? fun b =>
          caseAliases && Text.swapFirstCase b.name = inflector.singularize a.name := by
    refine congrArg (attributes.find? ·) (funext fun b => ?_)
    rw [Bool.eq_iff_iff, decide_eq_true_eq, Bool.and_eq_true, decide_eq_true_eq]
    exact ⟨fun h => ⟨h.2.1, h.2.2.symm⟩, fun h => ⟨hname, h.1, h.2.symm⟩⟩
  have hsingular : (attributes.find? fun b =>
      b.Claims inflector caseAliases (inflector.singularize a.name) .singular) =
        attributes.find? fun b =>
          b.isList && inflector.singularize b.name = inflector.singularize a.name := by
    refine congrArg (attributes.find? ·) (funext fun b => ?_)
    rw [Bool.eq_iff_iff, decide_eq_true_eq, Bool.and_eq_true, decide_eq_true_eq]
    exact ⟨fun h => ⟨h.2.1, h.2.2.symm⟩, fun h => ⟨hname, h.1, h.2.symm⟩⟩
  -- the list itself is in the last search, so the one for swapped singulars is never reached
  have hfound : (attributes.find? fun b =>
      b.isList && inflector.singularize b.name = inflector.singularize a.name).isSome = true :=
    List.find?_isSome.2 ⟨a, ha, by simp [hlist]⟩
  obtain ⟨b, hb⟩ := Option.isSome_iff_exists.1 hfound
  rw [find?_ofAttributes]
  simp only [NameRank.all, List.findSome?_cons, hexact, hcase, hsingular, hb]
  cases attributes.find? fun b =>
    caseAliases && Text.swapFirstCase b.name = inflector.singularize a.name with
  | none => rfl
  | some c => rfl

/-- It leads to one of those that compete for it. -/
theorem exists_contender {a : Attribute} (ha : a ∈ attributes) (hlist : a.isList = true)
    (hname : inflector.singularize a.name ≠ "")
    (hundeclared : ∀ b ∈ attributes, b.name ≠ inflector.singularize a.name) :
    ∃ b ∈ attributes, b.Contends inflector caseAliases (inflector.singularize a.name) ∧
      (ofAttributes inflector caseAliases attributes).find? (inflector.singularize a.name) =
        some b := by
  have hfind : (ofAttributes inflector caseAliases attributes).find?
      (inflector.singularize a.name) = _ := find?_singular ha hlist hname hundeclared
  have hfound : ((attributes.find? fun b =>
      caseAliases && Text.swapFirstCase b.name = inflector.singularize a.name).or
        (attributes.find? fun b =>
          b.isList && inflector.singularize b.name = inflector.singularize a.name)).isSome := by
    rw [Option.isSome_or, Bool.or_eq_true]
    exact .inr (List.find?_isSome.2 ⟨a, ha, by simp [hlist]⟩)
  obtain ⟨b, hb⟩ := Option.isSome_iff_exists.1 hfound
  refine ⟨b, ?_, ?_, hfind.trans hb⟩
  · rcases Option.or_eq_some_iff.1 hb with hcase | ⟨-, hsingular⟩
    · exact List.mem_of_find?_eq_some hcase
    · exact List.mem_of_find?_eq_some hsingular
  · rcases Option.or_eq_some_iff.1 hb with hcase | ⟨-, hsingular⟩
    · exact .inl (by simpa using List.find?_some hcase)
    · exact .inr (by simpa using List.find?_some hsingular)

end AccessorTable

/-! ## The warning against the table -/

namespace Document

open Registry in
/-- **What a shadowed alias means for the compiled table.** Under the same naming settings for both,
a list attribute whose singular is another name, and not empty, is reported if and only if the
singular is declared, and then the singular leads to the declared attribute and not to the list. If
it is not reported, the singular leads to the list or to another attribute that competes for it, and
to the list if no other does. -/
theorem shadowedAlias_compiled {document : Document} {naming : NamingSettings}
    {label? : Option String} {serial : Nat} {registry : Registry}
    (hcompile : compile document.types naming label? serial = .ok registry) {type : String}
    {attributes : Dict AttributeType}
    (htype : document.types.find? type = some (.record attributes)) {attr element : String}
    (hattr : attributes.find? attr = some (.list element)) {singular : String}
    (hsingular : (Inflector.ofSettings naming).singularize attr = singular)
    (hdiffers : singular ≠ attr) (hname : singular ≠ "") (id : String) :
    let reported := WarnsShadowed (.ofSettings naming) id document type attr
    let contends := Attribute.Contends (.ofSettings naming) naming.caseAliases singular
    ∃ kind a, registry.lookup? type = some kind ∧ kind.attribute? attr = some a ∧
      (reported ↔ singular ∈ attributes.keys) ∧
      (reported → ∃ b, kind.attribute? singular = some b ∧ kind.accessor? singular = some b ∧
        b ≠ a) ∧
      (¬ reported → kind.accessor? singular ≠ some a →
        ∃ b ∈ kind.attributes, b ≠ a ∧ contends b ∧ kind.accessor? singular = some b) ∧
      (¬ reported → (∀ b ∈ kind.attributes, b ≠ a → ¬ contends b) →
        kind.accessor? singular = some a) := by
  intro reported contends
  obtain ⟨kind, hlookup, hsound, hattributes, haccessors⟩ := kind_of_declared hcompile htype
  obtain ⟨a, ha, haName, haList⟩ := attribute?_of_declared hattributes hattr
  have hmem : a ∈ kind.attributes := List.mem_of_find?_eq_some ha
  have haSingular : (Inflector.ofSettings naming).singularize a.name = singular := by
    rw [haName, hsingular]
  have hreported : reported ↔ singular ∈ attributes.keys := by
    have hiff : reported ↔ true = true ∧ (Inflector.ofSettings naming).singularize attr ≠ attr ∧
        (attributes.find? ((Inflector.ofSettings naming).singularize attr)).isSome = true :=
      warnsShadowed_iff htype hattr
    rw [hsingular] at hiff
    rw [hiff, ← Dict.contains_iff_mem_keys]
    exact ⟨fun h => h.2.2, fun h => ⟨rfl, hdiffers, h⟩⟩
  have hcontender : ¬ reported →
      ∃ b ∈ kind.attributes, contends b ∧ kind.accessor? singular = some b := by
    intro hnot
    have hnone : attributes.entries.find? singular = none :=
      Entries.find?_eq_none_iff.2 (mt hreported.2 hnot)
    have hundeclared : ∀ b ∈ kind.attributes, b.name ≠ singular :=
      name_ne_of_undeclared hattributes hnone
    rw [← haSingular] at hundeclared hname
    obtain ⟨b, hb, hcontends, hleads⟩ :=
      AccessorTable.exists_contender hmem haList hname hundeclared
    rw [haSingular, ← haccessors] at hleads
    rw [haSingular] at hcontends
    exact ⟨b, hb, hcontends, hleads⟩
  refine ⟨kind, a, hlookup, ha, hreported, ?_, ?_, ?_⟩
  · intro h
    obtain ⟨shape, hshape⟩ := Dict.mem_keys_iff.1 (hreported.1 h)
    obtain ⟨b, hb, hbName, -⟩ := attribute?_of_declared hattributes hshape
    have hleads := hsound.accessor?_declared (List.mem_of_find?_eq_some hb) (hbName ▸ hname)
    rw [hbName] at hleads
    refine ⟨b, hb, hleads, ?_⟩
    rintro rfl
    exact hdiffers (hbName.symm.trans haName)
  · intro hnot hother
    obtain ⟨b, hb, hcontends, hleads⟩ := hcontender hnot
    refine ⟨b, hb, ?_, hcontends, hleads⟩
    rintro rfl
    exact hother hleads
  · intro hnot halone
    obtain ⟨b, hb, hcontends, hleads⟩ := hcontender hnot
    by_cases hsame : b = a
    · rw [← hsame]
      exact hleads
    · exact absurd hcontends (halone b hb hsame)

end Document

/-! ## A team

Its members are shadowed by one member, and reported; its leads are not reported, and still their
singular goes to the capitalized lead. -/

/-- A document with both kinds of collision. -/
def teamDocument : Document :=
  .ofTypes (.ofList [
    ("Person", .primitive "String"),
    ("Team", .record (.ofList [("Lead", .scalar "Person"), ("leads", .list "Person"),
      ("member", .scalar "Person"), ("members", .list "Person")]))])

/-- What the types of `teamDocument` compile to under the default settings. -/
def teamRegistry : Registry where
  serial := 0
  label? := none
  kinds := [
    sampleKind 0 "Person" (some "String") [],
    sampleKind 1 "Team" none [⟨"Lead", false, 0⟩, ⟨"leads", true, 0⟩, ⟨"member", false, 0⟩,
      ⟨"members", true, 0⟩]]
  fingerprint := Schema.checksum teamDocument.types

open Registry in
theorem compile_team : compile teamDocument.types .default none 0 = .ok teamRegistry := by
  refine compile_eq_ok_iff.2 ⟨?_, rfl, rfl, rfl⟩
  refine .cons (compileKind_eq_ok_iff.2 ⟨.nil, rfl, rfl, rfl, rfl⟩) (.cons
    (compileKind_eq_ok_iff.2 ⟨?_, rfl, rfl, rfl, rfl⟩) .nil)
  exact .cons (resolve_of_idxOf? (by decide)) (.cons (resolve_of_idxOf? (by decide))
    (.cons (resolve_of_idxOf? (by decide)) (.cons (resolve_of_idxOf? (by decide)) .nil)))

namespace Document

theorem shadowedAlias_compiled_team :
    Registry.compile teamDocument.types .default none 0 = .ok teamRegistry ∧
    WarnsShadowed (.ofSettings .default) "team" teamDocument "Team" "members" ∧
    (teamRegistry.kind 1).accessor? "member" = some ⟨"member", false, 0⟩ ∧
    ¬ WarnsShadowed (.ofSettings .default) "team" teamDocument "Team" "leads" ∧
    (teamRegistry.kind 1).accessor? "lead" = some ⟨"Lead", false, 0⟩ := by
  have hmembers : (Inflector.ofSettings .default).singularize "members" = "member" := by
    decide +kernel
  have hleads : (Inflector.ofSettings .default).singularize "leads" = "lead" := by
    decide +kernel
  have htype : teamDocument.types.find? "Team" = some (.record (.ofList [("Lead", .scalar "Person"),
    ("leads", .list "Person"), ("member", .scalar "Person"), ("members", .list "Person")])) := rfl
  obtain ⟨kind, a, hkind, -, hreported, hdeclared, -⟩ :=
    shadowedAlias_compiled compile_team htype rfl hmembers (by decide) (by decide) "team"
  obtain ⟨-, -, -, -, hreported', -⟩ :=
    shadowedAlias_compiled compile_team htype rfl hleads (by decide) (by decide) "team"
  obtain rfl : teamRegistry.kind 1 = kind := Option.some.inj hkind
  have hmember : WarnsShadowed (.ofSettings .default) "team" teamDocument "Team" "members" :=
    hreported.2 (by decide)
  have hlead : ¬ WarnsShadowed (.ofSettings .default) "team" teamDocument "Team" "leads" :=
    mt hreported'.1 (by decide)
  obtain ⟨b, hb, hmemberLeads, -⟩ := hdeclared hmember
  obtain rfl : Attribute.mk "member" false 0 = b := Option.some.inj hb
  -- the capitalized lead has the name as its case alias, and the first search finds it
  have hfirst : (teamRegistry.kind 1).accessor? ((Inflector.ofSettings .default).singularize "leads")
      = some ⟨"Lead", false, 0⟩ := by
    have hplace : Attribute.mk "leads" true 0 ∈ (teamRegistry.kind 1).attributes := .tail _ (.head _)
    refine (AccessorTable.find?_singular hplace rfl ?_ ?_).trans ?_
    · decide +kernel
    · decide +kernel
    · decide +kernel
  rw [hleads] at hfirst
  exact ⟨compile_team, hmember, hmemberLeads, hlead, hfirst⟩

end Document

end SchemaNodes
