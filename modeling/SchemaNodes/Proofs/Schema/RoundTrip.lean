import SchemaNodes.Proofs.Checksum
import SchemaNodes.Proofs.Registry.Compiled
import SchemaNodes.Proofs.Schema.Text

/-!
# Documents survive being written

What a document is written as is read back as that document, as a value and as a text. So the
writing is injective, and the fingerprint of a schema stands for the schema as far as the digest
does.

* **`ReadsBack`**, **`readsBack_dict`**: a reader that reads back what its writer writes; for
  objects this follows from their values.
* **`Document.readsBack`**, **`Document.ofJsonText_compact`**: documents read back, as values and as
  texts.
* **`Schema.checksum_eq_iff`**: equal fingerprints are equal schemas, or else a collision.
* **`Document.identified`**: round trip, injectivity and fingerprints together.
-/

namespace SchemaNodes

open Json

/-- The reader reads back what the writer writes, which is made of strings, arrays and objects. -/
structure ReadsBack {α : Type} (read : Json → Option α) (form : α → Json) : Prop where
  read_form : ∀ a, read (form a) = some a
  textual : ∀ a, (form a).Textual

variable {α : Type} {read : Json → Option α} {form : α → Json}

theorem ReadsBack.form_inj (h : ReadsBack read form) {a b : α} (heq : form a = form b) : a = b := by
  have hread := h.read_form a
  rw [heq, h.read_form b] at hread
  exact (Option.some.inj hread).symm

/-- Objects read back if their values do. -/
theorem readsBack_dict (h : ReadsBack read form) :
    ReadsBack (Dict.ofJson? read) (·.toJson form) where
  read_form dict := by
    refine Dict.ofJson?_eq_some_iff.2 ⟨_, dict.entries, rfl, ?_, Dict.ofList_entries dict⟩
    rw [List.forall₂_map_left_iff]
    exact List.forall₂_same.2 fun entry _ => ⟨rfl, h.read_form entry.2⟩
  textual dict := by
    rw [Dict.toJson, Textual, textualMembers_iff]
    intro member hmem
    obtain ⟨entry, -, rfl⟩ := List.mem_map.1 hmem
    exact h.textual entry.2

theorem readsBack_attributeType : ReadsBack AttributeType.ofJson? AttributeType.toJson where
  read_form a := by cases a <;> rfl
  textual a := by cases a <;> simp [AttributeType.toJson, Textual, TextualItems]

theorem readsBack_typeDefinition : ReadsBack TypeDefinition.ofJson? TypeDefinition.toJson where
  read_form type := by
    cases type with
    | primitive name => rfl
    | record attributes =>
      have hread := (readsBack_dict readsBack_attributeType).read_form attributes
      exact congrArg (Option.map TypeDefinition.record) hread
  textual type := by
    cases type with
    | primitive name => simp [TypeDefinition.toJson, Textual]
    | record attributes => exact (readsBack_dict readsBack_attributeType).textual attributes

theorem readsBack_resourceUse : ReadsBack ResourceUse.ofJson? ResourceUse.toJson where
  read_form use := by
    cases use with
    | single type => rfl
    | list types =>
      have hread := mapM_asString?_eq_some_iff.2 (rfl : types.map Json.string = _)
      exact congrArg (Option.map ResourceUse.list) hread
  textual use := by
    cases use with
    | single type => simp [ResourceUse.toJson, Textual]
    | list types => simp [ResourceUse.toJson, Textual, textualItems_iff]

theorem readsBack_schema : ReadsBack Schema.ofJson? Schema.toJson :=
  readsBack_dict readsBack_typeDefinition

theorem readsBack_resources : ReadsBack Resources.ofJson? Resources.toJson :=
  readsBack_dict (readsBack_dict (readsBack_dict readsBack_resourceUse))

/-! ## Fingerprints -/

namespace Schema

theorem compact_toJson_inj {s t : Schema} (h : s.toJson.compact = t.toJson.compact) : s = t :=
  readsBack_schema.form_inj
    ((readsBack_schema.textual s).compact_inj (readsBack_schema.textual t) h)

/-- The canonical texts of two schemas make the digest collide. -/
def Collide (s t : Schema) : Prop :=
  Sha256.Collide (Checksum.bytes s.toJson.compact) (Checksum.bytes t.toJson.compact)

theorem checksum_eq_iff {s t : Schema} : s.checksum = t.checksum ↔ s = t ∨ s.Collide t := by
  have hform : s.toJson = t.toJson ↔ s = t := ⟨readsBack_schema.form_inj, fun h => h ▸ rfl⟩
  rw [← hform]
  exact Checksum.ofJson_eq_iff (readsBack_schema.textual s) (readsBack_schema.textual t)

end Schema

namespace Document

/-! ## Documents -/

theorem readsBack : ReadsBack Document.ofJson? Document.toJson where
  read_form d := by
    rw [ofJson?_eq_some_iff]
    refine ⟨.inl ⟨_, rfl⟩, readsBack_schema.read_form d.types, ?_⟩
    rw [toJson]
    cases hempty : d.resources.isEmpty with
    | true =>
      have hresources : d.resources = .empty := Dict.eq_of_entries_eq (List.isEmpty_iff.1 hempty)
      rw [hresources]
      rfl
    | false => exact readsBack_resources.read_form d.resources
  textual d := by
    rw [toJson, Textual, TextualMembers]
    refine ⟨readsBack_schema.textual d.types, ?_⟩
    split
    · simp [TextualMembers]
    · rw [TextualMembers]
      exact ⟨readsBack_resources.textual d.resources, trivial⟩

theorem distinctKeys_toJson (d : Document) : d.toJson.DistinctKeys := by
  rw [toJson, DistinctKeys]
  split <;> simp [Entries.keys]

/-- The text of a document is read as that document. -/
theorem ofJsonText_compact (d : Document) : ofJsonText d.toJson.compact = .ok d :=
  (ofJsonText_eq_ok_iff (readsBack.textual d).spells_compact d.distinctKeys_toJson d).2
    (readsBack.read_form d)

/-- A document reads back from its value and from its text, so that it is the only one with them;
and its types are identified by their canonical text and, as far as the digest does not collide, by
the fingerprint of the document and of every registry that they are compiled to, whatever the
resources, the naming and the label are. -/
theorem identified (d e : Document) :
    ofJson? d.toJson = some d ∧ ofJsonText d.toJson.compact = .ok d ∧
    (d.toJson = e.toJson → d = e) ∧ (d.toJson.compact = e.toJson.compact → d = e) ∧
    (d.types.toJson.compact = e.types.toJson.compact → d.types = e.types) ∧
    (d.checksum = e.checksum ↔ d.types = e.types ∨ d.types.Collide e.types) ∧
    ∀ naming naming' label? label?' serial serial' registry registry',
      Registry.compile d.types naming label? serial = .ok registry →
      Registry.compile e.types naming' label?' serial' = .ok registry' →
      (registry.fingerprint = registry'.fingerprint ↔
        d.types = e.types ∨ d.types.Collide e.types) := by
  refine ⟨readsBack.read_form d, ofJsonText_compact d, readsBack.form_inj, ?_,
    Schema.compact_toJson_inj, Schema.checksum_eq_iff, ?_⟩
  · intro h
    have hread := ofJsonText_compact d
    rw [h, ofJsonText_compact e] at hread
    exact (Except.ok.inj hread).symm
  · intro naming naming' label? label?' serial serial' registry registry' hcompile hcompile'
    obtain ⟨-, -, -, hfingerprint⟩ := Registry.compile_eq_ok_iff.1 hcompile
    obtain ⟨-, -, -, hfingerprint'⟩ := Registry.compile_eq_ok_iff.1 hcompile'
    rw [hfingerprint, hfingerprint']
    exact Schema.checksum_eq_iff

/-- The registry of the schema without types. -/
def emptyRegistry : Registry := ⟨1, some "empty", [], Schema.checksum .empty⟩

theorem identified_sample :
    Registry.compile sampleSchema .default none 0 = .ok sampleRegistry ∧
    Registry.compile .empty .default (some "empty") 1 = .ok emptyRegistry ∧
    (sampleRegistry.fingerprint = emptyRegistry.fingerprint ↔
      Schema.Collide sampleSchema .empty) := by
  have hempty : Registry.compile .empty .default (some "empty") 1 = .ok emptyRegistry :=
    Registry.compile_eq_ok_iff.2 ⟨.nil, rfl, rfl, rfl⟩
  have hne : sampleSchema ≠ .empty := by decide
  obtain ⟨-, -, -, -, -, -, hfingerprint⟩ := identified (.ofTypes sampleSchema) (.ofTypes .empty)
  have hiff := hfingerprint _ _ _ _ _ _ _ _ Registry.compile_sample hempty
  refine ⟨Registry.compile_sample, hempty, hiff.trans ?_⟩
  exact or_iff_right hne

end Document

end SchemaNodes
