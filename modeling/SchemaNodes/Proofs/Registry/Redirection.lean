import SchemaNodes.Proofs.Registry.Reference

/-!
# Redirecting a reference

One reference of a schema is pointed at another type. Everything else about the schema stays, so a
schema whose first undeclared reference is pointed at a declared type gets past it.

* **`Schema.refers_redirect_iff`**, **`Schema.mem_keys_redirect_iff`**: the references and the types
  afterwards.
* **`Registry.compile_redirect`**: compiling succeeds or fails at a later reference.
-/

namespace SchemaNodes

/-- The same shape with another type. -/
def AttributeType.retarget (target : String) : AttributeType → AttributeType
  | .scalar _ => .scalar target
  | .list _ => .list target

@[simp] theorem AttributeType.typeName_retarget (target : String) (shape : AttributeType) :
    (shape.retarget target).typeName = target := by
  cases shape with
  | scalar _ => rfl
  | list _ => rfl

namespace Schema

/-- The schema with another type in the place of a reference. -/
def redirect (schema : Schema) (r : Reference) (target : String) : Schema :=
  match schema.find? r.type with
  | some (.record attributes) =>
    match attributes.find? r.attr with
    | some shape =>
      schema.insert r.type (.record (attributes.insert r.attr (shape.retarget target)))
    | none => schema
  | _ => schema

variable {schema : Schema} {r : Reference} {target : String}

/-- A reference stands in a record, and only its attribute is put anew. -/
theorem redirect_eq_insert (hr : schema.Refers r) (target : String) :
    ∃ attributes shape, schema.find? r.type = some (.record attributes) ∧
      attributes.find? r.attr = some shape ∧ schema.redirect r target =
        schema.insert r.type (.record (attributes.insert r.attr (shape.retarget target))) := by
  obtain ⟨definition, shape, htype, hattr, -⟩ := hr
  cases definition with
  | primitive name => cases hattr
  | record attributes =>
    have hshape : attributes.find? r.attr = some shape := hattr
    refine ⟨attributes, shape, htype, hshape, ?_⟩
    simp only [redirect, htype, hshape]

theorem mem_keys_redirect_iff (hr : schema.Refers r) {name : String} :
    name ∈ (schema.redirect r target).keys ↔ name ∈ schema.keys := by
  obtain ⟨attributes, shape, htype, -, hredirect⟩ := redirect_eq_insert hr target
  rw [hredirect, Dict.mem_keys_iff, Dict.mem_keys_iff, Dict.find?_insert]
  by_cases hname : name = r.type
  · subst hname
    simp [htype]
  · simp [hname]

/-- The reference leads to the new type, and every other one where it led. -/
theorem refers_redirect_iff (hr : schema.Refers r) {s : Reference} :
    (schema.redirect r target).Refers s ↔
      s = ⟨r.type, r.attr, target⟩ ∨
        schema.Refers s ∧ ¬ (s.type = r.type ∧ s.attr = r.attr) := by
  obtain ⟨attributes, shape, htype, -, hredirect⟩ := redirect_eq_insert hr target
  obtain ⟨type, attr, aim⟩ := s
  rw [hredirect]
  simp only [Refers, Dict.find?_insert, Reference.mk.injEq]
  by_cases hsameType : type = r.type
  · subst hsameType
    have hfind : ∀ name, Entries.find? name
        (TypeDefinition.record (attributes.insert r.attr (shape.retarget target))).attributes =
          if name = r.attr then some (shape.retarget target) else attributes.find? name :=
      fun name => Dict.find?_insert attributes r.attr name _
    by_cases hsameAttr : attr = r.attr
    · subst hsameAttr
      simp [hfind, eq_comm]
    · simp only [if_true, Option.some.injEq, exists_and_left, exists_eq_left', hfind, hsameAttr,
        if_false, htype, false_and, and_false, false_or, not_false_eq_true, and_true]
      rfl
  · simp [hsameType]

end Schema

namespace Registry

open Schema

/-- With its first undeclared reference pointed at a declared type, a schema compiles, or fails at a
later reference. -/
theorem compile_redirect {schema : Schema} {r : Reference} (hr : schema.Refers r)
    (hleast : ∀ s, schema.Refers s → s.target ∉ schema.keys → s = r ∨ r.Precedes s)
    {target : String} (htarget : target ∈ schema.keys) (naming : NamingSettings)
    (label? : Option String) (serial : Nat) :
    (∃ registry, compile (schema.redirect r target) naming label? serial = .ok registry) ∨
      ∃ later, r.Precedes later ∧ compile (schema.redirect r target) naming label? serial =
        .error (later.unresolved (schema.redirect r target)) := by
  cases hcompile : compile (schema.redirect r target) naming label? serial with
  | ok registry => exact .inl ⟨registry, rfl⟩
  | error e =>
    obtain ⟨later, hlater, hundeclared, -, rfl⟩ := compile_eq_error_iff.1 hcompile
    refine .inr ⟨later, ?_, rfl⟩
    rw [mem_keys_redirect_iff hr] at hundeclared
    rcases (refers_redirect_iff hr).1 hlater with rfl | ⟨hkept, helsewhere⟩
    · exact absurd htarget hundeclared
    · rcases hleast later hkept hundeclared with rfl | hprecedes
      · exact absurd ⟨rfl, rfl⟩ helsewhere
      · exact hprecedes

end Registry

end SchemaNodes
