import SchemaNodes.Proofs.Registry.Compiled

/-!
# References of a schema

Every attribute of a record refers to a type by its name. Compiling resolves the references type by
type and attribute by attribute, and stops at the first that names no declared type. Here the
references are laid out in one list, in that order, and compilation is brought down to a search
through it.

* **`Schema.mem_references_iff`**, **`Schema.pairwise_references`**: what the list holds, and that it
  is in order of the types and then of the attributes.
* **`Registry.failure?_compile`**: compiling fails with the first undeclared reference of the list.
* **`Registry.exists_compile_iff`**, **`Registry.compile_eq_error_iff`**: so it succeeds if every
  reference is declared, and otherwise the error is that of the least undeclared reference.
-/

namespace SchemaNodes

/-! ## Lists made from dictionaries

What is made entry by entry from a dictionary comes in the order of the keys, and within one entry
in the order of what that entry gives. -/

theorem Entries.Sorted.pairwise_flatMap {α β : Type} {entries : Entries α} (hs : entries.Sorted)
    {f : String × α → List β} {R : β → β → Prop}
    (hwithin : ∀ entry ∈ entries, (f entry).Pairwise R)
    (hacross : ∀ entry other : String × α, entry.1 < other.1 →
      ∀ x ∈ f entry, ∀ y ∈ f other, R x y) :
    (entries.flatMap f).Pairwise R :=
  List.pairwise_flatMap.2 ⟨hwithin, hs.imp fun hlt => hacross _ _ hlt⟩

/-- In a list that is in order, a search finds the least element that it is for. -/
theorem find?_eq_some_iff_least {α : Type} {R : α → α → Prop} (hasymm : ∀ x y, R x y → ¬ R y x)
    {xs : List α} (hsorted : xs.Pairwise R) {p : α → Bool} {x : α} :
    xs.find? p = some x ↔ x ∈ xs ∧ p x = true ∧ ∀ y ∈ xs, p y = true → y = x ∨ R x y := by
  constructor
  · intro hfind
    obtain ⟨hx, before, after, rfl, hbefore⟩ := List.find?_eq_some_iff_append.1 hfind
    refine ⟨by simp, hx, fun y hy hpy => ?_⟩
    rcases List.mem_append.1 hy with hy | hy
    · have hnot := hbefore y hy
      simp [hpy] at hnot
    · have hhead := (List.pairwise_cons.1 (List.pairwise_append.1 hsorted).2.1).1
      exact (List.mem_cons.1 hy).imp id (hhead y)
  · rintro ⟨hmem, hx, hleast⟩
    cases hfind : xs.find? p with
    | none => exact absurd hx (List.find?_eq_none.1 hfind x hmem)
    | some z =>
      -- what is found cannot stand behind `x`, and `x` cannot stand behind what is found
      obtain ⟨hz, before, after, rfl, hbefore⟩ := List.find?_eq_some_iff_append.1 hfind
      have hhead := (List.pairwise_cons.1 (List.pairwise_append.1 hsorted).2.1).1
      rcases hleast z (by simp) hz with rfl | hxz
      · rfl
      · rcases List.mem_append.1 hmem with hin | hin
        · have hnot := hbefore x hin
          simp [hx] at hnot
        · rcases List.mem_cons.1 hin with rfl | hin
          · rfl
          · exact absurd (hhead x hin) (hasymm x z hxz)

/-! ## The references -/

/-- The attribute of a type refers to a type by name. -/
structure Schema.Reference where
  type : String
  attr : String
  target : String
  deriving DecidableEq, Repr

namespace Schema

/-- The references, in the order of the types and then of the attributes. -/
def references (schema : Schema) : List Reference :=
  schema.entries.flatMap fun (type, definition) =>
    definition.attributes.map fun (attr, shape) => ⟨type, attr, shape.typeName⟩

/-- The schema has the reference: it defines the type, with the attribute of a type that is called
by the target's name. -/
def Refers (schema : Schema) (r : Reference) : Prop :=
  ∃ definition shape, schema.find? r.type = some definition ∧
    definition.attributes.find? r.attr = some shape ∧ shape.typeName = r.target

/-- One reference stands before another: its type comes first, or of one type its attribute. -/
def Reference.Precedes (r s : Reference) : Prop :=
  r.type < s.type ∨ r.type = s.type ∧ r.attr < s.attr

/-- The error of a reference that leads nowhere. -/
def Reference.unresolved (schema : Schema) (r : Reference) : BuildError :=
  .unresolvedReference r.type r.attr r.target (Naming.suggest r.target schema.keys)

theorem mem_references_iff {schema : Schema} {r : Reference} :
    r ∈ schema.references ↔ schema.Refers r := by
  unfold references Refers
  rw [List.mem_flatMap]
  constructor
  · rintro ⟨⟨type, definition⟩, hentry, hr⟩
    obtain ⟨⟨attr, shape⟩, hattr, rfl⟩ := List.mem_map.1 hr
    exact ⟨definition, shape, Dict.mem_entries_iff.1 hentry,
      definition.attributes_sorted.find?_of_mem hattr, rfl⟩
  · rintro ⟨definition, shape, htype, hattr, htarget⟩
    refine ⟨(r.type, definition), Dict.mem_entries_iff.2 htype, List.mem_map.2 ?_⟩
    exact ⟨(r.attr, shape), Entries.mem_of_find? hattr, congrArg (Reference.mk r.type r.attr) htarget⟩

theorem pairwise_references (schema : Schema) :
    schema.references.Pairwise Reference.Precedes := by
  refine schema.sorted.pairwise_flatMap ?_ ?_
  · rintro ⟨type, definition⟩ -
    exact List.pairwise_map.2 (definition.attributes_sorted.imp fun hlt => .inr ⟨rfl, hlt⟩)
  · rintro ⟨type, definition⟩ ⟨other, definition'⟩ hlt x hx y hy
    obtain ⟨entry, -, rfl⟩ := List.mem_map.1 hx
    obtain ⟨entry', -, rfl⟩ := List.mem_map.1 hy
    exact .inl hlt

theorem Reference.precedes_asymm (r s : Reference) (h : r.Precedes s) : ¬ s.Precedes r := by
  rintro (hlt | ⟨heq, hlt⟩)
  · rcases h with hlt' | ⟨heq', -⟩
    · exact String.lt_irrefl _ (String.lt_trans hlt hlt')
    · rw [heq'] at hlt
      exact String.lt_irrefl _ hlt
  · rcases h with hlt' | ⟨-, hlt'⟩
    · rw [heq] at hlt'
      exact String.lt_irrefl _ hlt'
    · exact String.lt_irrefl _ (String.lt_trans hlt hlt')

end Schema

/-! ## Chains of steps that fail -/

/-- The error, if there is one. -/
def failure? {ε α : Type} : Except ε α → Option ε
  | .ok _ => none
  | .error e => some e

theorem failure?_eq_some_iff {ε α : Type} {x : Except ε α} {e : ε} :
    failure? x = some e ↔ x = .error e := by
  cases x with
  | ok _ => simp [failure?]
  | error _ => simp [failure?]

theorem failure?_eq_none_iff {ε α : Type} {x : Except ε α} :
    failure? x = none ↔ ∃ a, x = .ok a := by
  cases x with
  | ok _ => simp [failure?]
  | error _ => simp [failure?]

/-- What is done with a success at the end does not fail. -/
theorem failure?_bind_pure {ε α β : Type} (x : Except ε α) (f : α → β) :
    failure? (x >>= fun a => pure (f a)) = failure? x := by
  cases x with
  | ok _ => rfl
  | error _ => rfl

/-- A traversal fails with the first step that fails. -/
theorem failure?_mapM {ε α β : Type} (f : α → Except ε β) (xs : List α) :
    failure? (xs.mapM f) = xs.findSome? fun x => failure? (f x) := by
  induction xs with
  | nil => rfl
  | cons x xs ih =>
    rw [List.mapM_cons, List.findSome?_cons]
    cases hx : f x with
    | error e => rfl
    | ok y =>
      have hrest : failure? (xs.mapM f >>= fun ys => pure (y :: ys)) = failure? (xs.mapM f) :=
        failure?_bind_pure _ _
      exact hrest.trans ih

/-! ## The first reference that leads nowhere -/

namespace Registry

open Schema

theorem failure?_resolve (schema : Schema) (type : String) (entry : String × AttributeType) :
    failure? (resolve schema type entry) =
      if schema.contains entry.2.typeName then none
      else some (Reference.unresolved schema ⟨type, entry.1, entry.2.typeName⟩) := by
  simp only [resolve]
  cases hkey : schema.keys.idxOf? entry.2.typeName with
  | none =>
    have hundeclared : entry.2.typeName ∉ schema.keys := List.idxOf?_eq_none_iff.1 hkey
    rw [if_neg (mt Dict.contains_iff_mem_keys.1 hundeclared)]
    rfl
  | some place =>
    have hdeclared : entry.2.typeName ∈ schema.keys := List.isSome_idxOf?.1 (by simp [hkey])
    rw [if_pos (Dict.contains_iff_mem_keys.2 hdeclared)]
    rfl

theorem failure?_compileKind (schema : Schema) (inflector : Naming.Inflector) (caseAliases : Bool)
    (definition : (String × TypeDefinition) × Nat) :
    failure? (compileKind schema inflector caseAliases definition) =
      definition.1.2.attributes.findSome? fun entry =>
        failure? (resolve schema definition.1.1 entry) :=
  (failure?_bind_pure _ _).trans (failure?_mapM _ _)

/-- Compiling fails with the first reference that names no declared type. -/
theorem failure?_compile (schema : Schema) (naming : NamingSettings) (label? : Option String)
    (serial : Nat) :
    failure? (compile schema naming label? serial) =
      (schema.references.find? fun r => !schema.contains r.target).map
        (Reference.unresolved schema) := by
  have hkinds : failure? (compile schema naming label? serial) =
      schema.entries.zipIdx.findSome? fun definition =>
        failure? (compileKind schema (.ofSettings naming) naming.caseAliases definition) :=
    (failure?_bind_pure _ _).trans (failure?_mapM _ _)
  -- the places play no part in what fails
  have hentries : schema.entries.zipIdx.findSome? (fun definition =>
      failure? (compileKind schema (.ofSettings naming) naming.caseAliases definition)) =
        schema.entries.findSome? fun entry =>
          entry.2.attributes.findSome? fun attr => failure? (resolve schema entry.1 attr) := by
    simp only [failure?_compileKind]
    conv_rhs => rw [← List.zipIdx_map_fst 0 schema.entries, List.findSome?_map]
    rfl
  rw [hkinds, hentries, references, List.find?_flatMap, List.map_findSome?]
  refine congrArg (schema.entries.findSome? ·) (funext fun entry => ?_)
  rw [Function.comp, List.find?_map, Option.map_map]
  induction entry.2.attributes with
  | nil => rfl
  | cons attr rest ih =>
    rw [List.findSome?_cons, List.find?_cons, failure?_resolve, ih]
    cases hdeclared : schema.contains attr.2.typeName with
    | true => simp [hdeclared]
    | false => simp [hdeclared]

/-- A schema compiles if and only if it declares every type that it refers to. -/
theorem exists_compile_iff {schema : Schema} {naming : NamingSettings} {label? : Option String}
    {serial : Nat} :
    (∃ registry, compile schema naming label? serial = .ok registry) ↔
      ∀ r, schema.Refers r → r.target ∈ schema.keys := by
  rw [← failure?_eq_none_iff, failure?_compile, Option.map_eq_none_iff, List.find?_eq_none]
  refine forall_congr' fun r => ?_
  rw [mem_references_iff, ← Dict.contains_iff_mem_keys]
  simp

/-- The error is that of the least reference to an undeclared type. -/
theorem compile_eq_error_iff {schema : Schema} {naming : NamingSettings} {label? : Option String}
    {serial : Nat} {e : BuildError} :
    compile schema naming label? serial = .error e ↔
      ∃ r, schema.Refers r ∧ r.target ∉ schema.keys ∧
        (∀ s, schema.Refers s → s.target ∉ schema.keys → s = r ∨ r.Precedes s) ∧
          e = r.unresolved schema := by
  have hundeclared : ∀ r : Reference,
      (!schema.contains r.target) = true ↔ r.target ∉ schema.keys := by
    intro r
    rw [← Dict.contains_iff_mem_keys]
    simp
  rw [← failure?_eq_some_iff, failure?_compile, Option.map_eq_some_iff]
  refine exists_congr fun r => ?_
  rw [find?_eq_some_iff_least Reference.precedes_asymm (pairwise_references schema)]
  simp only [mem_references_iff, hundeclared]
  constructor
  · rintro ⟨⟨hr, htarget, hleast⟩, rfl⟩
    exact ⟨hr, htarget, hleast, rfl⟩
  · rintro ⟨hr, htarget, hleast, rfl⟩
    exact ⟨⟨hr, htarget, hleast⟩, rfl⟩

end Registry

end SchemaNodes
