import SchemaNodes.Registry.Basic
import SchemaNodes.Registry.Error
import SchemaNodes.Naming.Suggestion
import SchemaNodes.Schema.Basic

/-!
# Compiling schemas

`Registry.compile` resolves every reference of a schema and gives each kind its accessor table.
References may point forwards, backwards and to the type itself; the first that leads nowhere, in
the order of type names and then attribute names, is the error. `Registry.schema` is the way back:
the schema that a registry was compiled from.
-/

namespace SchemaNodes

namespace Registry

/-- Resolves the reference of an attribute. -/
def resolve (schema : Schema) (type : String) (attr : String × AttributeType) :
    Except BuildError Attribute :=
  let reference := attr.2.typeName
  match schema.keys.idxOf? reference with
  | some target => .ok ⟨attr.1, attr.2.isList, target⟩
  | none =>
    .error (.unresolvedReference type attr.1 reference
      (Naming.suggest reference schema.keys))

/-- The primitive that a definition names. -/
def primitiveOf? : TypeDefinition → Option String
  | .primitive name => some name
  | .record _ => none

/-- Compiles the definition of a type at a position. -/
def compileKind (schema : Schema) (inflector : Naming.Inflector) (caseAliases : Bool)
    (definition : (String × TypeDefinition) × Nat) : Except BuildError Kind := do
  let ((name, type), id) := definition
  let attributes ← type.attributes.mapM (resolve schema name)
  return {
    id, name, attributes
    primitive? := primitiveOf? type
    accessors := .ofAttributes inflector caseAliases attributes }

/-- Compiles a schema under naming settings, as the registry of a serial number. -/
def compile (schema : Schema) (naming : NamingSettings) (label? : Option String)
    (serial : Nat) : Except BuildError Registry := do
  let inflector := Naming.Inflector.ofSettings naming
  let kinds ← schema.entries.zipIdx.mapM (compileKind schema inflector naming.caseAliases)
  return { serial, label?, kinds, fingerprint := Schema.checksum schema }

/-- The reference of an attribute, by name. -/
def reference (registry : Registry) (a : Attribute) : AttributeType :=
  let name := (registry.kind a.target).name
  if a.isList then .list name else .scalar name

/-- The definition that a kind was compiled from. -/
def definition (registry : Registry) (kind : Kind) : TypeDefinition :=
  match kind.primitive? with
  | some name => .primitive name
  | none => .record (.ofList (kind.attributes.map fun a => (a.name, registry.reference a)))

/-- The schema that a registry was compiled from. -/
def schema (registry : Registry) : Schema :=
  .ofList (registry.kinds.map fun kind => (kind.name, registry.definition kind))

end Registry

end SchemaNodes
