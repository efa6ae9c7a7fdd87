import SchemaNodes.Checksum
import SchemaNodes.Registry.AccessorTable

/-!
# Registries

A compiled schema: every type is a kind with an id, its attributes refer to kinds by id, and each
kind has its accessor table. Ids are positions in name order.

Nodes belong to the registry that made them, and two compilations of one schema are different
registries: the serial number tells them apart.
-/

namespace SchemaNodes

/-- A compiled type. -/
structure Kind where
  /-- The position in the registry. -/
  id : Nat
  /-- The name of the type. -/
  name : String
  /-- The primitive that a leaf stands for. -/
  primitive? : Option String
  /-- The resolved attributes, in name order. -/
  attributes : List Attribute
  /-- The attributes by callable name. -/
  accessors : AccessorTable
  deriving DecidableEq

namespace Kind

instance : Inhabited Kind := ⟨0, "", none, [], .empty⟩

/-- Whether the kind is a leaf. -/
def isPrimitive (kind : Kind) : Bool := kind.primitive?.isSome

/-- The attribute of the declared name. -/
def attribute? (kind : Kind) (name : String) : Option Attribute :=
  kind.attributes.find? fun a => a.name = name

/-- The attribute that a name leads to. -/
def accessor? (kind : Kind) (name : String) : Option Attribute := kind.accessors.find? name

end Kind

/-- A compiled schema. -/
structure Registry where
  /-- Tells compilations apart. -/
  serial : Nat
  /-- A label. -/
  label? : Option String
  /-- The kinds, by id. -/
  kinds : List Kind
  /-- The checksum of the schema. -/
  fingerprint : Checksum
  deriving DecidableEq

namespace Registry

instance : Inhabited Registry := ⟨0, none, [], default⟩

/-- The kind of an id. -/
def kind (registry : Registry) (id : Nat) : Kind := registry.kinds.getD id default

/-- The kind of a name. -/
def lookup? (registry : Registry) (name : String) : Option Kind :=
  registry.kinds.find? fun kind => kind.name = name

/-- The number of kinds. -/
def size (registry : Registry) : Nat := registry.kinds.length

/-- Whether there are no kinds. -/
def isEmpty (registry : Registry) : Bool := registry.kinds.isEmpty

end Registry

end SchemaNodes
