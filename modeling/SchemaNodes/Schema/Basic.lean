import SchemaNodes.Checksum

/-!
# Schemas

A schema declares types by name: a primitive type stands for a leaf, a record type has attributes,
and an attribute holds one value of a type or a list of them. A document adds the places where
resources use types; those are checked by the lint pass and never compiled.

`Document.toJson` is the JSON form of a document and `Document.ofJson?` reads it. Every dictionary
is sorted, so the compact text of a schema is canonical and its checksum is a fingerprint.
-/

namespace SchemaNodes

/-- What an attribute holds. -/
inductive AttributeType where
  /-- One value of the named type. -/
  | scalar (type : String)
  /-- A list of values of the named type. -/
  | list (element : String)
  deriving DecidableEq, Repr, Inhabited

namespace AttributeType

/-- The name of the referenced type. -/
def typeName : AttributeType → String
  | .scalar type => type
  | .list element => element

/-- Whether the attribute holds a list. -/
def isList : AttributeType → Bool
  | .scalar _ => false
  | .list _ => true

/-- A type name for one value, an array of one type name for a list. -/
def toJson : AttributeType → Json
  | .scalar type => .string type
  | .list element => .array [.string element]

/-- Reads a type name or an array of exactly one. -/
def ofJson? : Json → Option AttributeType
  | .string type => some (.scalar type)
  | .array [.string element] => some (.list element)
  | _ => none

end AttributeType

/-- The definition of a type. -/
inductive TypeDefinition where
  /-- A leaf that stands for a primitive of the given name. -/
  | primitive (name : String)
  /-- A record with attributes. -/
  | record (attributes : Dict AttributeType)
  deriving DecidableEq

namespace TypeDefinition

instance : Inhabited TypeDefinition := ⟨.primitive ""⟩

/-- The attributes, in name order; a primitive has none. -/
def attributes : TypeDefinition → Entries AttributeType
  | .primitive _ => []
  | .record attributes => attributes.entries

/-- Whether the type is a leaf. -/
def isPrimitive : TypeDefinition → Bool
  | .primitive _ => true
  | .record _ => false

/-- The name of a primitive, or an object of attributes. -/
def toJson : TypeDefinition → Json
  | .primitive name => .string name
  | .record attributes => .object (attributes.entries.map fun (name, a) => (name, a.toJson))

end TypeDefinition

/-- The types that a resource uses in one place. -/
inductive ResourceUse where
  /-- One type. -/
  | single (type : String)
  /-- Any number of types. -/
  | list (types : List String)
  deriving DecidableEq, Repr, Inhabited

namespace ResourceUse

/-- Every type name that is used. -/
def typeNames : ResourceUse → List String
  | .single type => [type]
  | .list types => types

/-- Whether the use is a list. -/
def isList : ResourceUse → Bool
  | .single _ => false
  | .list _ => true

/-- A type name, or an array of type names. -/
def toJson : ResourceUse → Json
  | .single type => .string type
  | .list types => .array (types.map .string)

/-- Reads a type name or an array of type names. -/
def ofJson? : Json → Option ResourceUse
  | .string type => some (.single type)
  | .array items => (items.mapM Json.asString?).map .list
  | _ => none

end ResourceUse

/-- The declared types, by name. -/
abbrev Schema := Dict TypeDefinition

/-- The uses of types, by resource, section and name. -/
abbrev Resources := Dict (Dict (Dict ResourceUse))

/-- A schema with the resources that use it. -/
structure Document where
  types : Schema
  resources : Resources
  deriving DecidableEq, Inhabited

namespace Dict

/-- The object of a dictionary whose values have a JSON form. -/
def toJson {α : Type} (dict : Dict α) (value : α → Json) : Json :=
  .object (dict.entries.map fun (name, a) => (name, value a))

/-- Reads an object whose every value can be read. -/
def ofJson? {α : Type} (value : Json → Option α) : Json → Option (Dict α)
  | .object members =>
    (members.mapM fun member => (value member.2).map fun a => (member.1, a)).map Dict.ofList
  | _ => none

end Dict

namespace TypeDefinition

/-- Reads a primitive's name or an object of attributes. -/
def ofJson? : Json → Option TypeDefinition
  | .string name => some (.primitive name)
  | other => (Dict.ofJson? AttributeType.ofJson? other).map .record

end TypeDefinition

namespace Schema

/-- The object of the declared types. -/
def toJson (schema : Schema) : Json := Dict.toJson schema TypeDefinition.toJson

/-- Reads an object of type definitions. -/
def ofJson? : Json → Option Schema := Dict.ofJson? TypeDefinition.ofJson?

/-- The fingerprint of the declared types. -/
def checksum (schema : Schema) : Checksum := .ofJson schema.toJson

end Schema

namespace Resources

/-- The object of resources, of sections, of uses. -/
def toJson (resources : Resources) : Json :=
  Dict.toJson resources fun sections => sections.toJson fun uses => uses.toJson ResourceUse.toJson

/-- Reads an object of objects of objects of uses. -/
def ofJson? : Json → Option Resources :=
  Dict.ofJson? (Dict.ofJson? (Dict.ofJson? ResourceUse.ofJson?))

end Resources

namespace Document

/-- A document without resources. -/
def ofTypes (types : Schema) : Document := ⟨types, .empty⟩

/-- The fingerprint of the declared types. -/
def checksum (document : Document) : Checksum := Schema.checksum document.types

/-- The document under the keys `Types` and `Resources`; the second is left out when it is empty. -/
def toJson (document : Document) : Json :=
  .object (("Types", Schema.toJson document.types) ::
    if document.resources.isEmpty then [] else [("Resources", Resources.toJson document.resources)])

/-- Reads a part of a document, which is empty when it is missing. -/
def part {α : Type} (read : Json → Option (Dict α)) : Option Json → Option (Dict α)
  | none => some .empty
  | some value => read value

/-- Reads a document: an object, of which only two keys count, or an array of its parts in order. -/
def ofJson? : Json → Option Document
  | .object members => do
    let types ← part Schema.ofJson? (Entries.find? "Types" members)
    let resources ← part Resources.ofJson? (Entries.find? "Resources" members)
    return ⟨types, resources⟩
  | .array items =>
    if items.length ≤ 2 then do
      let types ← part Schema.ofJson? items[0]?
      let resources ← part Resources.ofJson? items[1]?
      return ⟨types, resources⟩
    else none
  | _ => none

end Document

end SchemaNodes
