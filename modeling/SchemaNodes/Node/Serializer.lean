import SchemaNodes.Json.Writer
import SchemaNodes.Node.Basic

/-!
# Walking a document

A serializer says what is made of a document while it is walked, innermost parts first. Trees of
nodes are walked as they are, without building their document, and JSON values in the same way.

`Serializer.value` builds a value, with the members of objects put in one after another, and
`Serializer.text` writes the compact text.
-/

namespace SchemaNodes

/-- What is made of leaves, of the items of an array, and of the members of an object, in order. -/
structure Serializer (α : Type) where
  null : α
  bool : Bool → α
  number : JsonNumber → α
  string : String → α
  array : List α → α
  object : List (String × α) → α

namespace Serializer

/-- Builds a value. -/
def value : Serializer Json where
  null := .null
  bool := .bool
  number := .number
  string := .string
  array := .array
  object := .ofEntries

/-- Writes the compact text. -/
def text : Serializer (List Char) where
  null := ['n', 'u', 'l', 'l']
  bool := Json.boolChars
  number := Json.numberChars
  string := Json.stringChars
  array items := '[' :: Json.commaSeparated items ++ [']']
  object members :=
    let texts := members.map fun member => Json.stringChars member.1 ++ ':' :: member.2
    '\x7b' :: Json.commaSeparated texts ++ ['\x7d']

end Serializer

variable {α : Type}

namespace Json

mutual

/-- Walks a value. -/
def serialize (s : Serializer α) : Json → α
  | .null => s.null
  | .bool value => s.bool value
  | .number value => s.number value
  | .string value => s.string value
  | .array items => s.array (serializeItems s items)
  | .object members => s.object (serializeMembers s members)

/-- Walks items in order. -/
def serializeItems (s : Serializer α) : List Json → List α
  | [] => []
  | item :: rest => serialize s item :: serializeItems s rest

/-- Walks members in order. -/
def serializeMembers (s : Serializer α) : List (String × Json) → List (String × α)
  | [] => []
  | (name, value) :: rest => (name, serialize s value) :: serializeMembers s rest

end

end Json

mutual

/-- Walks a node: an object of its slots. -/
def Node.serialize (s : Serializer α) : Node → α
  | .mk _ _ slots => s.object (serializeSlots s slots)

/-- Walks the slots of a node in order. -/
def serializeSlots (s : Serializer α) : List (String × Slot) → List (String × α)
  | [] => []
  | (name, slot) :: rest => (name, Slot.serialize s slot) :: serializeSlots s rest

/-- Walks a slot: one value, or an array. -/
def Slot.serialize (s : Serializer α) : Slot → α
  | .single value => Value.serialize s value
  | .items values => s.array (serializeValues s values)

/-- Walks a value: a node, an array, or a leaf as it is. -/
def Value.serialize (s : Serializer α) : Value → α
  | .node node => Node.serialize s node
  | .list items => s.array (serializeValues s items)
  | .json leaf => leaf.serialize s

/-- Walks values in order. -/
def serializeValues (s : Serializer α) : List Value → List α
  | [] => []
  | value :: rest => Value.serialize s value :: serializeValues s rest

end

end SchemaNodes
