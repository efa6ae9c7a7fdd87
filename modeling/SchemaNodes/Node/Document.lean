import SchemaNodes.Json.Writer
import SchemaNodes.Node.Basic

/-!
# The document of a node

The JSON document that a tree of nodes stands for: nodes are objects of their slots, lists are
arrays. `Node.toJson` builds the document as a value, and `Node.compactChars` writes its text
straight from the tree.
-/

namespace SchemaNodes

mutual

/-- The document of a node. -/
def Node.toJson : Node → Json
  | .mk _ _ slots => .object (slotMembers slots)

/-- The members of the document of a node. -/
def slotMembers : List (String × Slot) → List (String × Json)
  | [] => []
  | (name, slot) :: rest => (name, Slot.toJson slot) :: slotMembers rest

/-- The document of a slot. -/
def Slot.toJson : Slot → Json
  | .single value => Value.toJson value
  | .items values => .array (valueItems values)

/-- The document of a value. -/
def Value.toJson : Value → Json
  | .node node => Node.toJson node
  | .list items => .array (valueItems items)
  | .json value => value

/-- The documents of values. -/
def valueItems : List Value → List Json
  | [] => []
  | value :: rest => Value.toJson value :: valueItems rest

end

mutual

/-- The text of a node's document. -/
def Node.compactChars : Node → List Char
  | .mk _ _ slots => '\x7b' :: Json.commaSeparated (slotTexts slots) ++ ['\x7d']

/-- The texts of the members of a node's document. -/
def slotTexts : List (String × Slot) → List (List Char)
  | [] => []
  | (name, slot) :: rest =>
    (Json.stringChars name ++ ':' :: Slot.compactChars slot) :: slotTexts rest

/-- The text of a slot's document. -/
def Slot.compactChars : Slot → List Char
  | .single value => Value.compactChars value
  | .items values => '[' :: Json.commaSeparated (valueTexts values) ++ [']']

/-- The text of a value's document. -/
def Value.compactChars : Value → List Char
  | .node node => Node.compactChars node
  | .list items => '[' :: Json.commaSeparated (valueTexts items) ++ [']']
  | .json value => value.compactChars

/-- The texts of the documents of values. -/
def valueTexts : List Value → List (List Char)
  | [] => []
  | value :: rest => Value.compactChars value :: valueTexts rest

end

namespace Node

/-- The text of the node's document in a format. -/
def render (node : Node) (format : OutputFormat) : String := format.render node.toJson

/-- The text of the node's document, written straight from the tree. -/
def compact (node : Node) : String := String.ofList node.compactChars

end Node

end SchemaNodes
