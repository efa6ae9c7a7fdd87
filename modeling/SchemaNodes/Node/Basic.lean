import SchemaNodes.Json.Value
import SchemaNodes.Naming.Suggestion
import SchemaNodes.Registry.Basic
import SchemaNodes.Registry.Error

/-!
# Nodes

A node is an instance of a kind: it holds a slot for every attribute that has been assigned, under
the declared name. A slot of a scalar attribute holds one value, a slot of a list attribute any
number. Values are nodes, positional lists and plain JSON leaves.

Every reading operation goes through the accessor table of the node's kind, so all names of an
attribute lead to its one slot.
-/

namespace SchemaNodes

mutual

/-- An instance of a kind of a registry, with the slots of its attributes in name order. -/
inductive Node where
  | mk (registry : Registry) (kindId : Nat) (slots : List (String × Slot))

/-- What an attribute holds. -/
inductive Slot where
  /-- One value. -/
  | single (value : Value)
  /-- Values in the order they were added. -/
  | items (values : List Value)

/-- A value of an attribute. -/
inductive Value where
  /-- A child node. -/
  | node (node : Node)
  /-- A list that is given in one place. -/
  | list (items : List Value)
  /-- A leaf. -/
  | json (value : Json)

end

instance : Inhabited Node := ⟨.mk default 0 []⟩

instance : Inhabited Value := ⟨.json .null⟩

instance : Inhabited Slot := ⟨.items []⟩

namespace Value

mutual

/-- The value of a document, whose arrays become lists at every level of nesting. -/
def ofJson : Json → Value
  | .array items => .list (ofItems items)
  | other => .json other

/-- The values of the items. -/
def ofItems : List Json → List Value
  | [] => []
  | item :: rest => ofJson item :: ofItems rest

end

/-- The node, if the value is one. -/
def asNode? : Value → Option Node
  | .node n => some n
  | _ => none

/-- The leaf, if the value is one. -/
def asJson? : Value → Option Json
  | .json value => some value
  | _ => none

/-- The text, if the value is a leaf that is a string. -/
def asString? (value : Value) : Option String := value.asJson?.bind Json.asString?

end Value

namespace Slot

/-- The value of a scalar attribute. -/
def asSingle? : Slot → Option Value
  | .single value => some value
  | .items _ => none

/-- The values of a list attribute. -/
def asItems? : Slot → Option (List Value)
  | .single _ => none
  | .items values => some values

/-- The child node of a scalar attribute. -/
def asNode? (slot : Slot) : Option Node := slot.asSingle?.bind Value.asNode?

end Slot

namespace Node

/-- A node without slots. -/
def fresh (registry : Registry) (kindId : Nat) : Node := .mk registry kindId []

/-- The registry that made the node. -/
def registry : Node → Registry
  | .mk registry _ _ => registry

/-- The id of the node's kind. -/
def kindId : Node → Nat
  | .mk _ kindId _ => kindId

/-- The slots by declared name. -/
def slots : Node → Entries Slot
  | .mk _ _ slots => slots

/-- The node's kind. -/
def kind (node : Node) : Kind := node.registry.kind node.kindId

/-- The name of the node's kind. -/
def kindName (node : Node) : String := node.kind.name

/-- Whether no attribute has been assigned. -/
def isEmpty (node : Node) : Bool := node.slots.isEmpty

/-- A fresh node of a kind of the same registry. -/
def spawn (node : Node) (kindId : Nat) : Node := .fresh node.registry kindId

/-- The slot of a declared name. -/
def slot? (node : Node) (attr : String) : Option Slot := node.slots.find? attr

/-- The node with a slot in place. -/
def put (node : Node) (attr : String) (slot : Slot) : Node :=
  .mk node.registry node.kindId (node.slots.insert attr slot)

/-- The declared name that a callable name leads to; any other name stands for itself. -/
def storageName (node : Node) (name : String) : String :=
  match node.kind.accessor? name with
  | some a => a.name
  | none => name

/-- The slot that a name leads to. -/
def attr? (node : Node) (name : String) : Option Slot := node.slot? (node.storageName name)

/-- The error of a name that leads nowhere. -/
def unknownAccessor (node : Node) (name : String) : BuildError :=
  .unknownAccessor node.kindName name (Naming.suggest name node.kind.accessors.keys)

/-- The slot that a callable name leads to; nothing is changed by looking. -/
def query (node : Node) (name : String) : Except BuildError (Option Slot) :=
  match node.kind.accessor? name with
  | some a => .ok (node.slot? a.name)
  | none => .error (node.unknownAccessor name)

/-- The child node that a name leads to. -/
def child? (node : Node) (name : String) : Option Node := (node.attr? name).bind Slot.asNode?

/-- The node with another child in the place that a name leads to. -/
def setChild (node : Node) (name : String) (child : Node) : Node :=
  node.put (node.storageName name) (.single (.node child))

/-! ## Putting a slot in place -/

/-- The slot that was put is there, and every other slot is as it was. -/
theorem slot?_put (node : Node) (attr other : String) (slot : Slot) :
    (node.put attr slot).slot? other = if other = attr then some slot else node.slot? other :=
  Entries.find?_insert attr other slot node.slots

/-- Of two slots put in one place the later counts. -/
theorem put_put (node : Node) (attr : String) (first second : Slot) :
    (node.put attr first).put attr second = node.put attr second := by
  simp [put, registry, kindId, slots, Entries.insert_insert]

end Node

namespace Registry

/-- An empty node of the kind of a name. -/
def instantiate (registry : Registry) (name : String) : Except BuildError Node :=
  match registry.lookup? name with
  | some kind => .ok (.fresh registry kind.id)
  | none => .error (.unknownType name (Naming.suggest name (registry.kinds.map (·.name))))

end Registry

/-! ## Equality

Nodes are equal if they come from one registry and have the same kind and equal slots. -/

mutual

/-- Equality of nodes. -/
def Node.same : Node → Node → Bool
  | .mk r k as, .mk s l bs => r = s && k == l && sameSlots as bs

/-- Equality of slots by name. -/
def sameSlots : List (String × Slot) → List (String × Slot) → Bool
  | [], [] => true
  | (m, a) :: as, (n, b) :: bs => m == n && Slot.same a b && sameSlots as bs
  | _, _ => false

/-- Equality of slots. -/
def Slot.same : Slot → Slot → Bool
  | .single a, .single b => Value.same a b
  | .items as, .items bs => sameValues as bs
  | _, _ => false

/-- Equality of values. -/
def Value.same : Value → Value → Bool
  | .node a, .node b => Node.same a b
  | .list as, .list bs => sameValues as bs
  | .json a, .json b => a.same b
  | _, _ => false

/-- Equality of values in order. -/
def sameValues : List Value → List Value → Bool
  | [], [] => true
  | a :: as, b :: bs => Value.same a b && sameValues as bs
  | _, _ => false

end

end SchemaNodes
