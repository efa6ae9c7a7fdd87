import SchemaNodes.Node.Document
import SchemaNodes.Proofs.Node.Operation
import SchemaNodes.Proofs.Registry.Extension

/-!
# Trees that cannot be told apart

Two trees may differ in the registries that their nodes come from, and in whether an array was
handed in as a leaf or as the list of its items, and still go through every operation side by side.
A `Correspondence` says which kinds stand for one another, with the laws that the operations rely
on: names lead to matching attributes, and the check of a node, which compares registries and ids,
comes out the same on both sides.

* **`Node.Alike`**, **`Value.Alike`**: trees of corresponding kinds with the same slots in the same
  shapes. Alike trees have one document (`toJson_eq`).
* **`splice_alike`**: splicing keeps values alike, though it takes lists and array leaves apart by
  branches of their own.
* **`Node.Alike.slot?`**, **`Node.Alike.put`**, **`Node.Alike.child?`**: reading and writing goes
  side by side.
-/

namespace SchemaNodes

/-- Which kinds of which registries stand for one another. -/
structure Correspondence where
  kinds : Registry → Nat → Registry → Nat → Prop
  /-- Whether an array leaf also stands for the list of its items. -/
  unpacks : Prop
  name_eq : ∀ {r k r' k'}, kinds r k r' k' → (r'.kind k').name = (r.kind k).name
  /-- The kinds are called by the same names, -/
  names_eq : ∀ {r k r' k'}, kinds r k r' k' →
    (r'.kind k').accessors.keys = (r.kind k).accessors.keys
  /-- and these lead to the same attributes. -/
  accessor : ∀ {r k r' k'}, kinds r k r' k' → ∀ name,
    Option.Rel (Attribute.Matches kinds r r') ((r.kind k).accessor? name)
      ((r'.kind k').accessor? name)
  /-- A registry stands for one registry, -/
  registry_iff : ∀ {r k r' k' s l s' l'}, kinds r k r' k' → kinds s l s' l' → (s' = r' ↔ s = r)
  /-- and a kind of it for one kind. -/
  id_iff : ∀ {r k l r' k' l'}, kinds r k r' k' → kinds r l r' l' → (l' = k' ↔ l = k)

/-! ## Alike trees -/

section Trees

variable (c : Correspondence)

mutual

/-- Nodes of corresponding kinds with alike slots under the same names. -/
inductive Node.Alike : Node → Node → Prop where
  | mk {r r' : Registry} {k k' : Nat} {slots slots' : List (String × Slot)}
      (hkinds : c.kinds r k r' k') (hslots : List.Forall₂ Entry.Alike slots slots') :
      Node.Alike (.mk r k slots) (.mk r' k' slots')

/-- Alike slots under one name. -/
inductive Entry.Alike : String × Slot → String × Slot → Prop where
  | mk (name : String) {slot slot' : Slot} (h : Slot.Alike slot slot') :
      Entry.Alike (name, slot) (name, slot')

/-- Slots of one shape with alike values. -/
inductive Slot.Alike : Slot → Slot → Prop where
  | single {value value' : Value} (h : Value.Alike value value') :
      Slot.Alike (.single value) (.single value')
  | items {values values' : List Value} (h : List.Forall₂ Value.Alike values values') :
      Slot.Alike (.items values) (.items values')

/-- Alike nodes, lists of alike items, or the same leaf. Where the correspondence unpacks, a leaf is
also alike to the value that its arrays make when they are turned into lists. -/
inductive Value.Alike : Value → Value → Prop where
  | node {node node' : Node} (h : Node.Alike node node') : Value.Alike (.node node) (.node node')
  | list {items items' : List Value} (h : List.Forall₂ Value.Alike items items') :
      Value.Alike (.list items) (.list items')
  | leaf (leaf : Json) : Value.Alike (.json leaf) (.json leaf)
  | unpacked {leaf : Json} {value : Value} (h : c.unpacks) (hvalue : value = .ofJson leaf) :
      Value.Alike (.json leaf) value

end

end Trees

/-! ## One document -/

mutual

/-- The document of a leaf does not show whether its arrays were turned into lists. -/
theorem Value.toJson_ofJson : ∀ leaf : Json, (Value.ofJson leaf).toJson = leaf
  | .array items => by rw [ofJson, toJson, Value.valueItems_ofItems items]
  | .null | .bool _ | .number _ | .string _ | .object _ => rfl

theorem Value.valueItems_ofItems : ∀ items : List Json, valueItems (Value.ofItems items) = items
  | [] => rfl
  | item :: rest => by
    rw [ofItems, valueItems, Value.toJson_ofJson item, Value.valueItems_ofItems rest]

end

section Documents

variable {c : Correspondence}

mutual

/-- Alike nodes have one document. The recursion is over the first tree. -/
theorem Node.Alike.toJson_eq : ∀ {node node' : Node}, node.Alike c node' →
    node'.toJson = node.toJson
  | .mk _ _ _, .mk _ _ _, .mk _ hslots => by
    rw [Node.toJson, Node.toJson, slotMembers_alike hslots]

theorem slotMembers_alike : ∀ {slots slots' : List (String × Slot)},
    List.Forall₂ (Entry.Alike c) slots slots' → slotMembers slots' = slotMembers slots
  | [], [], _ => rfl
  | (_, _) :: _, (_, _) :: _, .cons (.mk _ hslot) hrest => by
    rw [slotMembers, slotMembers, Slot.Alike.toJson_eq hslot, slotMembers_alike hrest]

theorem Slot.Alike.toJson_eq : ∀ {slot slot' : Slot}, slot.Alike c slot' →
    slot'.toJson = slot.toJson
  | .single _, .single _, .single h => by
    rw [Slot.toJson, Slot.toJson, Value.Alike.toJson_eq h]
  | .items _, .items _, .items h => by
    rw [Slot.toJson, Slot.toJson, valueItems_alike h]

theorem Value.Alike.toJson_eq : ∀ {value value' : Value}, value.Alike c value' →
    value'.toJson = value.toJson
  | .node _, .node _, .node h => by
    rw [Value.toJson, Value.toJson, Node.Alike.toJson_eq h]
  | .list _, .list _, .list h => by
    rw [Value.toJson, Value.toJson, valueItems_alike h]
  | .json _, _, .leaf _ => rfl
  | .json leaf, _, .unpacked _ hvalue => by
    rw [hvalue, Value.toJson_ofJson, Value.toJson]

theorem valueItems_alike : ∀ {values values' : List Value},
    List.Forall₂ (Value.Alike c) values values' → valueItems values' = valueItems values
  | [], [], _ => rfl
  | _ :: _, _ :: _, .cons h hrest => by
    rw [valueItems, valueItems, Value.Alike.toJson_eq h, valueItems_alike hrest]

end

end Documents

/-! ## Splicing

Each form of an array is spliced by its own rule: a list gives its items as they are, a leaf gives
leaves. The items are alike again, so that nothing has to be known about deeper levels. -/

section Splicing

variable {c : Correspondence}

theorem forall₂_ofItems (h : c.unpacks) (items : List Json) :
    List.Forall₂ (Value.Alike c) (items.map .json) (Value.ofItems items) := by
  induction items with
  | nil => exact .nil
  | cons item rest ih => exact .cons (.unpacked h rfl) ih

theorem forall₂_leaves (items : List Json) :
    List.Forall₂ (Value.Alike c) (items.map .json) (items.map .json) := by
  induction items with
  | nil => exact .nil
  | cons item rest ih => exact .cons (.leaf item) ih

theorem Value.Alike.splice {value value' : Value} (h : value.Alike c value') :
    List.Forall₂ (Value.Alike c) (SchemaNodes.splice [value]) (SchemaNodes.splice [value']) := by
  cases h with
  | node hnode => exact .cons (.node hnode) .nil
  | list hitems => simpa [SchemaNodes.splice] using hitems
  | leaf leaf =>
    cases leaf with
    | array items => simpa [SchemaNodes.splice] using forall₂_leaves items
    | null | bool _ | number _ | string _ | object _ => exact .cons (.leaf _) .nil
  | @unpacked leaf _ hunpacks hvalue =>
    subst hvalue
    -- the leaf gives its items as leaves, the list gives them unpacked
    cases leaf with
    | array items => simpa [SchemaNodes.splice, Value.ofJson] using forall₂_ofItems hunpacks items
    | null | bool _ | number _ | string _ | object _ => exact .cons (.leaf _) .nil

theorem splice_alike {values values' : List Value}
    (h : List.Forall₂ (Value.Alike c) values values') :
    List.Forall₂ (Value.Alike c) (splice values) (splice values') := by
  induction h with
  | nil => exact .nil
  | @cons value value' rest rest' hvalue _ ih =>
    rw [splice_cons, splice_cons value']
    exact List.rel_append hvalue.splice ih

/-- The items of a call with a block: as many on both sides, and alike. -/
theorem blockItems_alike {values values' : List Value}
    (h : List.Forall₂ (Value.Alike c) values values') :
    List.Forall₂ (Option.Rel (Value.Alike c)) (Node.blockItems values)
      (Node.blockItems values') := by
  cases h with
  | nil => exact .cons .none .nil
  | cons hvalue hrest =>
    refine List.forall₂_map_left_iff.2 (List.forall₂_map_right_iff.2 ?_)
    exact (splice_alike (.cons hvalue hrest)).imp fun _ _ h => .some h

end Splicing

/-! ## Reading and writing alike nodes -/

/-- No leaf is a node, in whichever form its arrays are. -/
theorem Value.asNode?_ofJson (leaf : Json) : (ofJson leaf).asNode? = none := by
  cases leaf with
  | array _ | null | bool _ | number _ | string _ | object _ => rfl

theorem Value.Alike.asNode? {c : Correspondence} {value value' : Value} (h : value.Alike c value') :
    Option.Rel (Node.Alike c) value.asNode? value'.asNode? := by
  cases h with
  | node hnode => exact .some hnode
  | list _ => exact .none
  | leaf _ => exact .none
  | unpacked _ hvalue =>
    rw [hvalue, Value.asNode?_ofJson]
    exact .none

theorem Slot.Alike.asNode? {c : Correspondence} {slot slot' : Slot} (h : slot.Alike c slot') :
    Option.Rel (Node.Alike c) slot.asNode? slot'.asNode? := by
  cases h with
  | single hvalue => exact hvalue.asNode?
  | items _ => exact .none

namespace Node

variable {c : Correspondence} {node node' : Node}

theorem Alike.kinds (h : node.Alike c node') :
    c.kinds node.registry node.kindId node'.registry node'.kindId := by
  cases h with
  | mk hkinds _ => exact hkinds

theorem Alike.slots (h : node.Alike c node') :
    List.Forall₂ (Entry.Alike c) node.slots node'.slots := by
  cases h with
  | mk _ hslots => exact hslots

theorem Alike.kindName_eq (h : node.Alike c node') : node'.kindName = node.kindName :=
  c.name_eq h.kinds

theorem Alike.accessor? (h : node.Alike c node') (name : String) :
    Option.Rel (Attribute.Matches c.kinds node.registry node'.registry)
      (node.kind.accessor? name) (node'.kind.accessor? name) :=
  c.accessor h.kinds name

theorem Alike.unknownAccessor_eq (h : node.Alike c node') (name : String) :
    node'.unknownAccessor name = node.unknownAccessor name := by
  have hnames : node'.kind.accessors.keys = node.kind.accessors.keys := c.names_eq h.kinds
  rw [unknownAccessor, unknownAccessor, h.kindName_eq, hnames]

/-- Fresh nodes of the targets of matching attributes. -/
theorem Alike.spawn {a a' : Attribute} (ha : a.Matches c.kinds node.registry node'.registry a') :
    (node.spawn a.target).Alike c (node'.spawn a'.target) :=
  .mk ha.target .nil

/-! A look-up and an insertion compare names only, which are the same on both sides. -/

theorem find?_alike {slots slots' : Entries Slot} (h : List.Forall₂ (Entry.Alike c) slots slots')
    (attr : String) : Option.Rel (Slot.Alike c) (slots.find? attr) (slots'.find? attr) := by
  induction h with
  | nil => exact .none
  | cons hentry _ ih =>
    cases hentry with
    | mk name hslot =>
      rw [Entries.find?_cons, Entries.find?_cons]
      by_cases hname : name = attr
      · rw [if_pos hname, if_pos hname]
        exact .some hslot
      · rw [if_neg hname, if_neg hname]
        exact ih

theorem insert_alike {slots slots' : Entries Slot} (h : List.Forall₂ (Entry.Alike c) slots slots')
    (attr : String) {slot slot' : Slot} (hslot : slot.Alike c slot') :
    List.Forall₂ (Entry.Alike c) (slots.insert attr slot) (slots'.insert attr slot') := by
  induction h with
  | nil => exact .cons (.mk attr hslot) .nil
  | cons hentry hrest ih =>
    cases hentry with
    | mk name hold =>
      unfold Entries.insert
      by_cases hlt : attr < name
      · rw [if_pos hlt, if_pos hlt]
        exact .cons (.mk attr hslot) (.cons (.mk name hold) hrest)
      · rw [if_neg hlt, if_neg hlt]
        by_cases heq : attr = name
        · rw [if_pos heq, if_pos heq]
          exact .cons (.mk attr hslot) hrest
        · rw [if_neg heq, if_neg heq]
          exact .cons (.mk name hold) ih

theorem Alike.slot? (h : node.Alike c node') (attr : String) :
    Option.Rel (Slot.Alike c) (node.slot? attr) (node'.slot? attr) :=
  find?_alike h.slots attr

theorem Alike.put (h : node.Alike c node') (attr : String) {slot slot' : Slot}
    (hslot : slot.Alike c slot') : (node.put attr slot).Alike c (node'.put attr slot') :=
  .mk h.kinds (insert_alike h.slots attr hslot)

theorem Alike.listOf (h : node.Alike c node') (attr : String) :
    List.Forall₂ (Value.Alike c) (node.listOf attr) (node'.listOf attr) := by
  unfold Node.listOf
  match node.slot? attr, node'.slot? attr, h.slot? attr with
  | _, _, .none => exact .nil
  | _, _, .some (.single _) => exact .nil
  | _, _, .some (.items hvalues) => exact hvalues

theorem Alike.storageName_eq (h : node.Alike c node') (name : String) :
    node'.storageName name = node.storageName name := by
  unfold storageName
  match node.kind.accessor? name, node'.kind.accessor? name, h.accessor? name with
  | _, _, .none => rfl
  | _, _, .some ha => exact ha.name_eq

theorem Alike.child? (h : node.Alike c node') (name : String) :
    Option.Rel (Node.Alike c) (node.child? name) (node'.child? name) := by
  unfold Node.child? attr?
  rw [h.storageName_eq]
  match node.slot? (node.storageName name), node'.slot? (node.storageName name),
    h.slot? (node.storageName name) with
  | _, _, .none => exact .none
  | _, _, .some hslot => exact hslot.asNode?

theorem Alike.setChild {child child' : Node} (h : node.Alike c node') (name : String)
    (hchild : child.Alike c child') :
    (node.setChild name child).Alike c (node'.setChild name child') := by
  unfold Node.setChild
  rw [h.storageName_eq]
  exact h.put _ (.single (.node hchild))

end Node

end SchemaNodes
