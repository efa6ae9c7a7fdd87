import SchemaNodes.Node.Document
import SchemaNodes.Node.Serializer
import SchemaNodes.Proofs.Json.Canonical
import SchemaNodes.Proofs.Node.WellFormed

/-!
# Serializing a node

A tree of nodes is turned into its document in two ways: `Node.toJson` builds a value, and
`Node.serialize` walks the tree itself, whatever is made of it on the way. Walking the tree comes to
the same as building the value and walking that, for every serializer at once
(`Node.serialize_eq`); values and texts are two of them.

* **`Node.serialize_eq`**: the induction over the tree, one lemma for each part of it.
* **`Json.serialize_value`**, **`Json.serialize_text`**: what the two serializers make of a value.
* **`Node.KeysAscend`**: the trees whose slots and leaves are dictionaries.
* **`Node.serialize_agrees`**: value and text of a tree, walked or built.
-/

namespace SchemaNodes

variable {α : Type}

/-! ## Trees and their documents -/

mutual

/-- **The induction over the tree.** Walking a tree is walking its document. -/
theorem Node.serialize_eq (s : Serializer α) : ∀ node : Node,
    node.serialize s = node.toJson.serialize s
  | .mk _ _ slots => by
    rw [Node.serialize, Node.toJson, Json.serialize, serializeSlots_eq s slots]

theorem serializeSlots_eq (s : Serializer α) : ∀ slots : List (String × Slot),
    serializeSlots s slots = Json.serializeMembers s (slotMembers slots)
  | [] => rfl
  | (name, slot) :: rest => by
    rw [serializeSlots, slotMembers, Json.serializeMembers, Slot.serialize_eq s slot,
      serializeSlots_eq s rest]

theorem Slot.serialize_eq (s : Serializer α) : ∀ slot : Slot,
    slot.serialize s = slot.toJson.serialize s
  | .single value => by rw [Slot.serialize, Slot.toJson, Value.serialize_eq s value]
  | .items values => by
    rw [Slot.serialize, Slot.toJson, Json.serialize, serializeValues_eq s values]

theorem Value.serialize_eq (s : Serializer α) : ∀ value : Value,
    value.serialize s = value.toJson.serialize s
  | .node node => by rw [Value.serialize, Value.toJson, Node.serialize_eq s node]
  | .list items => by
    rw [Value.serialize, Value.toJson, Json.serialize, serializeValues_eq s items]
  | .json leaf => by rw [Value.serialize, Value.toJson]

theorem serializeValues_eq (s : Serializer α) : ∀ values : List Value,
    serializeValues s values = Json.serializeItems s (valueItems values)
  | [] => rfl
  | value :: rest => by
    rw [serializeValues, valueItems, Json.serializeItems, Value.serialize_eq s value,
      serializeValues_eq s rest]

end

/-! ## Values and texts -/

namespace Json

mutual

/-- What is built of a value is the value with its members put together anew. -/
theorem serialize_value : ∀ v : Json, v.serialize .value = v.canonical
  | .null | .bool _ | .number _ | .string _ => rfl
  | .array items => by rw [serialize, canonical, ← serializeItems_value items]; rfl
  | .object members => by rw [serialize, canonical, ← serializeMembers_value members]; rfl

theorem serializeItems_value : ∀ items : List Json,
    serializeItems .value items = canonicalItems items
  | [] => rfl
  | item :: rest => by
    rw [serializeItems, canonicalItems, serialize_value item, serializeItems_value rest]

theorem serializeMembers_value : ∀ members : List (String × Json),
    serializeMembers .value members = canonicalMembers members
  | [] => rfl
  | (name, value) :: rest => by
    rw [serializeMembers, canonicalMembers, serialize_value value, serializeMembers_value rest]

end

mutual

theorem serialize_text : ∀ v : Json, v.serialize .text = v.compactChars
  | .null | .bool _ | .number _ | .string _ => rfl
  | .array items => by rw [serialize, compactChars, ← serializeItems_text items]; rfl
  | .object members => by rw [serialize, compactChars, ← serializeMembers_text members]; rfl

theorem serializeItems_text : ∀ items : List Json,
    serializeItems .text items = compactItems items
  | [] => rfl
  | item :: rest => by
    rw [serializeItems, compactItems, serialize_text item, serializeItems_text rest]

/-- The text of a member is put together by the serializer, when all values are there. -/
theorem serializeMembers_text : ∀ members : List (String × Json),
    (serializeMembers .text members).map (fun member => stringChars member.1 ++ ':' :: member.2) =
      compactMembers members
  | [] => rfl
  | (name, value) :: rest => by
    rw [serializeMembers, compactMembers, List.map_cons, serialize_text value,
      serializeMembers_text rest]

end

end Json

mutual

/-- The text that is written straight from a tree is that of the text serializer. -/
theorem Node.serialize_text : ∀ node : Node, node.serialize .text = node.compactChars
  | .mk _ _ slots => by rw [Node.serialize, Node.compactChars, ← serializeSlots_text slots]; rfl

theorem serializeSlots_text : ∀ slots : List (String × Slot),
    (serializeSlots .text slots).map (fun member => Json.stringChars member.1 ++ ':' :: member.2) =
      slotTexts slots
  | [] => rfl
  | (name, slot) :: rest => by
    rw [serializeSlots, slotTexts, List.map_cons, Slot.serialize_text slot,
      serializeSlots_text rest]

theorem Slot.serialize_text : ∀ slot : Slot, slot.serialize .text = slot.compactChars
  | .single value => by rw [Slot.serialize, Slot.compactChars, Value.serialize_text value]
  | .items values => by
    rw [Slot.serialize, Slot.compactChars, ← serializeValues_text values]
    rfl

theorem Value.serialize_text : ∀ value : Value, value.serialize .text = value.compactChars
  | .node node => by rw [Value.serialize, Value.compactChars, Node.serialize_text node]
  | .list items => by
    rw [Value.serialize, Value.compactChars, ← serializeValues_text items]
    rfl
  | .json leaf => by rw [Value.serialize, Value.compactChars, leaf.serialize_text]

theorem serializeValues_text : ∀ values : List Value,
    serializeValues .text values = valueTexts values
  | [] => rfl
  | value :: rest => by
    rw [serializeValues, valueTexts, Value.serialize_text value, serializeValues_text rest]

end

/-! ## Order of the keys

Slots and the members of leaves come from dictionaries, so they are in ascending order. -/

mutual

/-- The slots of every node in the tree, and the members of every object in its leaves, are in
ascending order of distinct names. -/
def Node.KeysAscend : Node → Prop
  | .mk _ _ slots => Entries.Sorted slots ∧ slotsKeysAscend slots

def slotsKeysAscend : List (String × Slot) → Prop
  | [] => True
  | (_, slot) :: rest => slot.KeysAscend ∧ slotsKeysAscend rest

def Slot.KeysAscend : Slot → Prop
  | .single value => value.KeysAscend
  | .items values => valuesKeysAscend values

def Value.KeysAscend : Value → Prop
  | .node node => node.KeysAscend
  | .list items => valuesKeysAscend items
  | .json leaf => leaf.Sorted

def valuesKeysAscend : List Value → Prop
  | [] => True
  | value :: rest => value.KeysAscend ∧ valuesKeysAscend rest

end

theorem slotMembers_eq_mapValues (slots : List (String × Slot)) :
    slotMembers slots = Entries.mapValues Slot.toJson slots := by
  induction slots with
  | nil => rfl
  | cons entry rest ih =>
    rw [slotMembers, ih]
    rfl

mutual

/-- The document of such a tree has its keys in ascending order at every level. -/
theorem Node.sorted_toJson : ∀ {node : Node}, node.KeysAscend → node.toJson.Sorted
  | .mk _ _ slots, h => by
    rw [Node.KeysAscend] at h
    have hkeys : Entries.Sorted (slotMembers slots) := by
      rw [slotMembers_eq_mapValues]
      exact h.1.mapValues Slot.toJson
    rw [Node.toJson, Json.Sorted]
    exact ⟨hkeys, sorted_slotMembers h.2⟩

theorem sorted_slotMembers : ∀ {slots : List (String × Slot)}, slotsKeysAscend slots →
    Json.SortedMembers (slotMembers slots)
  | [], _ => trivial
  | (_, _) :: _, h => by
    rw [slotsKeysAscend] at h
    exact ⟨Slot.sorted_toJson h.1, sorted_slotMembers h.2⟩

theorem Slot.sorted_toJson : ∀ {slot : Slot}, slot.KeysAscend → slot.toJson.Sorted
  | .single _, h => by
    rw [Slot.KeysAscend] at h
    exact Value.sorted_toJson h
  | .items _, h => by
    rw [Slot.KeysAscend] at h
    exact sorted_valueItems h

theorem Value.sorted_toJson : ∀ {value : Value}, value.KeysAscend → value.toJson.Sorted
  | .node _, h => by
    rw [Value.KeysAscend] at h
    exact Node.sorted_toJson h
  | .list _, h => by
    rw [Value.KeysAscend] at h
    exact sorted_valueItems h
  | .json _, h => h

theorem sorted_valueItems : ∀ {values : List Value}, valuesKeysAscend values →
    Json.SortedItems (valueItems values)
  | [], _ => trivial
  | _ :: _, h => by
    rw [valuesKeysAscend] at h
    exact ⟨Value.sorted_toJson h.1, sorted_valueItems h.2⟩

end

/-! ## One document -/

namespace Node

/-- **Walking a tree and building its document agree.** For every tree whose slots and leaves are in
order, at any depth and with any mixture of nodes, lists and leaves: every serializer makes the same
of the tree as of its document. The value that is built on the walk is the document, the text that
is written on it is the compact text of the document, and the keys ascend at every level. -/
theorem serialize_agrees {node : Node} (h : node.KeysAscend) :
    (∀ {α : Type} (s : Serializer α), node.serialize s = node.toJson.serialize s) ∧
      node.serialize .value = node.toJson ∧
      String.ofList (node.serialize .text) = node.compact ∧
      node.compact = node.render .compact ∧
      node.toJson.Sorted := by
  have hsorted : node.toJson.Sorted := sorted_toJson h
  have hvalue : node.serialize .value = node.toJson := by
    rw [serialize_eq, Json.serialize_value, Json.canonical_of_sorted hsorted]
  have htext : node.compactChars = node.toJson.compactChars := by
    rw [← serialize_text, serialize_eq, Json.serialize_text]
  refine ⟨fun s => serialize_eq s node, hvalue, ?_, ?_, hsorted⟩
  · rw [compact, serialize_text]
  · rw [compact, htext]
    rfl

/-- A policy with a rule, a nested list and a leaf with members of its own. -/
theorem serialize_agrees_sample :
    let rule := sampleRule (.object [("de", .array [.null]), ("en", .string "one")])
    let policy := (fresh sampleRegistry 0).put "rules"
      (.items [.node rule, .list [.json (.bool true), .list []]])
    policy.KeysAscend ∧ policy.serialize .value = policy.toJson ∧
      policy.render .compact =
        "\x7b\"rules\":[\x7b\"title\":\x7b\"de\":[null],\"en\":\"one\"\x7d\x7d,[true,[]]]\x7d" := by
  intro rule policy
  have h : policy.KeysAscend := by
    refine ⟨by decide, ?_, trivial⟩
    refine ⟨⟨by decide, ?_, trivial⟩, ⟨trivial, trivial, trivial⟩, trivial⟩
    exact ⟨by decide, ⟨trivial, trivial⟩, trivial, trivial⟩
  obtain ⟨-, hvalue, htext, hcompact, -⟩ := serialize_agrees h
  refine ⟨h, hvalue, ?_⟩
  rw [← hcompact, ← htext]
  decide

end Node

end SchemaNodes
