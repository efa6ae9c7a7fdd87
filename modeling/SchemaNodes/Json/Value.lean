import SchemaNodes.Dict
import SchemaNodes.Number.Binary64

/-!
# JSON values

The tree of a JSON document. Integers from `-2^63` up to `2^64 - 1` are exact and every other number
is binary64. The members of an object are a plain list: a reader leaves them as they stand in the
text, and `Json.canonical` brings them into the form that documents are stored and written in,
sorted by key with the last of several equal keys kept.
-/

namespace SchemaNodes

/-- A JSON number. -/
inductive JsonNumber where
  /-- A whole number in the range of signed or unsigned words of 64 bits. -/
  | integer (value : Int)
  /-- Any other number. -/
  | double (value : Binary64)
  deriving DecidableEq, Repr, Inhabited

/-- A JSON value. -/
inductive Json where
  | null
  | bool (value : Bool)
  | number (value : JsonNumber)
  | string (value : String)
  | array (items : List Json)
  | object (members : List (String × Json))
  deriving Repr, Inhabited

/-- Equality of numbers: exact for integers, numerical for doubles, and never across the two. -/
def JsonNumber.same : JsonNumber → JsonNumber → Bool
  | .integer a, .integer b => a == b
  | .double a, .double b => a.same b
  | _, _ => false

namespace Json

/-- The number of an integer. -/
def ofInt (n : Int) : Json := .number (.integer n)

/-- A binary64 number; what is not finite has no JSON form and becomes null. -/
def ofBinary64 (x : Binary64) : Json :=
  if x.isFinite then .number (.double x) else .null

/-- An object of the members, in name order. -/
def ofEntries (members : Entries Json) : Json := .object (Entries.insertAll members [])

mutual

/-- The value with the members of every object sorted by key, the last of equal keys kept. -/
def canonical : Json → Json
  | .array items => .array (canonicalItems items)
  | .object members => .object (Entries.insertAll (canonicalMembers members) [])
  | other => other

/-- The canonical forms of the items. -/
def canonicalItems : List Json → List Json
  | [] => []
  | item :: rest => canonical item :: canonicalItems rest

/-- The members with canonical values, in their order. -/
def canonicalMembers : List (String × Json) → List (String × Json)
  | [] => []
  | (name, value) :: rest => (name, canonical value) :: canonicalMembers rest

end

mutual

/-- Equality of values: member for member, with numbers compared by `JsonNumber.same`. -/
def same : Json → Json → Bool
  | .null, .null => true
  | .bool a, .bool b => a == b
  | .number a, .number b => a.same b
  | .string a, .string b => a == b
  | .array as, .array bs => sameItems as bs
  | .object as, .object bs => sameMembers as bs
  | _, _ => false

/-- Equality of items in order. -/
def sameItems : List Json → List Json → Bool
  | [], [] => true
  | a :: as, b :: bs => same a b && sameItems as bs
  | _, _ => false

/-- Equality of members in order. -/
def sameMembers : List (String × Json) → List (String × Json) → Bool
  | [], [] => true
  | (k, a) :: as, (l, b) :: bs => k == l && same a b && sameMembers as bs
  | _, _ => false

end

mutual

/-- Every object in the value has its members in ascending order of distinct keys. -/
def Sorted : Json → Prop
  | .array items => SortedItems items
  | .object members => Entries.Sorted members ∧ SortedMembers members
  | _ => True

/-- Every item is sorted. -/
def SortedItems : List Json → Prop
  | [] => True
  | item :: rest => Sorted item ∧ SortedItems rest

/-- Every member's value is sorted. -/
def SortedMembers : List (String × Json) → Prop
  | [] => True
  | (_, value) :: rest => Sorted value ∧ SortedMembers rest

end

/-- The text of a string value. -/
def asString? : Json → Option String
  | .string value => some value
  | _ => none

/-- The items of an array. -/
def asArray? : Json → Option (List Json)
  | .array items => some items
  | _ => none

/-- The value under a key of an object. -/
def member? (name : String) : Json → Option Json
  | .object members => Entries.find? name members
  | _ => none

end Json

end SchemaNodes
