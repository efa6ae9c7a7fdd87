import SchemaNodes.Number.Text
import SchemaNodes.Settings.Tree

/-!
# Key paths

The keys at the top of a source can lead to a setting at any depth: `a.b` is the member `b` of the
table `a`, and `a[0]` the first item of the list `a`. A key that is no such path stands for itself.
-/

namespace SchemaNodes

/-- A step of a key path. -/
inductive KeyStep where
  | member (name : String)
  /-- An item of a list; a negative index counts from the end. -/
  | item (index : Int)
  deriving DecidableEq, Repr, Inhabited

namespace KeyStep

/-! ## Reading -/

/-- The characters of the names in a path. -/
def isNameChar (c : Char) : Bool := c.isAlphanum || c == ' ' || c == '_' || c == '-'

/-- A name at the beginning of a text. -/
def name? (cs : List Char) : Option (String × List Char) :=
  let name := cs.takeWhile isNameChar
  if name.isEmpty then none else some (String.ofList name, cs.dropWhile isNameChar)

/-- A text without the spaces and tabs around it. -/
def trim (cs : List Char) : List Char :=
  let isSpace (c : Char) : Bool := c == ' ' || c == '\t'
  ((cs.dropWhile isSpace).reverse.dropWhile isSpace).reverse

/-- An index up to its closing bracket, with spaces and tabs around it. -/
def index? (cs : List Char) : Option (Int × List Char) := do
  let trimmed := trim (cs.takeWhile (· ≠ ']'))
  if trimmed.head? = some '+' then none
  let n ← readSigned? 64 10 trimmed
  match cs.dropWhile (· ≠ ']') with
  | _ :: rest => some (n, rest)
  | [] => none

/-- The steps behind a name. -/
def more? : (fuel : Nat) → List Char → Option (List KeyStep)
  | _, [] => some []
  | 0, _ => none
  | fuel + 1, '.' :: rest => do
    let (name, rest) ← name? rest
    return .member name :: (← more? fuel rest)
  | fuel + 1, '[' :: rest => do
    let (index, rest) ← index? rest
    return .item index :: (← more? fuel rest)
  | _, _ => none

/-- The steps of a key. -/
def path (key : String) : List KeyStep :=
  let steps : Option (List KeyStep) := do
    let (name, rest) ← name? key.toList
    return .member name :: (← more? rest.length rest)
  steps.getD [.member key]

end KeyStep

/-! ## Merging -/

namespace Setting

/-- A setting as a list, in place of which a new list stands where it is none. -/
def asList (setting : Setting) : Option String × List Setting :=
  match setting with
  | .list origin? items => (origin?, items)
  | _ => (none, [])

/-- The place of an index in a list of some length, unless it lies before the beginning. -/
def place? (index : Int) (length : Nat) : Option Nat :=
  if 0 ≤ index then some index.toNat
  else if index.natAbs ≤ length then some (length - index.natAbs)
  else none

/-- Edits the item at an index, up to which a list grows with nothings. -/
def editItem (index : Int) (edit : Setting → Setting) (base : Setting) : Setting :=
  let (origin?, items) := base.asList
  match place? index items.length with
  | none => .list origin? items
  | some place =>
    let grown := items ++ List.replicate (place + 1 - items.length) nothing
    .list origin? (grown.modify place edit)

/-- Merges a setting into a tree at the end of a path. Only the last name is put in lower case, and
an item of a list is replaced. -/
def assignAt (value : Setting) : List KeyStep → (base : Setting) → Setting
  | [], base => base
  | [.member name], base => assign name value base
  | [.item index], base => editItem index (fun _ => value) base
  | .member name :: steps, base =>
    base.putMember name (assignAt value steps ((base.member? name).getD nothing))
  | .item index :: steps, base => editItem index (assignAt value steps) base

/-- Merges the members of a source into a tree. -/
def mergeSource (members : Entries Setting) (base : Setting) : Setting :=
  members.foldl (fun base (key, value) => assignAt value (KeyStep.path key) base) base

end Setting

end SchemaNodes
