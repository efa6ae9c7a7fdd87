import SchemaNodes.Yaml.CoreScalar
import SchemaNodes.Yaml.Tree

/-!
# Reading YAML nodes

Readers take a node of a document to a value, or say what is unfit about it. An error carries the
mark and the path of the innermost node whose reader could not be satisfied. Aliases are followed,
but only so often in one document, and collections may be nested in at most 128 levels, those behind
aliases included.
-/

namespace SchemaNodes.Yaml

/-- The way from the root of a document to a node. -/
inductive Path where
  | root
  | key (parent : Path) (name : String)
  | item (parent : Path) (index : Nat)
  /-- The value under a key that is no scalar. -/
  | unnamed (parent : Path)
  deriving DecidableEq, Repr, Inhabited

namespace Path

mutual

/-- The path as text. -/
def text : Path → String
  | .root => "."
  | .key parent name => parent.front ++ name
  | .item parent index => s!"{parent.text}[{index}]"
  | .unnamed parent => parent.front ++ "?"

/-- The path in front of a name. -/
def front : Path → String
  | .root => ""
  | .key parent name => parent.front ++ name ++ "."
  | .item parent index => s!"{parent.text}[{index}]."
  | .unnamed parent => parent.front ++ "?."

end

end Path

/-- Why a document could not be read. -/
inductive ReadError where
  /-- The text is no YAML, or holds more than one document. -/
  | malformed
  /-- A node is not what is wanted; the place is none until it is known. -/
  | unfit (message : String) (place? : Option (Mark × Path))
  /-- Collections are nested too deeply. -/
  | tooDeep (mark : Mark)
  /-- Aliases are followed too often. -/
  | tooManyAliases
  deriving DecidableEq, Repr, Inhabited

namespace ReadError

/-- The words for a mark; the very first place goes without saying. -/
def placeText (mark : Mark) : String :=
  if mark.line = 0 && mark.column = 0 then ""
  else s!" at line {mark.line + 1} column {mark.column + 1}"

/-- The words of an error. -/
def message : ReadError → String
  | .malformed => "the text is not well formed"
  | .unfit message none => message
  | .unfit message (some (mark, path)) =>
    (if path = .root then "" else path.text ++ ": ") ++ message ++ placeText mark
  | .tooDeep mark => "recursion limit exceeded" ++ placeText mark
  | .tooManyAliases => "repetition limit exceeded"

end ReadError

/-- Reading counts the aliases that have been followed. -/
abbrev Read := StateT Nat (Except ReadError)

/-- The levels of collections that may be nested. -/
def depthLimit : Nat := 128

namespace Document

/-- Says that a node is unfit; the place is filled in by the reader around. -/
def unfit {α : Type} (message : String) : Read α := throw (.unfit message none)

/-- Fills in the place of an error that has none yet. -/
def placed {α : Type} (mark : Mark) (path : Path) (reader : Read α) : Read α := fun count =>
  match reader count with
  | .error (.unfit message none) => .error (.unfit message (some (mark, path)))
  | other => other

/-- The node that a node stands for: an alias leads to the node of its anchor. -/
def follow (document : Document) (node : Tree) : Read Tree :=
  match node with
  | .reference _ anchor => do
    let count ← get
    set (count + 1)
    if document.size * 100 < count + 1 then throw .tooManyAliases
    match document.node? anchor with
    | some node => return node
    | none => throw .malformed
  | .missing => throw .malformed
  | other => return other

/-- The complaint about a node that is not of the expected kind. -/
def unexpected {α : Type} (node : Tree) (expected : String) : Read α :=
  match node with
  | .scalar _ tag? text style => match CoreValue.ofScalar tag? text style with
    | .ok value => unfit s!"invalid type: {value.describe}, expected {expected}"
    | .error message => unfit message
  | .sequence .. => unfit s!"invalid type: sequence, expected {expected}"
  | .mapping .. => unfit s!"invalid type: map, expected {expected}"
  | _ => throw .malformed

/-- Whether a tag names something that only an application knows. -/
def isLocalTag : Option String → Bool
  | some tag => tag.toList.head? = some '!'
  | none => false

/-- The path of the value under a key. -/
def valuePath (path : Path) : Tree → Path
  | .scalar _ _ text _ => .key path text
  | _ => .unnamed path

/-- Reads a scalar as its text, whatever it is. -/
def textOf (document : Document) (expected : String) (path : Path) (node : Tree) : Read String := do
  let node ← document.follow node
  placed node.mark path (match node with
    | .scalar _ _ text _ => return text
    | other => unexpected other expected)

/-- The JSON form of a mapping; there is none if a key is no text. -/
def objectOf (members : List (Json × Json)) : Json :=
  match members.mapM fun (key, value) => key.asString?.map fun name => (name, value) with
  | some members => .object members
  | none => .null

/-- The complaint about a tag that only an application knows. -/
def localTagMessage : String := "untagged and internally tagged enums do not support enum input"

/-- Reads a node of any kind as a JSON value. What has no JSON form, as a mapping with a key that is
no text, reads as null. -/
def anyValue (document : Document) : Nat → Path → Tree → Read Json
  | depth, path, node => do
    let node ← document.follow node
    placed node.mark path (match node with
      | .scalar _ tag? text style =>
        if isLocalTag tag? then unfit localTagMessage
        else match CoreValue.ofScalar tag? text style with
          | .error message => unfit message
          | .ok value => match value.toJson? with
            | some json => return json
            | none => unfit s!"invalid type: {value.describe}, expected any value"
      | .sequence mark tag? items =>
        if isLocalTag tag? then unfit localTagMessage
        else match depth with
          | 0 => throw (.tooDeep mark)
          | depth + 1 => do
            let values ← items.zipIdx.mapM fun (item, i) =>
              anyValue document depth (.item path i) item
            return .array values
      | .mapping mark tag? entries =>
        if isLocalTag tag? then unfit localTagMessage
        else match depth with
          | 0 => throw (.tooDeep mark)
          | depth + 1 => do
            let members ← entries.mapM fun (key, value) => do
              let name ← anyValue document depth path key
              let json ← anyValue document depth (valuePath path key) value
              return (name, json)
            return objectOf members
      | _ => throw .malformed)

/-- Reads a mapping as a dictionary, each value by `entry`; of repeated keys the last counts. A
scalar that is left out is an empty mapping. -/
def dict {α : Type} (document : Document) (entry : Nat → Path → Tree → Read α)
    (depth : Nat) (path : Path) (node : Tree) : Read (Dict α) := do
  let node ← document.follow node
  placed node.mark path (match node with
    | .scalar _ _ "" .plain => return .empty
    | .mapping mark _ entries => match depth with
      | 0 => throw (.tooDeep mark)
      | depth + 1 => entries.foldlM (fun acc (key, value) => do
          let name ← document.textOf "a string" path key
          let value ← entry depth (valuePath path key) value
          return acc.insert name value) .empty
    | other => unexpected other "a map")

/-- Reads a node of any kind and judges its JSON form. -/
def judged {α : Type} (document : Document) (name : String) (judge : Json → Option α)
    (depth : Nat) (path : Path) (node : Tree) : Read α := do
  let value ← document.anyValue depth path node
  match judge value with
  | some a => return a
  | none => unfit s!"data did not match any variant of untagged enum {name}"

/-- Passes over a node. -/
def skipNode (node : Tree) : Read Unit :=
  if node.isComplete then return () else throw .malformed

end Document

end SchemaNodes.Yaml
