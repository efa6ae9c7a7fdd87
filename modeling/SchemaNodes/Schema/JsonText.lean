import SchemaNodes.Schema.Basic
import SchemaNodes.Json.Reader

/-!
# Schema documents as JSON text

Reads a document in one pass over the text, so that of several faults the first is reported. Type
definitions and resource uses are read whole and judged afterwards; a misfit is placed behind the
value, and behind the brace of the object around it if that follows at once. What stands under other
keys of the document is passed over.
-/

namespace SchemaNodes

open Json

namespace Json.Cursor

/-- The cursor behind blanks, and behind a closing brace if one follows. -/
def afterBrace (cur : Cursor) : Cursor :=
  let cur := cur.skipBlanks
  if cur.peek? = some '\x7d' then cur.next else cur

/-- A complaint about a member that has been read. -/
def misfit {α : Type} (cur : Cursor) (message : String) : Except ReadError α :=
  cur.afterBrace.error (.unfit message)

/-- The complaint about the value at the cursor, which is not of the expected kind. -/
def unexpected {α : Type} (cur : Cursor) (expected : String) : Except ReadError α :=
  match cur.rest with
  | '[' :: _ => cur.error (wrongKind "sequence" expected)
  | '\x7b' :: _ => cur.error (wrongKind "map" expected)
  | _ => do
    let (found, cur) ← cur.scalar
    cur.error (wrongKind (describe found) expected)

/-- Reads the members of an object up to its brace, each value by `entry`, which may open
`depth - 1` levels of nesting. -/
def dictMembers {α : Type} (entry : Nat → Cursor → Except ReadError (α × Cursor)) (depth : Nat) :
    Nat → Cursor → Bool → Dict α → Except ReadError (Dict α × Cursor)
  | 0, cur, _, _ => cur.peekError .tooDeep
  | fuel + 1, cur, first, acc => do
    let (more, cur) ← cur.nextKey? first
    if more then
      let (name, cur) ← cur.readString
      let cur ← cur.colon
      let (value, cur) ← entry depth cur
      dictMembers entry depth fuel cur false (acc.insert name value)
    else return (acc, cur.next)

/-- Reads an object as a dictionary; of repeated keys the last counts. -/
def dict {α : Type} (entry : Nat → Cursor → Except ReadError (α × Cursor)) (depth : Nat)
    (cur : Cursor) : Except ReadError (Dict α × Cursor) :=
  let cur := cur.skipBlanks
  match cur.rest with
  | [] => cur.peekError .valueEnds
  | '\x7b' :: _ =>
    if depth ≤ 1 then cur.peekError .tooDeep
    else dictMembers entry (depth - 1) cur.fuel cur.next true .empty
  | _ => cur.unexpected "a map"

/-- Reads a value and judges it. -/
def judged {α : Type} (name : String) (judge : Json → Option α) (depth : Nat) (cur : Cursor) :
    Except ReadError (α × Cursor) := do
  let (value, cur) ← cur.value depth
  match judge value with
  | some a => return (a, cur)
  | none => cur.misfit s!"data did not match any variant of untagged enum {name}"

/-- Reads the declared types. -/
def typesPart : Nat → Cursor → Except ReadError (Schema × Cursor) :=
  dict (judged "TypeDef" TypeDefinition.ofJson?)

/-- Reads the resources. -/
def resourcesPart : Nat → Cursor → Except ReadError (Resources × Cursor) :=
  dict (dict (dict (judged "ResourceRef" ResourceUse.ofJson?)))

end Json.Cursor

namespace Document

open Json.Cursor

/-- The parts of a document that have been read so far. -/
structure Parts where
  types? : Option Schema
  resources? : Option Resources

/-- The document of the parts, the missing ones empty. -/
def Parts.document (parts : Parts) : Document :=
  ⟨parts.types?.getD .empty, parts.resources?.getD .empty⟩

/-- Reads the members of a document up to its brace. -/
def membersOfText (depth : Nat) :
    Nat → Cursor → Bool → Parts → Except ReadError (Document × Cursor)
  | 0, cur, _, _ => cur.peekError .tooDeep
  | fuel + 1, cur, first, parts => do
    let (more, cur) ← cur.nextKey? first
    if more then
      let (name, cur) ← cur.readString
      match name with
      | "Types" =>
        if parts.types?.isSome then cur.misfit "duplicate field `Types`"
        else
          let (types, cur) ← typesPart depth (← cur.colon)
          membersOfText depth fuel cur false { parts with types? := some types }
      | "Resources" =>
        if parts.resources?.isSome then cur.misfit "duplicate field `Resources`"
        else
          let (resources, cur) ← resourcesPart depth (← cur.colon)
          membersOfText depth fuel cur false { parts with resources? := some resources }
      | _ => membersOfText depth fuel (← (← cur.colon).skipValue) false parts
    else return (parts.document, cur.next)

/-- Checks that an array ends here; whatever else follows is too much. -/
def endOfArray (cur : Cursor) : Except ReadError Cursor :=
  let cur := cur.skipBlanks
  match cur.rest with
  | ']' :: _ => .ok cur.next
  | ',' :: _ =>
    let cur := cur.next.skipBlanks
    cur.peekError (if cur.peek? = some ']' then .trailingComma else .trailingCharacters)
  | _ :: _ => cur.peekError .trailingCharacters
  | [] => cur.peekError .listEnds

/-- Reads a document that is given as the array of its parts. -/
def itemsOfText (depth : Nat) (cur : Cursor) : Except ReadError (Document × Cursor) := do
  let (more, cur) ← cur.nextItem? true
  if !more then return (⟨.empty, .empty⟩, cur.next)
  let (types, cur) ← typesPart depth cur
  let (more, cur) ← cur.nextItem? false
  if !more then return (⟨types, .empty⟩, cur.next)
  let (resources, cur) ← resourcesPart depth cur
  return (⟨types, resources⟩, ← endOfArray cur)

/-- Reads a document from JSON text. -/
def ofJsonText (text : String) : Except ReadError Document := do
  let cur := (Cursor.ofString text).skipBlanks
  let (document, cur) ← match cur.rest with
    | [] => cur.peekError .valueEnds
    | '[' :: _ => itemsOfText (depthLimit - 1) cur.next
    | '\x7b' :: _ => membersOfText (depthLimit - 1) cur.fuel cur.next true ⟨none, none⟩
    | _ => cur.unexpected "struct SchemaDocument"
  cur.finish
  return document

end Document

end SchemaNodes
