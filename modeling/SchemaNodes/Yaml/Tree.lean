import SchemaNodes.Yaml.Event

/-!
# YAML documents as trees

The first document of a text as a tree of nodes with their marks. Anchors are numbered: an anchor
gets the number of different names that stand before it, and a number leads to the node that got it
last. Where the text ends or stops being acceptable inside a node, what should follow is `missing`.
-/

namespace SchemaNodes.Yaml

/-- A node of a document. -/
inductive Tree where
  | scalar (mark : Mark) (tag? : Option String) (text : String) (style : ScalarStyle)
  | sequence (mark : Mark) (tag? : Option String) (items : List Tree)
  | mapping (mark : Mark) (tag? : Option String) (entries : List (Tree × Tree))
  /-- A reference to the node of an anchor. -/
  | reference (mark : Mark) (anchor : Nat)
  /-- The text does not come to this node. -/
  | missing
  deriving Repr, Inhabited

namespace Tree

mutual

/-- Whether nothing is missing in the node. -/
def isComplete : Tree → Bool
  | .scalar .. => true
  | .sequence _ _ items => allComplete items
  | .mapping _ _ entries => entriesComplete entries
  | .reference .. => true
  | .missing => false

/-- Whether nothing is missing in the items. -/
def allComplete : List Tree → Bool
  | [] => true
  | item :: rest => isComplete item && allComplete rest

/-- Whether nothing is missing in the entries. -/
def entriesComplete : List (Tree × Tree) → Bool
  | [] => true
  | (key, value) :: rest => isComplete key && isComplete value && entriesComplete rest

end

/-- The mark at which the node begins. -/
def mark : Tree → Mark
  | .scalar mark .. => mark
  | .sequence mark .. => mark
  | .mapping mark .. => mark
  | .reference mark _ => mark
  | .missing => default

end Tree

/-- The events of the first document, with its anchors numbered. -/
structure Numbered where
  events : List (Event Nat × Mark)
  /-- What follows the end of the document, if the text comes to that end. -/
  rest? : Option (List (Event String × Mark))

namespace Numbered

/-- Puts an event in front. -/
def cons (event : Event Nat) (mark : Mark) (n : Numbered) : Numbered :=
  { n with events := (event, mark) :: n.events }

/-- The number of an anchor, and the names that have been seen with theirs. -/
def number (names : List (String × Nat)) : Option String → Option Nat × List (String × Nat)
  | none => (none, names)
  | some name => (some names.length, (name, names.length) :: names.filter fun e => e.1 ≠ name)

/-- Numbers the anchors of events; an alias of an unknown anchor is not acceptable. -/
def ofEvents (names : List (String × Nat)) : List (Event String × Mark) → Numbered
  | [] => ⟨[], none⟩
  | (event, mark) :: rest =>
    let numbered (p : Properties String) (make : Properties Nat → Event Nat) : Numbered :=
      let (anchor?, names) := number names p.anchor?
      (ofEvents names rest).cons (make ⟨anchor?, p.tag?⟩) mark
    match event with
    | .documentStart => ofEvents names rest
    | .documentEnd => ⟨[], some rest⟩
    | .streamEnd => ⟨[], some [(.streamEnd, mark)]⟩
    | .reference name => match names.lookup name with
      | some n => (ofEvents names rest).cons (.reference n) mark
      | none => ⟨[], none⟩
    | .scalar p text style => numbered p fun p => .scalar p text style
    | .sequenceStart p => numbered p .sequenceStart
    | .mappingStart p => numbered p .mappingStart
    | .sequenceEnd => (ofEvents names rest).cons .sequenceEnd mark
    | .mappingEnd => (ofEvents names rest).cons .mappingEnd mark

end Numbered

/-- A node with the number of its anchor and its place among the nodes that have one. -/
structure Anchored where
  anchor : Nat
  place : Nat
  node : Tree

/-- A collection that is open, with its parts so far, the last first. -/
inductive Frame where
  | sequence (mark : Mark) (properties : Properties (Nat × Nat)) (items : List Tree)
  | mapping (mark : Mark) (properties : Properties (Nat × Nat)) (entries : List (Tree × Tree))
      (key? : Option Tree)

namespace Frame

/-- Adds a node. -/
def add (node : Tree) : Frame → Frame
  | .sequence mark p items => .sequence mark p (node :: items)
  | .mapping mark p entries none => .mapping mark p entries (some node)
  | .mapping mark p entries (some key) => .mapping mark p ((key, node) :: entries) none

/-- The anchor of the collection. -/
def anchor? : Frame → Option (Nat × Nat)
  | .sequence _ p _ => p.anchor?
  | .mapping _ p _ _ => p.anchor?

/-- The collection, closed. -/
def close : Frame → Tree
  | .sequence mark p items => .sequence mark p.tag? items.reverse
  | .mapping mark p entries _ => .mapping mark p.tag? entries.reverse

/-- The collection with the rest of it missing. -/
def cut (frame : Frame) : Tree :=
  match frame with
  | .mapping _ _ _ none => ((frame.add .missing).add .missing).close
  | frame => (frame.add .missing).close

end Frame

/-- A tree in the making. -/
structure Builder where
  /-- The open collections, the innermost first. -/
  frames : List Frame
  /-- The nodes with an anchor. -/
  anchored : List Anchored
  /-- The number of nodes with an anchor that have begun. -/
  places : Nat
  /-- The root, once it is finished. -/
  root? : Option Tree

namespace Builder

/-- The builder before the first event. -/
def start : Builder := ⟨[], [], 0, none⟩

/-- Adds a finished node. -/
def add (b : Builder) (anchor? : Option (Nat × Nat)) (node : Tree) : Builder :=
  let b := match anchor? with
    | some (anchor, place) => { b with anchored := ⟨anchor, place, node⟩ :: b.anchored }
    | none => b
  match b.frames with
  | frame :: rest => { b with frames := frame.add node :: rest }
  | [] => { b with root? := some node }

/-- Gives an anchor its place. -/
def place (b : Builder) (p : Properties Nat) : Properties (Nat × Nat) × Builder :=
  match p.anchor? with
  | some anchor => (⟨some (anchor, b.places), p.tag?⟩, { b with places := b.places + 1 })
  | none => (⟨none, p.tag?⟩, b)

/-- Closes the innermost collection. -/
def close (b : Builder) : Builder :=
  match b.frames with
  | frame :: rest => { b with frames := rest }.add frame.anchor? frame.close
  | [] => b

/-- Takes an event into account. -/
def step (b : Builder) : Event Nat × Mark → Builder
  | (.reference anchor, mark) => b.add none (.reference mark anchor)
  | (.scalar p text style, mark) =>
    let (p, b) := b.place p
    b.add p.anchor? (.scalar mark p.tag? text style)
  | (.sequenceStart p, mark) =>
    let (p, b) := b.place p
    { b with frames := .sequence mark p [] :: b.frames }
  | (.mappingStart p, mark) =>
    let (p, b) := b.place p
    { b with frames := .mapping mark p [] none :: b.frames }
  | (.sequenceEnd, _) | (.mappingEnd, _) => b.close
  | (.documentStart, _) | (.documentEnd, _) | (.streamEnd, _) => b

/-- Cuts off the open collections. -/
def cutAll : List Frame → Builder → Builder
  | [], b => b
  | _ :: rest, b => match b.frames with
    | frame :: frames => cutAll rest ({ b with frames }.add frame.anchor? frame.cut)
    | [] => b

/-- The builder behind events. -/
def ofEvents (events : List (Event Nat × Mark)) : Builder :=
  let b := events.foldl step .start
  cutAll b.frames b

end Builder

/-- The first document of a text. -/
structure Document where
  /-- The root; none if there is nothing but blanks and comments. -/
  root? : Option Tree
  /-- The nodes with an anchor. -/
  anchored : List Anchored
  /-- The number of events that the document consists of. -/
  size : Nat
  /-- Whether the text comes to its end behind the document, all of which is there. -/
  isWellFormed : Bool

namespace Document

/-- The node that an anchor leads to. -/
def node? (document : Document) (anchor : Nat) : Option Tree :=
  (document.anchored.foldl (fun best a =>
    if a.anchor = anchor then
      match best with
      | some b => if b.place < a.place then some a else some b
      | none => some a
    else best) (none : Option Anchored)).map (·.node)

/-- The first document of a text. -/
def ofText (text : String) : Document :=
  let numbered := Numbered.ofEvents [] (eventsOf text)
  let b := Builder.ofEvents numbered.events
  let isWellFormed := match numbered.rest? with
    | some [(.streamEnd, _)] => true
    | _ => false
  let root? := match b.root?, numbered.rest? with
    | some root, _ => some root
    | none, some _ => none
    | none, none => some .missing
  ⟨root?, b.anchored, max numbered.events.length 1, isWellFormed⟩

end Document

end SchemaNodes.Yaml
