import SchemaNodes.Toml.Basic

/-!
# TOML tables under construction

A document is a list of instructions: open a table under a key, open a further item of an array of
tables, put a value under a key of the open table. Tables come up in three ways (by a header of
their own, implied by the headers of tables below them, or by dotted keys), and what an instruction
may still do to a table depends on how it has come up.
-/

namespace SchemaNodes.Toml

/-- How a table has come up. -/
inductive TableOrigin where
  /-- By a header of its own. -/
  | header
  /-- By the header of a table below it. -/
  | implied
  /-- By a dotted key. -/
  | dotted
  deriving DecidableEq, Repr, Inhabited

/-- What stands under a key. -/
inductive Item where
  /-- A finished value, to which nothing can be added. -/
  | value (value : Toml)
  | table (origin : TableOrigin) (members : List (String × Item))
  /-- The items of an array of tables, the newest first. -/
  | tables (newest : List (String × Item)) (older : List (List (String × Item)))
  deriving Inhabited

/-- An edit of the members of a table. -/
abbrev Edit := TableOrigin → Entries Item → Option (Entries Item)

/-- Edits the table that a path leads to, and creates the tables that are not there. Of an array of
tables the newest item is meant. `byKey` says whether the path stands in a dotted key: those cannot
reach into a table that has a header. -/
def editAt (byKey : Bool) (edit : Edit) : (path : List String) → Edit
  | [], origin, members => edit origin members
  | name :: path, _, members =>
    match members.find? name with
    | none =>
      let origin := if byKey then .dotted else .implied
      (editAt byKey edit path origin []).map fun new =>
        members.insert name (.table origin new)
    | some (.value _) => none
    | some (.table origin inner) =>
      if byKey && origin = .header then none
      else (editAt byKey edit path origin inner).map fun new =>
        members.insert name (.table origin new)
    | some (.tables newest older) =>
      (editAt byKey edit path .header newest).map fun new =>
        members.insert name (.tables new older)

/-- Puts an item under a key that is not there yet. -/
def addNew (name : String) (item : Item) (members : Entries Item) : Option (Entries Item) :=
  match members.find? name with
  | none => some (members.insert name item)
  | some _ => none

/-- Splits a path before its last name. -/
def splitLast : List String → Option (List String × String)
  | [] => none
  | [name] => some ([], name)
  | name :: rest => (splitLast rest).map fun (path, last) => (name :: path, last)

/-- Puts a value under a key of a table. The tables of a dotted key are those of dotted keys. -/
def putValue (key : List String) (value : Toml) : Edit := fun origin members => do
  let (path, name) ← splitLast key
  let put : Edit := fun origin members =>
    if path ≠ [] && origin ≠ .dotted then none else addNew name (.value value) members
  editAt true put path origin members

/-- Opens a table by its header: a new one, or one that was implied. -/
def openTable (key : List String) : Edit := fun origin members => do
  let (path, name) ← splitLast key
  let put : Edit := fun _ members => match members.find? name with
    | none => some (members.insert name (.table .header []))
    | some (.table .implied inner) => some (members.insert name (.table .header inner))
    | some _ => none
  editAt false put path origin members

/-- Opens a further item of an array of tables. -/
def openItem (key : List String) : Edit := fun origin members => do
  let (path, name) ← splitLast key
  let put : Edit := fun _ members => match members.find? name with
    | none => some (members.insert name (.tables [] []))
    | some (.tables newest older) => some (members.insert name (.tables [] (newest :: older)))
    | some _ => none
  editAt false put path origin members

mutual

/-- The value of an item. -/
def Item.toToml : Item → Toml
  | .value value => value
  | .table _ members => .table (membersToToml members)
  | .tables newest older => .array (itemsToToml older [.table (membersToToml newest)])

/-- The values of the members of a table. -/
def membersToToml : Entries Item → Entries Toml
  | [] => []
  | (name, item) :: rest => (name, item.toToml) :: membersToToml rest

/-- The items of an array of tables, given the newest first, in front of `acc`. -/
def itemsToToml : List (Entries Item) → List Toml → List Toml
  | [], acc => acc
  | members :: rest, acc => itemsToToml rest (.table (membersToToml members) :: acc)

end

end SchemaNodes.Toml
