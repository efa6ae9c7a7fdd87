import SchemaNodes.Naming.AccessorName

/-!
# Accessor tables

The attributes of a kind under the names that they are called by. Every attribute is a candidate for
its callable names (`Naming.accessorNames`); a name with several candidates goes to the strongest
reason, and of equally strong ones to the first attribute in name order. The candidates are sorted
by rank and bound in turn, and a name that is taken stays with its owner.

Main statements: `Dict.find?_bindFirst` (what a look-up sees after a name is bound), `find?_grant`
(the table leads a name to the first candidate for it).
-/

namespace SchemaNodes

/-- An attribute whose type has been resolved. -/
structure Attribute where
  /-- The declared name, under which values are stored. -/
  name : String
  /-- Whether the attribute holds a list. -/
  isList : Bool
  /-- The id of the kind that is referred to. -/
  target : Nat
  deriving DecidableEq, Repr, Inhabited

/-- The attributes of a kind, by every name that they can be called by. -/
abbrev AccessorTable := Dict Attribute

namespace Dict

variable {α : Type _}

/-- Binds a name unless it is bound already. -/
def bindFirst (dict : Dict α) (name : String) (value : α) : Dict α :=
  if dict.contains name then dict else dict.insert name value

theorem find?_bindFirst (dict : Dict α) (name other : String) (value : α) :
    (dict.bindFirst name value).find? other =
      (dict.find? other).or (if other = name then some value else none) := by
  unfold bindFirst contains
  split
  · next h =>
    by_cases ho : other = name
    · subst ho
      cases hf : dict.find? other with
      | none => simp [hf] at h
      | some _ => rfl
    · simp [ho]
  · next h =>
    rw [find?_insert]
    by_cases ho : other = name
    · subst ho
      cases hf : dict.find? other with
      | none => simp
      | some _ => simp [hf] at h
    · simp [ho]

end Dict

namespace AccessorTable

open Naming

/-- A callable name of an attribute. -/
structure Candidate where
  name : String
  rank : NameRank
  owner : Attribute

/-- The callable names of the attributes, in the order of the attributes. -/
def candidates (inflector : Inflector) (caseAliases : Bool) (attributes : List Attribute) :
    List Candidate :=
  attributes.flatMap fun a =>
    (accessorNames inflector caseAliases a.name a.isList).map fun entry => ⟨entry.1, entry.2, a⟩

/-- Binds candidates in turn; the first for a name gets it. -/
def grant (table : AccessorTable) (candidates : List Candidate) : AccessorTable :=
  candidates.foldl (fun acc c => acc.bindFirst c.name c.owner) table

/-- The table of the attributes, which are given in name order. -/
def ofAttributes (inflector : Inflector) (caseAliases : Bool) (attributes : List Attribute) :
    AccessorTable :=
  grant .empty (sortByRank (·.rank) (candidates inflector caseAliases attributes))

/-- The names that lead to an attribute, in ascending order. -/
def namesFor (table : AccessorTable) (attr : String) : List String :=
  (table.entries.filter fun entry => entry.2.name = attr).map (·.1)

/-- A name leads where it led before, or to the first candidate for it. -/
theorem find?_grant (table : AccessorTable) (candidates : List Candidate) (name : String) :
    (grant table candidates).find? name =
      (table.find? name).or ((candidates.find? fun c => c.name = name).map (·.owner)) := by
  unfold grant
  induction candidates generalizing table with
  | nil => simp
  | cons c rest ih =>
    rw [List.foldl_cons, ih, Dict.find?_bindFirst, List.find?_cons]
    by_cases h : c.name = name
    · subst h
      cases table.find? c.name <;> simp
    · have h' : ¬ name = c.name := fun e => h e.symm
      simp [h, h']

end AccessorTable

end SchemaNodes
