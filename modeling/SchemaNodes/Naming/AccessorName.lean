import SchemaNodes.Naming.Inflection

/-!
# Callable names

The names under which an attribute can be addressed: its own name, the name with its first letter
swapped, and for a list the singular and that with its first letter swapped. Each comes with its
rank, which decides between attributes that claim the same name.
-/

namespace SchemaNodes.Naming

/-- Why a name is bound to an attribute, the strongest reason first. -/
inductive NameRank where
  /-- The declared name. -/
  | exact
  /-- The declared name with its first letter swapped. -/
  | caseAlias
  /-- The singular of a list. -/
  | singular
  /-- The singular of a list with its first letter swapped. -/
  | singularCaseAlias
  deriving DecidableEq, Repr, Inhabited

namespace NameRank

/-- The position in the order of strength. -/
def position : NameRank → Nat
  | .exact => 0
  | .caseAlias => 1
  | .singular => 2
  | .singularCaseAlias => 3

/-- The name of the rank in reports. -/
def label : NameRank → String
  | .exact => "Exact"
  | .caseAlias => "CaseAlias"
  | .singular => "Singular"
  | .singularCaseAlias => "SingularCaseAlias"

end NameRank

/-- The name that an attribute earns by a reason, if it does. -/
def earnedName? (inflector : Inflector) (caseAliases : Bool) (attr : String) (isList : Bool) :
    NameRank → Option String
  | .exact => some attr
  | .caseAlias => if caseAliases then some (Text.swapFirstCase attr) else none
  | .singular => if isList then some (inflector.singularize attr) else none
  | .singularCaseAlias =>
    if isList && caseAliases then some (Text.swapFirstCase (inflector.singularize attr))
    else none

/-- All reasons, the strongest first. -/
def NameRank.all : List NameRank := [.exact, .caseAlias, .singular, .singularCaseAlias]

/-- Sorts by rank, the strongest first; what is of one rank stays in order. -/
def sortByRank {α : Type} (rank : α → NameRank) (xs : List α) : List α :=
  xs.mergeSort fun x y => (rank x).position ≤ (rank y).position

/-- Drops empty names, and names that stand earlier in the list. -/
def dropRepeated (seen : List String) : List (String × NameRank) → List (String × NameRank)
  | [] => []
  | (name, rank) :: rest =>
    if name = "" || seen.contains name then dropRepeated seen rest
    else (name, rank) :: dropRepeated (name :: seen) rest

/-- The names that an attribute earns, each with its reason. -/
def earnedNames (inflector : Inflector) (caseAliases : Bool) (attr : String) (isList : Bool) :
    List (String × NameRank) :=
  [NameRank.exact, .caseAlias, .singularCaseAlias, .singular].filterMap fun rank =>
    (earnedName? inflector caseAliases attr isList rank).map fun name => (name, rank)

/-- The callable names of an attribute, each with the strongest reason for it, in order of rank. -/
def accessorNames (inflector : Inflector) (caseAliases : Bool) (attr : String)
    (isList : Bool) : List (String × NameRank) :=
  dropRepeated [] (sortByRank (·.2) (earnedNames inflector caseAliases attr isList))

end SchemaNodes.Naming
