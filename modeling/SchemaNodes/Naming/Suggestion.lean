import SchemaNodes.Naming.FuzzyScore

/-!
# Did you mean

The candidate that comes closest to a name that leads nowhere. Two names are compared in both
directions, so that a slip that drops letters is found as well as one that adds them.
-/

namespace SchemaNodes.Naming

/-- The better of two scores that need not be there. -/
def betterScore : Option Int → Option Int → Option Int
  | some a, some b => some (max a b)
  | some a, none => some a
  | none, other => other

/-- The score of a candidate for a name, in the better direction. -/
def comparisonScore (scratch : Scratch) (needle candidate : List Char) : Option Int × Scratch :=
  let (forward, scratch) := fuzzyScore scratch candidate needle
  let (backward, scratch) := fuzzyScore scratch needle candidate
  (betterScore forward backward, scratch)

/-- The best candidate so far and the scratch cells. -/
structure Search where
  best? : Option (Int × String)
  scratch : Scratch

/-- Takes a candidate into account: it must score, and more than the best before it. -/
def Search.consider (needle : List Char) (search : Search) (candidate : String) : Search :=
  let (score?, scratch) := comparisonScore search.scratch needle candidate.toList
  match score?, search.best? with
  | none, best? => ⟨best?, scratch⟩
  | some score, none => ⟨some (score, candidate), scratch⟩
  | some score, some (best, name) =>
    ⟨if best < score then some (score, candidate) else some (best, name), scratch⟩

/-- The first candidate with the highest score, if any scores at all. -/
def suggest (needle : String) (candidates : List String) : Option String :=
  (candidates.foldl (Search.consider needle.toList) ⟨none, #[]⟩).best?.map (·.2)

end SchemaNodes.Naming
