import SchemaNodes.Naming.Suggestion
import Mathlib.Data.List.Basic

/-!
# What is suggested

A suggestion is a candidate that can be compared with the name in question. Of the scores it only
counts here which comparisons have one (`score_isSome_iff`): a higher score, or what the scratch
cells hold, decides between comparable candidates and never whether there is a suggestion.

* **`isSubsequence_iff`**: matching each letter as early as possible finds every subsequence.
* **`Search.consider_cases`**: what a candidate does to a search.
* **`mem_of_suggest`**, **`suggest_isSome_iff`**: what is suggested, and when.
-/

namespace SchemaNodes.Naming

/-- One of two names is a subsequence of the other, but for the case of ASCII letters. -/
def Comparable (name other : String) : Prop :=
  (name.toList.map Char.toLower).Sublist (other.toList.map Char.toLower) ∨
    (other.toList.map Char.toLower).Sublist (name.toList.map Char.toLower)

/-! ## Subsequences -/

theorem isSubsequence_iff {pattern choice : List Char} :
    isSubsequence pattern choice = true ↔
      (pattern.map Char.toLower).Sublist (choice.map Char.toLower) := by
  induction choice generalizing pattern with
  | nil =>
    cases pattern with
    | nil => simp [isSubsequence]
    | cons p pattern => simp [isSubsequence]
  | cons c choice ih =>
    cases pattern with
    | nil => simp [isSubsequence]
    | cons p pattern =>
      rw [isSubsequence, List.map_cons, List.map_cons]
      by_cases hsame : c.toLower = p.toLower
      · -- nothing is lost by matching the first letter at once
        rw [if_pos (by simpa [sameLetter] using hsame), ih, hsame, List.cons_sublist_cons]
      · rw [if_neg (by simpa [sameLetter] using hsame), ih, List.map_cons,
          List.cons_sublist_cons']
        constructor
        · exact .inl
        · rintro (hlater | ⟨heq, -⟩)
          · exact hlater
          · exact absurd heq.symm hsame

/-! ## Comparisons -/

theorem betterScore_isSome (a b : Option Int) :
    (betterScore a b).isSome = (a.isSome || b.isSome) := by
  cases a with
  | none => rfl
  | some x =>
    cases b with
    | none => rfl
    | some y => rfl

/-- A comparison has a score exactly if the names are comparable, whatever the scratch cells hold. -/
theorem comparisonScore_isSome_iff (scratch : Scratch) (name candidate : String) :
    (comparisonScore scratch name.toList candidate.toList).1.isSome = true ↔
      Comparable name candidate := by
  let forward := fuzzyScore scratch candidate.toList name.toList
  show (betterScore forward.1 (fuzzyScore forward.2 name.toList candidate.toList).1).isSome = true ↔
    Comparable name candidate
  rw [betterScore_isSome, score_isSome_iff, score_isSome_iff, Bool.or_eq_true, isSubsequence_iff,
    isSubsequence_iff]
  rfl

/-! ## The search -/

/-- A candidate either becomes the best, and is comparable, or leaves the best as it was; and it
does not leave a search without a result if it is comparable. -/
theorem Search.consider_cases (name candidate : String) (search : Search) :
    (Comparable name candidate ∧
      ∃ score, (search.consider name.toList candidate).best? = some (score, candidate)) ∨
    ((search.consider name.toList candidate).best? = search.best? ∧
      (search.best? = none → ¬ Comparable name candidate)) := by
  have hscore := comparisonScore_isSome_iff search.scratch name candidate
  unfold consider
  cases hcomparison : comparisonScore search.scratch name.toList candidate.toList with
  | mk score? scratch =>
    rw [hcomparison] at hscore
    cases score? with
    | none =>
      refine .inr ⟨rfl, fun _ hcomparable => ?_⟩
      exact absurd (hscore.2 hcomparable) (by simp)
    | some score =>
      have hcomparable : Comparable name candidate := hscore.1 rfl
      cases hbest : search.best? with
      | none => exact .inl ⟨hcomparable, score, rfl⟩
      | some best =>
        by_cases hbetter : best.1 < score
        · exact .inl ⟨hcomparable, score, if_pos hbetter⟩
        · exact .inr ⟨if_neg hbetter, nofun⟩

/-- The best after all candidates is one of them, and comparable, or was there before. -/
theorem Search.mem_of_best? {name : String} {candidates : List String} {search : Search}
    {score : Int} {best : String}
    (h : (candidates.foldl (consider name.toList) search).best? = some (score, best)) :
    (best ∈ candidates ∧ Comparable name best) ∨ search.best? = some (score, best) := by
  induction candidates generalizing search with
  | nil => exact .inr h
  | cons candidate rest ih =>
    rcases ih h with ⟨hmem, hcomparable⟩ | hstep
    · exact .inl ⟨List.mem_cons_of_mem _ hmem, hcomparable⟩
    · rcases search.consider_cases name candidate with ⟨hcomparable, score', hbest⟩ | ⟨hbest, -⟩
      · obtain ⟨-, rfl⟩ := Prod.mk.inj (Option.some.inj (hbest.symm.trans hstep))
        exact .inl ⟨List.mem_cons_self, hcomparable⟩
      · exact .inr (hbest.symm.trans hstep)

/-- There is no best after all candidates if there was none before and none is comparable. -/
theorem Search.best?_eq_none_iff {name : String} {candidates : List String} {search : Search} :
    (candidates.foldl (consider name.toList) search).best? = none ↔
      search.best? = none ∧ ∀ candidate ∈ candidates, ¬ Comparable name candidate := by
  induction candidates generalizing search with
  | nil => simp
  | cons candidate rest ih =>
    rw [List.foldl_cons, ih, List.forall_mem_cons]
    rcases search.consider_cases name candidate with ⟨hcomparable, score, hbest⟩ | ⟨hbest, hnone⟩
    · simp [hbest, hcomparable]
    · rw [hbest]
      constructor
      · rintro ⟨hsearch, hrest⟩
        exact ⟨hsearch, hnone hsearch, hrest⟩
      · rintro ⟨hsearch, -, hrest⟩
        exact ⟨hsearch, hrest⟩

/-! ## Suggestions -/

/-- What is suggested is a candidate, and comparable. -/
theorem mem_of_suggest {name suggestion : String} {candidates : List String}
    (h : suggest name candidates = some suggestion) :
    suggestion ∈ candidates ∧ Comparable name suggestion := by
  obtain ⟨⟨score, best⟩, hbest, rfl⟩ := Option.map_eq_some_iff.1 h
  rcases Search.mem_of_best? hbest with hfound | hbefore
  · exact hfound
  · cases hbefore

/-- There is a suggestion if and only if a candidate is comparable. -/
theorem suggest_isSome_iff {name : String} {candidates : List String} :
    (suggest name candidates).isSome = true ↔
      ∃ candidate ∈ candidates, Comparable name candidate := by
  rw [suggest, Option.isSome_map, Option.isSome_iff_ne_none, Ne, Search.best?_eq_none_iff]
  simp

end SchemaNodes.Naming
