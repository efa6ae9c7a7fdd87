import SchemaNodes.Naming.AccessorName

/-!
# The callable names of an attribute

What sorting by rank and dropping repeated names come to.

* **`sortByRank_eq`**: sorting by rank takes the ranks one after the other, each in order.
* **`mem_dropRepeated_iff`**: of every name the first entry stays.
* **`firstReason_eq_some_iff`**: what a search through the reasons finds is found for the least.
* **`mem_accessorNames_iff`**: a callable name comes with the strongest reason for which it is
  earned.
-/

namespace SchemaNodes.Naming

/-! ## Sorting by rank -/

section Sorting

variable {α : Type} {rank : α → NameRank}

theorem atMost_trans (rank : α → NameRank) (x y z : α) :
    decide ((rank x).position ≤ (rank y).position) →
      decide ((rank y).position ≤ (rank z).position) →
        decide ((rank x).position ≤ (rank z).position) := by
  simp only [decide_eq_true_eq]
  omega

theorem atMost_total (rank : α → NameRank) (x y : α) :
    decide ((rank x).position ≤ (rank y).position) ||
      decide ((rank y).position ≤ (rank x).position) := by
  simp only [Bool.or_eq_true, decide_eq_true_eq]
  omega

/-- Sorting does not change what is of one rank. -/
theorem filter_sortByRank (xs : List α) (r : NameRank) :
    (sortByRank rank xs).filter (rank · = r) = xs.filter (rank · = r) := by
  induction xs with
  | nil => simp [sortByRank]
  | cons x xs ih =>
    -- `x` goes in front of everything that is not strictly stronger
    obtain ⟨stronger, rest, hcons, hsorted, hstronger⟩ :=
      List.mergeSort_cons (atMost_trans rank) (atMost_total rank) x xs
    have hsplit : sortByRank rank xs = stronger ++ rest := hsorted
    rw [hsplit, List.filter_append] at ih
    rw [sortByRank, hcons, List.filter_append, List.filter_cons, List.filter_cons]
    by_cases hx : rank x = r
    · have hnone : stronger.filter (rank · = r) = [] := by
        refine List.filter_eq_nil_iff.2 fun y hy hr => ?_
        have hlt := hstronger y hy
        simp only [Bool.not_eq_true', decide_eq_false_iff_not, decide_eq_true_eq] at hlt hr
        rw [hx, hr] at hlt
        exact hlt (Nat.le_refl _)
      rw [hnone, List.nil_append] at ih ⊢
      rw [ih]
    · simp only [hx, decide_false, Bool.false_eq_true, if_false]
      exact ih

/-- What is in order of rank is what is of one rank after the other. -/
theorem eq_flatMap_of_sorted {xs : List α}
    (hsorted : xs.Pairwise fun x y => (rank x).position ≤ (rank y).position) :
    xs = NameRank.all.flatMap fun r => xs.filter (rank · = r) := by
  induction xs with
  | nil => rfl
  | cons x xs ih =>
    obtain ⟨hhead, htail⟩ := List.pairwise_cons.1 hsorted
    -- nothing behind `x` is of a stronger rank
    have hnone : ∀ r : NameRank, r.position < (rank x).position → xs.filter (rank · = r) = [] := by
      intro r hr
      refine List.filter_eq_nil_iff.2 fun y hy hrank => ?_
      have hle := hhead y hy
      rw [of_decide_eq_true hrank] at hle
      omega
    have hrest := ih htail
    simp only [NameRank.all, List.flatMap_cons, List.flatMap_nil, List.filter_cons] at hrest ⊢
    cases hx : rank x with
    | exact => simpa [hx] using hrest
    | caseAlias =>
      have h₀ := hnone .exact (by rw [hx]; decide)
      simpa [hx, h₀] using hrest
    | singular =>
      have h₀ := hnone .exact (by rw [hx]; decide)
      have h₁ := hnone .caseAlias (by rw [hx]; decide)
      simpa [hx, h₀, h₁] using hrest
    | singularCaseAlias =>
      have h₀ := hnone .exact (by rw [hx]; decide)
      have h₁ := hnone .caseAlias (by rw [hx]; decide)
      have h₂ := hnone .singular (by rw [hx]; decide)
      simpa [hx, h₀, h₁, h₂] using hrest

/-- Sorting by rank takes the ranks one after the other, and what is of one rank in order. -/
theorem sortByRank_eq (xs : List α) :
    sortByRank rank xs = NameRank.all.flatMap fun r => xs.filter (rank · = r) := by
  have hsorted := List.pairwise_mergeSort (atMost_trans rank) (atMost_total rank) xs
  simp only [decide_eq_true_eq] at hsorted
  calc sortByRank rank xs
      = NameRank.all.flatMap fun r => (sortByRank rank xs).filter (rank · = r) :=
        eq_flatMap_of_sorted hsorted
    _ = NameRank.all.flatMap fun r => xs.filter (rank · = r) := by
        simp only [filter_sortByRank]

end Sorting

/-! ## The order of the reasons -/

theorem NameRank.position_inj {r s : NameRank} (h : r.position = s.position) : r = s := by
  cases r <;> cases s <;> first | rfl | exact absurd h (by decide)

/-- What a search through all reasons finds is found for the least reason that has an answer. -/
theorem firstReason_eq_some_iff {β : Type _} {f : NameRank → Option β} {b : β} :
    NameRank.all.findSome? f = some b ↔
      ∃ rank, f rank = some b ∧ ∀ r, r.position < rank.position → f r = none := by
  rw [List.findSome?_eq_some_iff]
  constructor
  · rintro ⟨before, rank, after, hall, hb, hbefore⟩
    refine ⟨rank, hb, fun r hr => hbefore r ?_⟩
    -- `all` ascends, so a lesser reason cannot stand at or behind `rank`
    have hsorted : (before ++ rank :: after).Pairwise fun r s => r.position < s.position := by
      rw [← hall]; decide
    have hmem : r ∈ before ++ rank :: after := by
      rw [← hall]; cases r <;> decide
    rcases List.mem_append.1 hmem with hin | hin
    · exact hin
    · have hle : rank.position ≤ r.position := by
        rcases List.mem_cons.1 hin with rfl | hin
        · exact Nat.le_refl _
        · have htail := (List.pairwise_append.1 hsorted).2.1
          exact Nat.le_of_lt ((List.pairwise_cons.1 htail).1 r hin)
      omega
  · rintro ⟨rank, hb, hless⟩
    cases rank with
    | exact => exact ⟨[], .exact, _, rfl, hb, by simp⟩
    | caseAlias =>
      exact ⟨[.exact], .caseAlias, _, rfl, hb, by simpa using hless .exact (by decide)⟩
    | singular =>
      refine ⟨[.exact, .caseAlias], .singular, _, rfl, hb, ?_⟩
      simpa using ⟨hless .exact (by decide), hless .caseAlias (by decide)⟩
    | singularCaseAlias =>
      refine ⟨[.exact, .caseAlias, .singular], .singularCaseAlias, _, rfl, hb, ?_⟩
      simpa using ⟨hless .exact (by decide), hless .caseAlias (by decide),
        hless .singular (by decide)⟩

/-! ## Names of one attribute -/

/-- Of every name that has not been seen the first entry stays. -/
theorem mem_dropRepeated_iff {seen : List String} {entries : List (String × NameRank)}
    {name : String} {rank : NameRank} :
    (name, rank) ∈ dropRepeated seen entries ↔
      name ≠ "" ∧ name ∉ seen ∧ entries.find? (·.1 = name) = some (name, rank) := by
  induction entries generalizing seen with
  | nil => simp [dropRepeated]
  | cons entry rest ih =>
    obtain ⟨first, r⟩ := entry
    unfold dropRepeated
    rw [List.find?_cons]
    by_cases hdropped : first = "" ∨ first ∈ seen
    · rw [if_pos (by simpa using hdropped), ih]
      by_cases hname : first = name
      · subst hname
        rcases hdropped with hempty | hseen
        · simp [hempty]
        · simp [hseen]
      · simp [hname]
    · rw [if_neg (by simpa using hdropped), List.mem_cons, ih]
      obtain ⟨hempty, hseen⟩ := not_or.1 hdropped
      by_cases hname : first = name
      · subst hname
        simp [hempty, hseen, eq_comm]
      · simp [hname, Ne.symm hname]

section Earned

variable {inflector : Inflector} {caseAliases : Bool} {attr : String} {isList : Bool}

/-- Among the names that are earned for a reason there is the one that the reason gives. -/
theorem find?_filter_earnedNames (name : String) (r : NameRank) :
    ((earnedNames inflector caseAliases attr isList).filter (·.2 = r)).find? (·.1 = name) =
      if earnedName? inflector caseAliases attr isList r = some name then some (name, r)
      else none := by
  have hentry : ∀ x : NameRank,
      (((earnedName? inflector caseAliases attr isList x).map fun n => (n, x)).any fun entry =>
        decide (decide (entry.2 = r) = true ∧ decide (entry.1 = name) = true)) =
          decide (x = r ∧ earnedName? inflector caseAliases attr isList r = some name) := by
    intro x
    by_cases hx : x = r
    · subst hx
      cases earnedName? inflector caseAliases attr isList x with
      | none => simp
      | some n => simp
    · cases earnedName? inflector caseAliases attr isList x with
      | none => simp [hx]
      | some n => simp [hx]
  rw [List.find?_filter, earnedNames, List.find?_filterMap]
  simp only [hentry]
  by_cases hearned : earnedName? inflector caseAliases attr isList r = some name
  · cases r with
    | exact | caseAlias | singular | singularCaseAlias => simp [hearned]
  · simp [hearned]

/-- A callable name comes with the strongest reason for which it is earned. -/
theorem mem_accessorNames_iff {name : String} {rank : NameRank} :
    (name, rank) ∈ accessorNames inflector caseAliases attr isList ↔
      name ≠ "" ∧ earnedName? inflector caseAliases attr isList rank = some name ∧
        ∀ r, r.position < rank.position →
          earnedName? inflector caseAliases attr isList r ≠ some name := by
  rw [accessorNames, mem_dropRepeated_iff, sortByRank_eq, List.find?_flatMap]
  simp only [find?_filter_earnedNames, firstReason_eq_some_iff, ite_eq_right_iff, reduceCtorEq,
    imp_false, Option.ite_none_right_eq_some, Option.some.injEq, Prod.mk.injEq, true_and,
    List.not_mem_nil, not_false_eq_true]
  constructor
  · rintro ⟨hname, r, ⟨hearned, rfl⟩, hless⟩
    exact ⟨hname, hearned, hless⟩
  · rintro ⟨hname, hearned, hless⟩
    exact ⟨hname, rank, ⟨hearned, rfl⟩, hless⟩

/-- A name that is earned is a callable name, be it for a stronger reason. -/
theorem exists_mem_accessorNames {name : String} {r : NameRank} (hname : name ≠ "")
    (hearned : earnedName? inflector caseAliases attr isList r = some name) :
    ∃ rank, (name, rank) ∈ accessorNames inflector caseAliases attr isList := by
  -- by strength of the reason: a reason that is not the strongest is replaced by a stronger one
  induction hposition : r.position using Nat.strongRecOn generalizing r with
  | ind n ih =>
    subst hposition
    by_cases hstronger : ∃ s : NameRank, s.position < r.position ∧
        earnedName? inflector caseAliases attr isList s = some name
    · obtain ⟨s, hless, hs⟩ := hstronger
      exact ih s.position hless hs rfl
    · refine ⟨r, mem_accessorNames_iff.2 ⟨hname, hearned, fun s hless hs => ?_⟩⟩
      exact hstronger ⟨s, hless, hs⟩

end Earned

end SchemaNodes.Naming
