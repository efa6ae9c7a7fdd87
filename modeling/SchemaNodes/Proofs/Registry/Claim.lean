import Mathlib.Data.List.Find
import Mathlib.Data.List.Nodup
import SchemaNodes.Proofs.Naming.AccessorName
import SchemaNodes.Registry.AccessorTable

/-!
# Claims on callable names

Who owns a callable name. `Attribute.Claims` says for which reasons an attribute claims a name, one
line for each reason and without the table; `AccessorTable.ofAttributes` sorts the candidates that
the attributes put up, each for its strongest claim only, and binds them in turn.

* **`claims_iff_earnedName?`**: a claim is a name that is earned and not empty.
* **`mem_accessorNames_iff_claims`**: an attribute puts up its strongest claim on a name.
* **`find?_ofAttributes`**: a look-up goes through the reasons, and for each through the attributes.
* **`ofAttributes_owner`**: a name belongs to the claim that is least by reason and then by place,
  so declared names are safe, and the callable names fall apart into those of the attributes.
-/

namespace SchemaNodes

open Naming

/-! ## Claims

A name is claimed for one of four reasons. The empty name is out of reach for all of them, and a
nameless attribute claims nothing, since swapping and singularizing keep it nameless. -/

/-- The attribute claims the name for the reason. -/
def Attribute.Claims (inflector : Inflector) (caseAliases : Bool) (a : Attribute) (name : String)
    (rank : NameRank) : Prop :=
  name ≠ "" ∧
    match rank with
    | .exact => name = a.name
    | .caseAlias => caseAliases = true ∧ name = Text.swapFirstCase a.name
    | .singular => a.isList = true ∧ name = inflector.singularize a.name
    | .singularCaseAlias =>
      caseAliases = true ∧ a.isList = true ∧
        name = Text.swapFirstCase (inflector.singularize a.name)

variable {inflector : Inflector} {caseAliases : Bool} {attributes : List Attribute}

/-- A claim is a name that is earned and not empty. -/
theorem Attribute.claims_iff_earnedName? {a : Attribute} {name : String} {rank : NameRank} :
    a.Claims inflector caseAliases name rank ↔
      name ≠ "" ∧ earnedName? inflector caseAliases a.name a.isList rank = some name := by
  unfold Claims
  cases rank with
  | exact => simp [earnedName?, eq_comm]
  | caseAlias => cases caseAliases <;> simp [earnedName?, eq_comm]
  | singular => cases a.isList <;> simp [earnedName?, eq_comm]
  | singularCaseAlias =>
    cases a.isList <;> cases caseAliases <;> simp [earnedName?, eq_comm]

instance (a : Attribute) (name : String) (rank : NameRank) :
    Decidable (a.Claims inflector caseAliases name rank) :=
  decidable_of_iff _ Attribute.claims_iff_earnedName?.symm

theorem Naming.Inflector.singularize_empty (inflector : Inflector) :
    inflector.singularize "" = "" := by
  simp [singularize, inflect]

theorem Text.swapFirstCase_empty : Text.swapFirstCase "" = "" := by
  simp [swapFirstCase, swapFirst]

/-- Whoever claims a name has one. -/
theorem Attribute.Claims.name_ne_empty {a : Attribute} {name : String} {rank : NameRank}
    (h : a.Claims inflector caseAliases name rank) : a.name ≠ "" := by
  intro hname
  obtain ⟨hne, hrank⟩ := h
  apply hne
  cases rank with
  | exact => exact hrank.trans hname
  | caseAlias => rw [hrank.2, hname, Text.swapFirstCase_empty]
  | singular => rw [hrank.2, hname, Inflector.singularize_empty]
  | singularCaseAlias =>
    rw [hrank.2.2, hname, Inflector.singularize_empty, Text.swapFirstCase_empty]

/-- An attribute puts up its strongest claim on a name, and no other. -/
theorem mem_accessorNames_iff_claims {a : Attribute} {name : String} {rank : NameRank} :
    (name, rank) ∈ accessorNames inflector caseAliases a.name a.isList ↔
      a.Claims inflector caseAliases name rank ∧
        ∀ r, r.position < rank.position → ¬ a.Claims inflector caseAliases name r := by
  simp only [mem_accessorNames_iff, Attribute.claims_iff_earnedName?, not_and]
  constructor
  · rintro ⟨hname, hearned, hless⟩
    exact ⟨⟨hname, hearned⟩, fun r hr _ => hless r hr⟩
  · rintro ⟨⟨hname, hearned⟩, hless⟩
    exact ⟨hname, hearned, fun r hr => hless r hr hname⟩

/-- Whoever claims a name puts up a claim that is at least as strong. -/
theorem Attribute.Claims.exists_mem_accessorNames {a : Attribute} {name : String} {rank : NameRank}
    (h : a.Claims inflector caseAliases name rank) :
    ∃ r, r.position ≤ rank.position ∧
      (name, r) ∈ accessorNames inflector caseAliases a.name a.isList := by
  induction hposition : rank.position using Nat.strongRecOn generalizing rank with
  | ind position ih =>
    by_cases hstronger : ∃ r : NameRank, r.position < rank.position ∧
        a.Claims inflector caseAliases name r
    · obtain ⟨r, hlt, hr⟩ := hstronger
      obtain ⟨s, hs, hmem⟩ := ih r.position (hposition ▸ hlt) hr rfl
      exact ⟨s, by omega, hmem⟩
    · refine ⟨rank, by omega, mem_accessorNames_iff_claims.2 ⟨h, fun r hr hclaim => ?_⟩⟩
      exact hstronger ⟨r, hr, hclaim⟩

/-! ## What the table binds

The candidates are bound in order of rank and within a rank in the order of the attributes, and the
first for a name gets it. A look-up is therefore a search through the reasons that searches through
the attributes (`find?_ofAttributes`), and its result is the least claim
(`find?_eq_some_iff_least`). It makes no difference that only strongest claims are put up. -/

namespace AccessorTable

/-- The first candidate of a rank for a name is that of the first attribute which puts it up. -/
theorem find?_candidates (attributes : List Attribute) (name : String) (rank : NameRank) :
    (((candidates inflector caseAliases attributes).filter (·.rank = rank)).find?
      (·.name = name)).map (·.owner) =
        attributes.find? fun a =>
          (name, rank) ∈ accessorNames inflector caseAliases a.name a.isList := by
  have hown : ∀ a : Attribute,
      (((accessorNames inflector caseAliases a.name a.isList).map fun entry =>
        (⟨entry.1, entry.2, a⟩ : Candidate)).filter (·.rank = rank)).find? (·.name = name) =
          if (name, rank) ∈ accessorNames inflector caseAliases a.name a.isList
          then some ⟨name, rank, a⟩ else none := by
    intro a
    rw [List.filter_map, List.find?_map, List.find?_filter]
    cases hfound : (accessorNames inflector caseAliases a.name a.isList).find? fun entry =>
        decide (decide (entry.2 = rank) = true ∧ decide (entry.1 = name) = true) with
    | none =>
      have hmem : (name, rank) ∉ accessorNames inflector caseAliases a.name a.isList := fun h =>
        List.find?_eq_none.1 hfound _ h (by simp)
      rw [if_neg hmem]
      exact congrArg (Option.map _) hfound
    | some entry =>
      obtain ⟨n, r⟩ := entry
      have hentry := List.find?_some hfound
      simp only [decide_eq_true_eq] at hentry
      obtain ⟨rfl, rfl⟩ := hentry
      rw [if_pos (List.mem_of_find?_eq_some hfound)]
      exact congrArg (Option.map _) hfound
  rw [candidates, List.filter_flatMap, List.find?_flatMap, List.map_findSome?]
  induction attributes with
  | nil => rfl
  | cons a rest ih =>
    rw [List.findSome?_cons, List.find?_cons, ih, Function.comp, hown]
    by_cases hmem : (name, rank) ∈ accessorNames inflector caseAliases a.name a.isList
    · simp [hmem]
    · simp [hmem]

/-- A look-up goes through the candidates of one reason after the other. -/
theorem find?_sorted_candidates (attributes : List Attribute) (name : String) :
    (ofAttributes inflector caseAliases attributes).find? name =
      NameRank.all.findSome? fun rank =>
        attributes.find? fun a =>
          (name, rank) ∈ accessorNames inflector caseAliases a.name a.isList := by
  rw [ofAttributes, find?_grant, Dict.find?_empty, Option.none_or, sortByRank_eq,
    List.find?_flatMap, List.map_findSome?]
  exact congrArg (NameRank.all.findSome? ·) (funext fun rank => find?_candidates _ name rank)

/-- A look-up goes through the reasons, and for each through the attributes. -/
theorem find?_ofAttributes (attributes : List Attribute) (name : String) :
    (ofAttributes inflector caseAliases attributes).find? name =
      NameRank.all.findSome? fun rank =>
        attributes.find? fun a => a.Claims inflector caseAliases name rank := by
  rw [find?_sorted_candidates]
  refine Option.ext fun a => ?_
  rw [firstReason_eq_some_iff, firstReason_eq_some_iff]
  refine exists_congr fun rank => ?_
  -- the attributes with a claim for a lesser reason also put up one for a lesser reason
  have hnone : (∀ r, r.position < rank.position → (attributes.find? fun b =>
      (name, r) ∈ accessorNames inflector caseAliases b.name b.isList) = none) ↔
        ∀ r, r.position < rank.position → (attributes.find? fun b =>
          b.Claims inflector caseAliases name r) = none := by
    simp only [List.find?_eq_none, decide_eq_true_eq]
    constructor
    · intro h r hr b hb hclaim
      obtain ⟨s, hs, hmem⟩ := hclaim.exists_mem_accessorNames
      exact h s (Nat.lt_of_le_of_lt hs hr) b hb hmem
    · intro h r hr b hb hmem
      exact h r hr b hb (mem_accessorNames_iff_claims.1 hmem).1
  rw [hnone]
  refine and_congr_left fun hless => ?_
  -- and where none has a claim for a lesser reason, the claims are those that are put up
  have hsame : ∀ b ∈ attributes,
      decide ((name, rank) ∈ accessorNames inflector caseAliases b.name b.isList) =
        decide (b.Claims inflector caseAliases name rank) := by
    intro b hb
    rw [decide_eq_decide, mem_accessorNames_iff_claims]
    refine and_iff_left fun r hr => ?_
    simpa using List.find?_eq_none.1 (hless r hr) b hb
  rw [List.find?_congr hsame]

/-- A name leads to the first attribute that claims it for the least reason for which it is claimed
at all. -/
theorem find?_eq_some_iff_firstReason {name : String} {a : Attribute} :
    (ofAttributes inflector caseAliases attributes).find? name = some a ↔
      ∃ rank,
        (attributes.find? fun b => b.Claims inflector caseAliases name rank) = some a ∧
          ∀ r, r.position < rank.position →
            ∀ b ∈ attributes, ¬ b.Claims inflector caseAliases name r := by
  rw [find?_ofAttributes, firstReason_eq_some_iff]
  simp only [List.find?_eq_none, decide_eq_true_eq]

/-- A name is bound if and only if some attribute claims it. -/
theorem exists_find?_iff_claims {name : String} :
    (∃ a, (ofAttributes inflector caseAliases attributes).find? name = some a) ↔
      ∃ a ∈ attributes, ∃ rank, a.Claims inflector caseAliases name rank := by
  rw [← Option.isSome_iff_exists, find?_ofAttributes, List.findSome?_isSome_iff]
  simp only [List.find?_isSome, decide_eq_true_eq]
  constructor
  · rintro ⟨rank, -, a, ha, hclaim⟩
    exact ⟨a, ha, rank, hclaim⟩
  · rintro ⟨a, ha, rank, hclaim⟩
    exact ⟨rank, by cases rank <;> decide, a, ha, hclaim⟩

/-- What a name leads to is one of the attributes, and claims the name. -/
theorem claims_of_find? {name : String} {a : Attribute}
    (h : (ofAttributes inflector caseAliases attributes).find? name = some a) :
    a ∈ attributes ∧ ∃ rank, a.Claims inflector caseAliases name rank := by
  obtain ⟨rank, hfound, -⟩ := find?_eq_some_iff_firstReason.1 h
  exact ⟨List.mem_of_find?_eq_some hfound, rank, by simpa using List.find?_some hfound⟩

/-- The attribute at place `i` has the least claim on a name: no claim has a lesser reason, and none
for the same reason comes from an earlier attribute. -/
def HasLeastClaim (inflector : Inflector) (caseAliases : Bool) (attributes : List Attribute)
    (name : String) (i : Nat) (a : Attribute) : Prop :=
  attributes[i]? = some a ∧ ∃ rank, a.Claims inflector caseAliases name rank ∧
    ∀ j b r, attributes[j]? = some b → b.Claims inflector caseAliases name r →
      rank.position < r.position ∨ rank.position = r.position ∧ i ≤ j

/-- A name leads to the attribute with the least claim. -/
theorem find?_eq_some_iff_least {name : String} {a : Attribute} :
    (ofAttributes inflector caseAliases attributes).find? name = some a ↔
      ∃ i, HasLeastClaim inflector caseAliases attributes name i a := by
  rw [find?_eq_some_iff_firstReason]
  constructor
  · rintro ⟨rank, hfound, hless⟩
    obtain ⟨hclaim, i, hi, rfl, hfirst⟩ := List.find?_eq_some_iff_getElem.1 hfound
    refine ⟨i, List.getElem?_eq_getElem hi, rank, by simpa using hclaim, ?_⟩
    intro j b r hj hb
    rcases Nat.lt_trichotomy rank.position r.position with hlt | heq | hgt
    · exact .inl hlt
    · refine .inr ⟨heq, Nat.le_of_not_lt fun hji => ?_⟩
      obtain ⟨hjlt, rfl⟩ := List.getElem?_eq_some_iff.1 hj
      have hnot := hfirst j hji
      rw [NameRank.position_inj heq] at hnot
      simp [hb] at hnot
    · exact absurd hb (hless r hgt b (List.mem_of_getElem? hj))
  · rintro ⟨i, hi, rank, hclaim, hleast⟩
    obtain ⟨hlt, rfl⟩ := List.getElem?_eq_some_iff.1 hi
    refine ⟨rank, List.find?_eq_some_iff_getElem.2
      ⟨by simpa using hclaim, i, hlt, rfl, fun j hji => ?_⟩, ?_⟩
    · simp only [Bool.not_eq_true', decide_eq_false_iff_not]
      intro hb
      have hcases := hleast j _ rank (List.getElem?_eq_getElem (Nat.lt_trans hji hlt)) hb
      omega
    · intro r hr b hb hclaimb
      obtain ⟨j, hj⟩ := List.mem_iff_getElem?.1 hb
      have hcases := hleast j b r hj hclaimb
      omega

/-! ## Consequences for distinct declared names -/

/-- Where the declared names are distinct, each leads to its own attribute, whatever else claims
it. -/
theorem find?_of_distinct (hnames : attributes.Pairwise fun a b => a.name ≠ b.name)
    {a : Attribute} (ha : a ∈ attributes) (hne : a.name ≠ "") :
    (ofAttributes inflector caseAliases attributes).find? a.name = some a := by
  obtain ⟨i, hi, rfl⟩ := List.getElem_of_mem ha
  refine find?_eq_some_iff_firstReason.2 ⟨.exact, List.find?_eq_some_iff_getElem.2
    ⟨decide_eq_true ⟨hne, rfl⟩, i, hi, rfl, fun j hji => ?_⟩,
    fun r hr => absurd hr (Nat.not_lt_zero _)⟩
  -- no other attribute has the name, so none in front of it makes a claim by name
  have hother := List.pairwise_iff_getElem.1 hnames j i (Nat.lt_trans hji hi) hi hji
  simp only [Bool.not_eq_true', decide_eq_false_iff_not]
  intro hclaim
  exact hother hclaim.2.symm

/-- A declared name leads to its own attribute, whatever else claims it. -/
theorem find?_declared (hnames : attributes.Pairwise fun a b => a.name < b.name) {a : Attribute}
    (ha : a ∈ attributes) (hne : a.name ≠ "") :
    (ofAttributes inflector caseAliases attributes).find? a.name = some a :=
  find?_of_distinct (hnames.imp String.ne_of_lt) ha hne

/-- The names that lead to an attribute, by look-up. -/
theorem mem_namesFor_iff {table : AccessorTable} {name attr : String} :
    name ∈ table.namesFor attr ↔ ∃ a, table.find? name = some a ∧ a.name = attr := by
  unfold namesFor
  constructor
  · intro h
    obtain ⟨⟨key, a⟩, hmem, rfl⟩ := List.mem_map.1 h
    obtain ⟨hentry, hattr⟩ := List.mem_filter.1 hmem
    exact ⟨a, Dict.mem_entries_iff.1 hentry, by simpa using hattr⟩
  · rintro ⟨a, hfind, rfl⟩
    refine List.mem_map.2 ⟨(name, a), List.mem_filter.2 ⟨Dict.mem_entries_iff.2 hfind, ?_⟩, rfl⟩
    simp

theorem nodup_namesFor (table : AccessorTable) (attr : String) : (table.namesFor attr).Nodup :=
  table.sorted.nodup_keys.sublist (List.filter_sublist.map _)

/-- The callable names are those of the attributes, taken together without repetition. -/
theorem flatMap_namesFor_perm_keys (hnames : attributes.Pairwise fun a b => a.name < b.name) :
    (attributes.flatMap fun a =>
      (ofAttributes inflector caseAliases attributes).namesFor a.name).Perm
        (ofAttributes inflector caseAliases attributes).keys := by
  have hnodup : (attributes.flatMap fun a =>
      (ofAttributes inflector caseAliases attributes).namesFor a.name).Nodup := by
    refine List.nodup_flatMap.2 ⟨fun a _ => nodup_namesFor _ _, hnames.imp ?_⟩
    intro a b hab name ha hb
    obtain ⟨c, hc, hca⟩ := mem_namesFor_iff.1 ha
    obtain ⟨d, hd, hdb⟩ := mem_namesFor_iff.1 hb
    obtain rfl : c = d := Option.some.inj (hc.symm.trans hd)
    rw [← hca, hdb] at hab
    exact String.lt_irrefl _ hab
  refine (List.perm_ext_iff_of_nodup hnodup (Dict.sorted _).nodup_keys).2 fun name => ?_
  rw [← Dict.keys, Dict.mem_keys_iff, List.mem_flatMap]
  constructor
  · rintro ⟨a, -, hname⟩
    obtain ⟨b, hb, -⟩ := mem_namesFor_iff.1 hname
    exact ⟨b, hb⟩
  · rintro ⟨a, ha⟩
    exact ⟨a, (claims_of_find? ha).1, mem_namesFor_iff.2 ⟨a, ha, rfl⟩⟩

/-! ## The headline -/

/-- **The table is the least claim.** For attributes in name order, a name is bound if and only if
some attribute claims it, and then to the attribute with the least claim by reason and place.
Declared names therefore lead to their own attributes, an attribute without a name is out of reach,
and the callable names fall apart into those of the attributes. -/
theorem ofAttributes_owner (inflector : Inflector) (caseAliases : Bool)
    {attributes : List Attribute} (hnames : attributes.Pairwise fun a b => a.name < b.name) :
    let table := ofAttributes inflector caseAliases attributes
    (∀ name, (∃ a, table.find? name = some a) ↔
      ∃ a ∈ attributes, ∃ rank, a.Claims inflector caseAliases name rank) ∧
    (∀ name a, table.find? name = some a ↔
      ∃ i, HasLeastClaim inflector caseAliases attributes name i a) ∧
    (∀ a ∈ attributes, a.name ≠ "" → table.find? a.name = some a) ∧
    (∀ name a, table.find? name = some a → a.name ≠ "") ∧
    table.keys.Nodup ∧
    (attributes.flatMap fun a => table.namesFor a.name).Perm table.keys := by
  refine ⟨fun name => exists_find?_iff_claims, fun name a => find?_eq_some_iff_least,
    fun a ha hne => find?_declared hnames ha hne, fun name a h => ?_,
    (Dict.sorted _).nodup_keys, flatMap_namesFor_perm_keys hnames⟩
  obtain ⟨-, rank, hclaim⟩ := claims_of_find? h
  exact hclaim.name_ne_empty

/-- The list `Policies` earns `policy` as its swapped singular, but `Policy` has the better claim:
its own name swapped. -/
theorem ofAttributes_owner_policy :
    [Attribute.mk "Policies" true 1, .mk "Policy" false 1].Pairwise (fun a b => a.name < b.name) ∧
    (Attribute.mk "Policies" true 1).Claims .standard true "policy" .singularCaseAlias ∧
    (ofAttributes .standard true [.mk "Policies" true 1, .mk "Policy" false 1]).find? "policy" =
      some (.mk "Policy" false 1) := by
  have hnames : [Attribute.mk "Policies" true 1, .mk "Policy" false 1].Pairwise
      (fun a b => a.name < b.name) := by decide
  have hswapped : (Attribute.mk "Policy" false 1).Claims .standard true "policy" .caseAlias :=
    ⟨by decide, rfl, by decide⟩
  refine ⟨hnames, ⟨by decide, rfl, rfl, by decide +kernel⟩,
    ((ofAttributes_owner .standard true hnames).2.1 _ _).2 ⟨1, rfl, .caseAlias, hswapped, ?_⟩⟩
  intro j b r hj hb
  match j, hj with
  | 0, hj =>
    obtain rfl : Attribute.mk "Policies" true 1 = b := by simpa using hj
    cases r with
    | exact => exact absurd hb.2 (by decide)
    | caseAlias => exact absurd hb.2.2 (by decide)
    | singular => exact .inl (by decide)
    | singularCaseAlias => exact .inl (by decide)
  | 1, hj =>
    obtain rfl : Attribute.mk "Policy" false 1 = b := by simpa using hj
    cases r with
    | exact => exact absurd hb.2 (by decide)
    | caseAlias => exact .inr ⟨rfl, Nat.le_refl 1⟩
    | singular => exact .inl (by decide)
    | singularCaseAlias => exact .inl (by decide)
  | j + 2, hj => simp at hj

end AccessorTable

end SchemaNodes
