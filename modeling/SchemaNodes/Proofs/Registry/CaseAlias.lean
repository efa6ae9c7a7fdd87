import SchemaNodes.Proofs.Registry.Claim

/-!
# What case aliases change

The tables of the same attributes without and with case aliases. A look-up tries the reasons one
after the other. Without case aliases two of the four are left, the declared name and the singular;
with them the swapped declared name comes between these two, and the swapped singular behind them.

* **`find?_without_caseAliases`**, **`find?_with_caseAliases`**: the two look-ups over the same
  searches, one for each reason.
* **`firstClaim?_of_redirected`**, **`firstClaim?_of_added`**: which search gives the answer where
  the tables differ.
* **`changed_by_caseAliases`**: so names are only added or redirected, and which ones.
-/

namespace SchemaNodes

open Naming

variable {inflector : Inflector} {attributes : List Attribute}

/-! ## The claims that do not depend on case aliases

Claims by declared name and by singular are the same in both tables, and the other two are made only
where case aliases count. -/

theorem Attribute.claims_false_iff {a : Attribute} {name : String} {rank : NameRank} :
    a.Claims inflector false name rank ↔
      a.Claims inflector true name rank ∧ (rank = .exact ∨ rank = .singular) := by
  cases rank with
  | exact => simp [Attribute.Claims]
  | caseAlias => simp [Attribute.Claims]
  | singular => simp [Attribute.Claims]
  | singularCaseAlias => simp [Attribute.Claims]

namespace AccessorTable

/-- The first attribute that claims a name for a reason, where case aliases count. -/
def firstClaim? (inflector : Inflector) (attributes : List Attribute) (name : String)
    (rank : NameRank) : Option Attribute :=
  attributes.find? fun a => a.Claims inflector true name rank

theorem claims_of_firstClaim? {name : String} {rank : NameRank} {a : Attribute}
    (h : firstClaim? inflector attributes name rank = some a) :
    a.Claims inflector true name rank := by
  unfold firstClaim? at h
  simpa using List.find?_some h

/-- Only a declared name is claimed by name. -/
theorem firstClaim?_exact_eq_none {name : String} (hname : name ≠ "")
    (h : firstClaim? inflector attributes name .exact = none) :
    ∀ a ∈ attributes, a.name ≠ name := by
  intro a ha heq
  have hclaim : a.Claims inflector true name .exact := ⟨hname, heq.symm⟩
  exact List.find?_eq_none.1 h a ha (decide_eq_true hclaim)

/-- A search through a list asks the first element and then the rest. -/
theorem findSome?_cons_or {α β : Type} (f : α → Option β) (x : α) (xs : List α) :
    (x :: xs).findSome? f = (f x).or (xs.findSome? f) := by
  rw [List.findSome?_cons]
  cases f x with
  | some b => rfl
  | none => rfl

theorem find?_with_caseAliases (name : String) :
    (ofAttributes inflector true attributes).find? name =
      (firstClaim? inflector attributes name .exact).or
        ((firstClaim? inflector attributes name .caseAlias).or
          ((firstClaim? inflector attributes name .singular).or
            (firstClaim? inflector attributes name .singularCaseAlias))) := by
  rw [find?_ofAttributes]
  show NameRank.all.findSome? (firstClaim? inflector attributes name) = _
  simp only [NameRank.all, findSome?_cons_or, List.findSome?_nil, Option.or_none]

theorem find?_without_caseAliases (name : String) :
    (ofAttributes inflector false attributes).find? name =
      (firstClaim? inflector attributes name .exact).or
        (firstClaim? inflector attributes name .singular) := by
  have hkept : ∀ rank : NameRank, rank = .exact ∨ rank = .singular →
      (attributes.find? fun a => a.Claims inflector false name rank) =
        firstClaim? inflector attributes name rank := by
    intro rank hrank
    refine List.find?_congr fun a _ => ?_
    rw [decide_eq_decide, Attribute.claims_false_iff, and_iff_left hrank]
  have hdropped : ∀ rank : NameRank, ¬ (rank = .exact ∨ rank = .singular) →
      (attributes.find? fun a => a.Claims inflector false name rank) = none := by
    intro rank hrank
    refine List.find?_eq_none.2 fun a _ hclaim => hrank ?_
    exact (Attribute.claims_false_iff.1 (of_decide_eq_true hclaim)).2
  rw [find?_ofAttributes]
  simp only [NameRank.all, findSome?_cons_or, List.findSome?_nil, hkept .exact (.inl rfl),
    hdropped .caseAlias (by decide), hkept .singular (.inr rfl),
    hdropped .singularCaseAlias (by decide), Option.none_or, Option.or_none]

/-! ## Where the tables differ -/

/-- A name that is bound without case aliases is bound with them. -/
theorem bound_with_caseAliases {name : String} {a : Attribute}
    (h : (ofAttributes inflector false attributes).find? name = some a) :
    ∃ b, (ofAttributes inflector true attributes).find? name = some b := by
  rw [find?_without_caseAliases] at h
  rw [← Option.isSome_iff_exists, find?_with_caseAliases]
  rcases Option.or_eq_some_iff.1 h with hexact | ⟨-, hsingular⟩
  · simp [hexact]
  · simp [hsingular]

/-- A name that leads elsewhere with case aliases is nobody's declared name: without them its
singular counts, and with them a swapped name in front of that. -/
theorem firstClaim?_of_redirected {name : String} {a b : Attribute}
    (hoff : (ofAttributes inflector false attributes).find? name = some a)
    (hon : (ofAttributes inflector true attributes).find? name = some b) (hne : a ≠ b) :
    firstClaim? inflector attributes name .exact = none ∧
      firstClaim? inflector attributes name .singular = some a ∧
        firstClaim? inflector attributes name .caseAlias = some b := by
  rw [find?_without_caseAliases] at hoff
  rw [find?_with_caseAliases] at hon
  cases hexact : firstClaim? inflector attributes name .exact with
  | some c =>
    -- a declared name is first in both look-ups
    rw [hexact, Option.some_or] at hoff hon
    exact absurd (Option.some.inj (hoff.symm.trans hon)) hne
  | none =>
    rw [hexact, Option.none_or] at hoff hon
    refine ⟨rfl, hoff, ?_⟩
    cases hcase : firstClaim? inflector attributes name .caseAlias with
    | some c =>
      rw [hcase, Option.some_or] at hon
      exact hon
    | none =>
      -- then the singular is next in both
      rw [hcase, Option.none_or, hoff, Option.some_or] at hon
      exact absurd (Option.some.inj hon) hne

/-- A name that is bound only with case aliases is a swapped name. -/
theorem firstClaim?_of_added {name : String} {a : Attribute}
    (hoff : (ofAttributes inflector false attributes).find? name = none)
    (hon : (ofAttributes inflector true attributes).find? name = some a) :
    firstClaim? inflector attributes name .caseAlias = some a ∨
      firstClaim? inflector attributes name .singularCaseAlias = some a := by
  rw [find?_without_caseAliases, Option.or_eq_none_iff] at hoff
  obtain ⟨hexact, hsingular⟩ := hoff
  rw [find?_with_caseAliases, hexact, Option.none_or, hsingular, Option.none_or] at hon
  rcases Option.or_eq_some_iff.1 hon with hcase | ⟨-, hswapped⟩
  · exact .inl hcase
  · exact .inr hswapped

/-! ## The headline -/

/-- **Case aliases add names and redirect some singulars.** For attributes with distinct names:
whatever is bound without case aliases is bound with them, and a declared name that is not empty
leads to its own attribute in both tables. A name that leads to another attribute with case aliases
is the singular of the list that it led to, is not declared, and is the swapped name of the
attribute that it leads to now. A name that is only bound with case aliases is the swapped name, or
the swapped singular, of the attribute that it leads to. -/
theorem changed_by_caseAliases (inflector : Inflector) {attributes : List Attribute}
    (hnames : attributes.Pairwise fun a b => a.name ≠ b.name) :
    let off := ofAttributes inflector false attributes
    let on := ofAttributes inflector true attributes
    (∀ name a, off.find? name = some a → ∃ b, on.find? name = some b) ∧
    (∀ a ∈ attributes, a.name ≠ "" →
      off.find? a.name = some a ∧ on.find? a.name = some a) ∧
    (∀ name a b, off.find? name = some a → on.find? name = some b → a ≠ b →
      a.isList = true ∧ name = inflector.singularize a.name ∧
        (∀ c ∈ attributes, c.name ≠ name) ∧ Text.swapFirstCase b.name = name) ∧
    (∀ name a, off.find? name = none → on.find? name = some a →
      name = Text.swapFirstCase a.name ∨
        a.isList = true ∧ name = Text.swapFirstCase (inflector.singularize a.name)) := by
  refine ⟨fun name a => bound_with_caseAliases,
    fun a ha hne => ⟨find?_of_distinct hnames ha hne, find?_of_distinct hnames ha hne⟩, ?_, ?_⟩
  · intro name a b hoff hon hne
    obtain ⟨hexact, hsingular, hcase⟩ := firstClaim?_of_redirected hoff hon hne
    obtain ⟨hname, hlist, hsingular⟩ := claims_of_firstClaim? hsingular
    obtain ⟨-, -, hswapped⟩ := claims_of_firstClaim? hcase
    exact ⟨hlist, hsingular, firstClaim?_exact_eq_none hname hexact, hswapped.symm⟩
  · intro name a hoff hon
    rcases firstClaim?_of_added hoff hon with hcase | hcase
    · exact .inl (claims_of_firstClaim? hcase).2.2
    · exact .inr (claims_of_firstClaim? hcase).2.2

/-- Without case aliases `policy` is the singular of `policies`; with them it is `Policy`, swapped. -/
theorem changed_by_caseAliases_policy :
    let attributes : List Attribute := [⟨"Policy", false, 1⟩, ⟨"policies", true, 1⟩]
    attributes.Pairwise (fun a b => a.name ≠ b.name) ∧
    (ofAttributes .standard false attributes).find? "policy" = some ⟨"policies", true, 1⟩ ∧
    (ofAttributes .standard true attributes).find? "policy" = some ⟨"Policy", false, 1⟩ ∧
    Text.swapFirstCase "Policy" = "policy" := by
  intro attributes
  have hnames : attributes.Pairwise fun a b => a.name ≠ b.name := by decide
  have hoff : (ofAttributes .standard false attributes).find? "policy" =
      some ⟨"policies", true, 1⟩ := by
    rw [find?_ofAttributes]
    decide +kernel
  have hon : (ofAttributes .standard true attributes).find? "policy" =
      some ⟨"Policy", false, 1⟩ := by
    rw [find?_ofAttributes]
    decide +kernel
  obtain ⟨-, -, hredirected, -⟩ := changed_by_caseAliases .standard hnames
  obtain ⟨-, -, -, hswapped⟩ := hredirected _ _ _ hoff hon (by decide)
  exact ⟨hnames, hoff, hon, hswapped⟩

/-- An attribute without a name is declared under the empty name, and is out of reach in both
tables. -/
theorem nameless_out_of_reach :
    (Attribute.mk "" false 0) ∈ [Attribute.mk "" false 0] ∧
      (ofAttributes .standard false [.mk "" false 0]).find? "" ≠ some (.mk "" false 0) ∧
      (ofAttributes .standard true [.mk "" false 0]).find? "" ≠ some (.mk "" false 0) := by
  refine ⟨List.mem_singleton.2 rfl, fun h => ?_, fun h => ?_⟩
  · obtain ⟨-, rank, hclaim⟩ := claims_of_find? h
    exact hclaim.name_ne_empty rfl
  · obtain ⟨-, rank, hclaim⟩ := claims_of_find? h
    exact hclaim.name_ne_empty rfl

end AccessorTable

end SchemaNodes
