import SchemaNodes.Naming.Suffix
import SchemaNodes.Proofs.Text.Case

/-!
# Suffix rules, one at a time

How endings are compared, when a rule applies and what it makes of a name, and which of several
rules decides. Rules read a name from its last letter on, so `rev` is a name with its last letter
first here.

* **`endsWith_eq_true_iff`**: an ending is compared with the last letters of a name after folding.
* **`SuffixRule.Replaces`**: what a rule can make of a name, in the order in which it is written.
* **`replaces_of_replaced?`**: a rule that applies replaces one of its endings.
* **`applyFirst_eq_of_first`**: the first rule that applies decides.
* **`applyFirst_append_cases`**: either one of the first rules applies or the others decide.
-/

namespace SchemaNodes.Naming

/-! ## Letters and endings -/

theorem foldLetter_eq_s_iff {c : Char} : foldLetter c = 's' ↔ c = 's' ∨ c = 'S' ∨ c = 'ſ' := by
  unfold foldLetter
  split
  · next h => simp [h]
  · next hlong =>
    split
    · next h => simp [h]
    · rw [Text.toLower_eq_iff (by decide)]
      simp [hlong]

/-- Apart from s and k, letters are compared as ASCII is. -/
theorem foldLetter_eq_iff {c small : Char} (hsmall : small.isLower) (hs : small ≠ 's')
    (hk : small ≠ 'k') : foldLetter c = small ↔ c.toLower = small := by
  unfold foldLetter
  split
  · next h =>
    -- the long s is no capital of a small letter
    have hlower : c.toLower = 'ſ' := by rw [h]; decide
    rw [hlower]
    exact ⟨fun h => absurd h.symm hs, by rintro rfl; exact absurd hsmall (by decide)⟩
  · split
    · next h =>
      have hlower : c.toLower = '\u212a' := by rw [h]; decide
      rw [hlower]
      exact ⟨fun h => absurd h.symm hk, by rintro rfl; exact absurd hsmall (by decide)⟩
    · rfl

theorem foldLetter_eq_iff_or {c small : Char} (hsmall : small.isLower) (hs : small ≠ 's')
    (hk : small ≠ 'k') : foldLetter c = small ↔ c = small ∨ c = small.toUpper := by
  rw [foldLetter_eq_iff hsmall hs hk, Text.toLower_eq_iff hsmall]

/-- The letters of the endings that the plural rules add are compared as they are. -/
theorem foldLetter_added : foldLetter 's' = 's' ∧ foldLetter 'e' = 'e' ∧ foldLetter 'i' = 'i' := by
  decide

theorem endsWith_append (rev first second : List Char) :
    endsWith rev (first ++ second) =
      (endsWith rev first && endsWith (rev.drop first.length) second) := by
  induction first generalizing rev with
  | nil => simp [endsWith]
  | cons w first ih =>
    cases rev with
    | nil => rfl
    | cons c rev =>
      rw [List.cons_append, endsWith, endsWith, ih, List.length_cons, List.drop_succ_cons,
        Bool.and_assoc]

/-- A name ends in a word as rules compare letters, if the word comes first among its letters after
folding, where both are given last letter first. -/
theorem endsWith_eq_true_iff {rev word : List Char} :
    endsWith rev word = true ↔ word <+: rev.map foldLetter := by
  induction word generalizing rev with
  | nil => simp [endsWith]
  | cons w word ih =>
    cases rev with
    | nil => simp [endsWith]
    | cons c rev =>
      rw [endsWith, Bool.and_eq_true, beq_iff_eq, ih, List.map_cons, List.cons_prefix_cons, eq_comm]

/-- Two endings with different last letters exclude each other. -/
theorem endsWith_cons_eq_false {rev word word' : List Char} {w w' : Char}
    (h : endsWith rev (w :: word) = true) (hne : w ≠ w') : endsWith rev (w' :: word') = false := by
  cases rev with
  | nil => rfl
  | cons c rev =>
    rw [endsWith, Bool.and_eq_true, beq_iff_eq] at h
    rw [endsWith, h.1, beq_eq_false_iff_ne.2 hne, Bool.false_and]

/-- What a name ends in, it ends in apart from ASCII case, if no s and no k is involved. -/
theorem isPrefix_of_endsWith {rev word : List Char}
    (hword : ∀ w ∈ word, w.isLower = true ∧ w ≠ 's' ∧ w ≠ 'k') (h : endsWith rev word = true) :
    word <+: rev.map Char.toLower := by
  induction word generalizing rev with
  | nil => exact List.nil_prefix
  | cons w word ih =>
    obtain ⟨⟨hlower, hs, hk⟩, hrest⟩ := List.forall_mem_cons.1 hword
    cases rev with
    | nil => simp [endsWith] at h
    | cons c rev =>
      rw [endsWith, Bool.and_eq_true, beq_iff_eq, foldLetter_eq_iff hlower hs hk] at h
      rw [List.map_cons, h.1, List.cons_prefix_cons]
      exact ⟨rfl, ih hrest h.2⟩

/-! ## One rule -/

theorem replaced?_reverse (rule : SuffixRule) (rev : List Char) :
    rule.replaced? rev.reverse =
      (rule.endings.findSome? (rule.strip? rev)).map fun stem =>
        stem.reverse ++ rule.replacement.toList := by
  rw [SuffixRule.replaced?, List.reverse_reverse]

/-- A rule for certain stems applies only to names that end in a stem and an ending. -/
theorem replaced?_oneOf_eq_none {words endings : List String} {replacement : String}
    {rev : List Char}
    (h : ∀ word ∈ words, ∀ ending ∈ endings, endsWith rev (word ++ ending).toList.reverse = false) :
    (SuffixRule.mk (.oneOf words) endings replacement).replaced? rev.reverse = none := by
  rw [replaced?_reverse, Option.map_eq_none_iff, List.findSome?_eq_none_iff]
  intro ending hending
  rw [SuffixRule.strip?, if_neg]
  rw [Bool.and_eq_true, Stem.accepts, List.any_eq_true]
  rintro ⟨hends, word, hword, hstem⟩
  have hboth := h word hword ending hending
  rw [String.toList_append, List.reverse_append, endsWith_append, hends, List.length_reverse,
    String.length_toList, hstem] at hboth
  exact absurd hboth (by decide)

theorem replaced?_eq_none_of_endings {rule : SuffixRule} {rev : List Char}
    (h : ∀ ending ∈ rule.endings, endsWith rev ending.toList.reverse = false) :
    rule.replaced? rev.reverse = none := by
  rw [replaced?_reverse, Option.map_eq_none_iff, List.findSome?_eq_none_iff]
  intro ending hending
  rw [SuffixRule.strip?, h ending hending]
  rfl

theorem replaced?_eq_none_of_not {condition : Stem} {ending replacement : String} {rev : List Char}
    (h : ¬ (endsWith rev ending.toList.reverse = true ∧
      condition.accepts (rev.drop ending.length) = true)) :
    (SuffixRule.mk condition [ending] replacement).replaced? rev.reverse = none := by
  rw [← Bool.and_eq_true] at h
  rw [replaced?_reverse, List.findSome?_singleton, SuffixRule.strip?, if_neg h]
  rfl

theorem endsWith_append_right {rev word : List Char} (more : List Char)
    (h : endsWith rev word = true) : endsWith (rev ++ more) word = true := by
  rw [endsWith_eq_true_iff] at h ⊢
  rw [List.map_append]
  exact h.trans (List.prefix_append _ _)

/-- A rule with one ending applies to a stem it accepts with that ending behind it. -/
theorem replaced?_append {condition : Stem} {ending replacement : String} (tail : List Char)
    {stem : List Char}
    (hends : endsWith tail ending.toList.reverse = true) (hlength : tail.length = ending.length)
    (hstem : condition.accepts stem = true) :
    (SuffixRule.mk condition [ending] replacement).replaced? (tail ++ stem).reverse =
      some (stem.reverse ++ replacement.toList) := by
  have hdrop : (tail ++ stem).drop ending.length = stem := by rw [← hlength, List.drop_left]
  rw [replaced?_reverse, List.findSome?_singleton, SuffixRule.strip?, hdrop,
    endsWith_append_right stem hends, hstem]
  rfl

/-- What a rule can make of a name: behind a stem that it accepts, one of its endings gives way to
the replacement. -/
inductive SuffixRule.Replaces (rule : SuffixRule) : List Char → List Char → Prop where
  | mk {stem tail : List Char} {ending : String} (mem : ending ∈ rule.endings)
    (ends : tail.map foldLetter = ending.toList)
    (accepts : rule.stem.accepts stem.reverse = true) :
    rule.Replaces (stem ++ tail) (stem ++ rule.replacement.toList)

/-- A rule that applies replaces one of its endings. -/
theorem replaces_of_replaced? {rule : SuffixRule} {name form : List Char}
    (h : rule.replaced? name = some form) : rule.Replaces name form := by
  obtain ⟨rev, rfl⟩ : ∃ rev, name = rev.reverse := ⟨name.reverse, (List.reverse_reverse _).symm⟩
  rw [replaced?_reverse] at h
  obtain ⟨stem, hfind, rfl⟩ := Option.map_eq_some_iff.1 h
  obtain ⟨ending, hmem, hstrip⟩ := List.exists_of_findSome?_eq_some hfind
  rw [SuffixRule.strip?, Option.ite_none_right_eq_some, Option.some.injEq,
    Bool.and_eq_true] at hstrip
  obtain ⟨⟨hends, haccepts⟩, rfl⟩ := hstrip
  -- the letters that are dropped are the ending, apart from folding
  have hname : rev.reverse =
      (rev.drop ending.length).reverse ++ (rev.take ending.length).reverse := by
    rw [← List.reverse_append, List.take_append_drop]
  have htail : (rev.take ending.length).reverse.map foldLetter = ending.toList := by
    have hfolded := List.prefix_iff_eq_take.1 (endsWith_eq_true_iff.1 hends)
    rw [List.length_reverse, String.length_toList] at hfolded
    rw [List.map_reverse, List.map_take, ← hfolded, List.reverse_reverse]
  rw [hname]
  exact .mk hmem htail (by rwa [List.reverse_reverse])

/-- A rule that only takes an ending away leaves a stem that it accepts. -/
theorem SuffixRule.Replaces.accepts_of_empty {rule : SuffixRule} {name form : List Char}
    (h : rule.Replaces name form) (hempty : rule.replacement = "") :
    rule.stem.accepts form.reverse = true := by
  cases h with
  | mk _ _ accepts => simpa [hempty] using accepts

/-! ## The first rule that applies -/

theorem applyFirst_eq_of_first (before : List SuffixRule) {after : List SuffixRule}
    {rule : SuffixRule} {name form : List Char} (hbefore : ∀ r ∈ before, r.replaced? name = none)
    (h : rule.replaced? name = some form) :
    applyFirst (before ++ rule :: after) name = form := by
  have hnone : before.findSome? (fun r => r.replaced? name) = none :=
    List.findSome?_eq_none_iff.2 hbefore
  rw [applyFirst, List.findSome?_append, hnone, List.findSome?_cons, h]
  rfl

/-- Either one of the first rules applies and decides, or the others do. -/
theorem applyFirst_append_cases (before after : List SuffixRule) (name : List Char) :
    (∃ rule ∈ before, rule.Replaces name (applyFirst (before ++ after) name)) ∨
      (∀ rule ∈ before, rule.replaced? name = none) ∧
        applyFirst (before ++ after) name = applyFirst after name := by
  rw [applyFirst, List.findSome?_append]
  cases hfind : before.findSome? fun rule => rule.replaced? name with
  | some form =>
    obtain ⟨rule, hmem, hform⟩ := List.exists_of_findSome?_eq_some hfind
    exact .inl ⟨rule, hmem, replaces_of_replaced? hform⟩
  | none => exact .inr ⟨List.findSome?_eq_none_iff.1 hfind, rfl⟩

theorem applyFirst_eq_self {rules : List SuffixRule} {name : List Char}
    (h : ∀ rule ∈ rules, rule.replaced? name = none) : applyFirst rules name = name := by
  rw [applyFirst, List.findSome?_eq_none_iff.2 h]
  rfl

end SchemaNodes.Naming
