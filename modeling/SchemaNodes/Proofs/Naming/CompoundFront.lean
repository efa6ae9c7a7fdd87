import SchemaNodes.Proofs.Naming.LastWord
import SchemaNodes.Proofs.Naming.SuffixRule
import SchemaNodes.Proofs.Naming.WordTables

/-!
# The front of a compound name

What stands in front of the last word of a name also stands in front of its singular and of its
plural. The words are exchanged behind the front by their nature; the suffix rules read the whole
name, and leave the front alone because no rule replaces more than four letters.

* **`splitLastWord_lastWord`**: the last word of a name has one word.
* **`SuffixRule.Replaces.front_kept`**: a rule does not reach beyond the length of its endings.
* **`Inflector.Inflected.front_kept`**: nor does an inflection, where the whole name is not
  exchanged.
* **`front_untouched`**: the two for every inflector, in both directions.
-/

namespace SchemaNodes.Naming

variable {name front word form : List Char}

/-! ## One word -/

/-- Where a word begins in the last part of a name, one begins in the name. -/
theorem WordStart.behind {inner rest : List Char} (h : WordStart inner rest) (front : List Char) :
    WordStart (front ++ inner) rest := by
  obtain ⟨before, previous, rfl, hstarts⟩ := h
  rw [← List.append_assoc, wordStart_concat_iff]
  refine hstarts.imp_right fun ⟨hbefore, hmark⟩ => ⟨?_, hmark⟩
  simp [hbefore]

/-- The last word of a name, as a name of its own, is its own last word. -/
theorem IsLastWord.alone (h : IsLastWord front word) : IsLastWord [] word where
  starts := .inl rfl
  undivided inner rest hinner heq hstarts :=
    h.undivided inner rest hinner heq (hstarts.behind front)

theorem splitLastWord_lastWord (h : splitLastWord name = (front, word)) :
    splitLastWord word = ([], word) :=
  splitLastWord_eq_iff.2 ⟨rfl, (splitLastWord_eq_iff.1 h).2.alone⟩

/-! ## What reaches into the front -/

/-- A rule does not reach into the front of a name if what follows is as long as its endings. -/
theorem SuffixRule.Replaces.front_kept {rule : SuffixRule} (h : rule.Replaces name form)
    (hname : name = front ++ word) (hword : ∀ ending ∈ rule.endings, ending.length ≤ word.length) :
    front <+: form := by
  obtain ⟨hmem, hends, -⟩ := h
  rename_i stem tail ending
  have htail : tail.length ≤ word.length := by
    calc tail.length = ending.length := by
          rw [← String.length_toList, ← hends, List.length_map]
      _ ≤ word.length := hword ending hmem
  -- so the stem is at least as long as the front, and both are where the name begins
  have hlength : (stem ++ tail).length = (front ++ word).length := congrArg _ hname
  rw [List.length_append, List.length_append] at hlength
  have hstem : front <+: stem :=
    List.prefix_of_prefix_length_le (hname ▸ List.prefix_append front word)
      (List.prefix_append stem tail) (by omega)
  exact hstem.trans (List.prefix_append stem _)

theorem front_kept_applyFirst {rules : List SuffixRule} (hname : name = front ++ word)
    (hword : ∀ rule ∈ rules, ∀ ending ∈ rule.endings, ending.length ≤ word.length) :
    front <+: applyFirst rules name := by
  rcases applyFirst_append_cases rules [] name with ⟨rule, hrule, hform⟩ | ⟨hnone, -⟩
  · rw [List.append_nil] at hform
    exact hform.front_kept hname (hword rule hrule)
  · rw [applyFirst_eq_self hnone, hname]
    exact List.prefix_append front word

/-- An inflection does not reach into the front of a name, unless it exchanges the whole name. -/
theorem Inflector.Inflected.front_kept {inflector : Inflector} {table already : Dict String}
    {rules : List SuffixRule} (h : inflector.Inflected table already rules name form)
    (hsplit : splitLastWord name = (front, word))
    (hwhole : table.contains (Text.lowercase (String.ofList name)) = false)
    (hword : ∀ rule ∈ rules, ∀ ending ∈ rule.endings, ending.length ≤ word.length) :
    front <+: form := by
  have hname := (splitLastWord_eq_iff.1 hsplit).1
  cases h with
  | kept =>
    rw [hname]
    exact List.prefix_append front word
  | exchanged asked nonempty found =>
    rcases asked with ⟨-, rfl⟩ | hasked
    · rw [Dict.contains, found] at hwhole
      cases hwhole
    · rw [hsplit] at hasked
      cases hasked
      exact List.prefix_append front _
  | ruled => exact front_kept_applyFirst hname hword

/-! ## Both directions -/

theorem length_endings_le :
    ∀ rule ∈ singularRules ++ pluralRules, ∀ ending ∈ rule.endings, ending.length ≤ 4 := by
  decide

/-- **The front of a compound name.** A name is its front and its last word, which is one word. If
the last word has at least four letters, then the front stands in front of the singular and of the
plural, unless the table of the direction exchanges the name as a whole. -/
theorem front_untouched (inflector : Inflector) (name : String) (front word : List Char)
    (hsplit : splitLastWord name.toList = (front, word)) :
    front ++ word = name.toList ∧ splitLastWord word = ([], word) ∧
      (4 ≤ word.length →
        (inflector.singulars.contains (Text.lowercase name) = false →
          front <+: (inflector.singularize name).toList) ∧
        (inflector.plurals.contains (Text.lowercase name) = false →
          front <+: (inflector.pluralize name).toList)) := by
  refine ⟨(splitLastWord_eq_iff.1 hsplit).1.symm, splitLastWord_lastWord hsplit,
    fun hlength => ⟨fun hwhole => ?_, fun hwhole => ?_⟩⟩
  · rw [← String.ofList_toList (s := name)] at hwhole
    rw [Inflector.singularize, String.toList_ofList]
    refine (inflector.inflect_inflected _ _ _ _).front_kept hsplit hwhole ?_
    exact fun rule hrule ending hending =>
      (length_endings_le rule (List.mem_append_left _ hrule) ending hending).trans hlength
  · rw [← String.ofList_toList (s := name)] at hwhole
    rw [Inflector.pluralize, String.toList_ofList]
    refine (inflector.inflect_inflected _ _ _ _).front_kept hsplit hwhole ?_
    exact fun rule hrule ending hending =>
      (length_endings_le rule (List.mem_append_right _ hrule) ending hending).trans hlength

theorem front_untouched_policies :
    "SecurityGroup".toList <+: (Inflector.standard.singularize "SecurityGroupPolicies").toList ∧
      "SecurityGroup".toList <+: (Inflector.standard.pluralize "SecurityGroupPolicies").toList := by
  obtain ⟨-, -, hfront⟩ := front_untouched Inflector.standard "SecurityGroupPolicies"
    "SecurityGroup".toList "Policies".toList (by decide +kernel)
  exact ⟨(hfront (by decide)).1 (by decide +kernel), (hfront (by decide)).2 (by decide +kernel)⟩

/-- Four letters can reach into the front of a name whose last word has three. -/
example : splitLastWord "indiCes".toList = ("indi".toList, "Ces".toList) ∧
    Inflector.standard.singularize "indiCes" = "index" := by
  decide +kernel

end SchemaNodes.Naming
