import SchemaNodes.Proofs.Naming.AccessorName
import SchemaNodes.Proofs.Naming.SuffixRule
import SchemaNodes.Proofs.Naming.WordCase
import SchemaNodes.Proofs.Naming.WordTables

/-!
# Inflecting twice

When the plural of a plural is that plural, and the singular of a singular that singular, under the
words and rules known anyway. Each form that an inflection can end in is shown to stay: a name that
was kept, a word that was exchanged, and what the suffix rules leave behind.

* **`inflect_exchanged`**: an exchanged word stays.
* **`applyFirst_pluralRules_ends`**, **`pluralRules_fixed`**: the plural rules end a name in a
  single small s, and such a name stays unless it ends like an alias.
* **`SuffixRule.Replaces.singularEnd`**, **`SingularEnd.fixed`**: the singular rules leave no s at
  the end of a name but a double one or one of an alias, and only the latter do not stay.
* **`EndsIn`**: the ends of names that the results except.
* **`pluralize_pluralize`**, **`singularize_singularize`**: the results for whole names.
-/

namespace SchemaNodes.Naming

variable {inflector : Inflector} {table already : Dict String} {rules : List SuffixRule}
  {name front word : List Char}

/-! ## Names that stay -/

namespace Inflector

/-- A word that the table does not hold is not exchanged. -/
theorem eq_of_askWords {form : List Char}
    (hword : table.contains (Text.lowercase (String.ofList word)) = false)
    (h : inflector.askWords table already name front word = some form) : form = name := by
  obtain ⟨-, rfl | ⟨target, hfound, -⟩⟩ := askWords_eq_some h
  · rfl
  · rw [Dict.contains, hfound] at hword
    cases hword

/-- A name stays if the table does not hold it and its words keep it. -/
theorem inflect_of_kept
    (hwhole : table.contains (Text.lowercase (String.ofList name)) = false)
    (hkept : inflector.askWords table already name [] name = some name ∨
      inflector.askWords table already name (splitLastWord name).1 (splitLastWord name).2 =
        some name) :
    inflector.inflect table already rules name = name := by
  have hname : name ≠ [] := by
    rintro rfl
    simp [askWords, splitLastWord, splitFrom] at hkept
  rw [inflect_eq rules hname]
  cases hasked : inflector.askWords table already name [] name with
  | some form => exact eq_of_askWords hwhole hasked
  | none =>
    rw [hasked] at hkept
    rw [hkept.resolve_left (Option.some_ne_none name).symm]
    rfl

/-- A name stays if the table holds neither it nor its last word, and the rules keep it where the
words are silent. -/
theorem inflect_of_not_contains
    (hwhole : table.contains (Text.lowercase (String.ofList name)) = false)
    (hlast : table.contains (Text.lowercase (String.ofList (splitLastWord name).2)) = false)
    (hrules : inflector.askWords table already name [] name = none →
      inflector.askWords table already name (splitLastWord name).1 (splitLastWord name).2 = none →
        applyFirst rules name = name) :
    inflector.inflect table already rules name = name := by
  by_cases hname : name = []
  · rw [inflect, if_pos hname, hname]
  · rw [inflect_eq rules hname]
    cases hasked : inflector.askWords table already name [] name with
    | some form => exact eq_of_askWords hwhole hasked
    | none =>
      cases hasked' : inflector.askWords table already name (splitLastWord name).1
          (splitLastWord name).2 with
      | some form => exact eq_of_askWords hlast hasked'
      | none => exact hrules hasked hasked'

end Inflector

/-- A table does not hold a word whose last letters, ASCII letters, end none of its keys. -/
theorem not_contains_of_ending {ending : List Char} (hascii : ∀ c ∈ ending, Text.isAscii c = true)
    (htable : ∀ key, table.contains key = true → ¬ ending.map Char.toLower <:+ key.toList)
    (hword : ending <:+ word) :
    table.contains (Text.lowercase (String.ofList word)) = false := by
  obtain ⟨front, rfl⟩ := hword
  rw [Bool.eq_false_iff]
  exact fun hcontains => htable _ hcontains (Text.suffix_lowercase front hascii)

/-! ## Exchanged words

What is put in for a word is in the wanted form, and so is what has it for its last word. The table
could only exchange the result as a whole, for which its keys would have to end in what was put
in. -/

theorem splitLastWord_exchanged {target : List Char} (hsplit : splitLastWord name = (front, word))
    (nonempty : word ≠ []) (hplain : IsPlain target) (hlength : 2 ≤ target.length) :
    splitLastWord (front ++ matchCase word target) = (front, matchCase word target) :=
  splitLastWord_eq_iff.2
    ⟨rfl, (splitLastWord_eq_iff.1 hsplit).2.matchCase nonempty hplain (.inl hlength)⟩

theorem inflect_exchanged {target : String}
    (asked : front = [] ∧ word = name ∨ splitLastWord name = (front, word)) (nonempty : word ≠ [])
    (hplain : IsPlain target.toList) (hlength : 2 ≤ target.toList.length)
    (halready : already.contains (Text.lowercase target) = true)
    (htable : ∀ key, table.contains key = true → ¬ target.toList.map Char.toLower <:+ key.toList) :
    inflector.inflect table already rules (front ++ matchCase word target.toList) =
      front ++ matchCase word target.toList := by
  have hascii : ∀ c ∈ target.toList, Text.isAscii c = true := hplain.isAscii
  have hne : matchCase word target.toList ≠ [] :=
    matchCase_ne_nil hascii (List.ne_nil_of_length_pos (by omega))
  have hlower : Text.lowercase (String.ofList (matchCase word target.toList)) =
      Text.lowercase target :=
    Text.lowercase_eq_of_asciiLower_eq (asciiLower_matchCase word hascii)
  -- the word that was put in is kept wherever it is asked about
  have hkept : ∀ name' front', inflector.askWords table already name' front'
      (matchCase word target.toList) = some name' := fun name' front' =>
    Inflector.askWords_kept hne (.inr (hlower ▸ halready))
  have hwhole : table.contains (Text.lowercase (String.ofList
      (front ++ matchCase word target.toList))) = false :=
    not_contains_of_ending (isAscii_matchCase hascii) (by rwa [map_toLower_matchCase hascii])
      (List.suffix_append front _)
  refine Inflector.inflect_of_kept hwhole ?_
  rcases asked with ⟨rfl, -⟩ | hsplit
  · exact .inl (hkept _ [])
  · rw [splitLastWord_exchanged hsplit nonempty hplain hlength]
    exact .inr (hkept _ front)

/-! ## The pairs known anyway -/

namespace Inflector

theorem standard_eq_ofSettings : standard = ofSettings .default := rfl

/-- The forms of the pairs known anyway are plain words of several letters in lower case. -/
theorem irregularPairs_plain :
    ∀ pair ∈ irregularPairs, ∀ form ∈ [pair.1, pair.2],
      IsPlain form.toList ∧ 2 ≤ form.toList.length ∧ Text.lowercase form = form := by
  decide +kernel

theorem contains_plurals_standard_iff {key : String} :
    standard.plurals.contains key = true ↔ key ∈ irregularPairs.map (·.1) := by
  rw [standard_eq_ofSettings, contains_plurals_ofSettings_iff, List.mem_map]
  refine exists_congr fun pair => and_congr_right fun hpair => ?_
  rw [(irregularPairs_plain pair hpair pair.1 (by simp)).2.2]

theorem contains_singulars_standard_iff {key : String} :
    standard.singulars.contains key = true ↔ key ∈ irregularPairs.map (·.2) := by
  rw [standard_eq_ofSettings, contains_singulars_ofSettings_iff, List.mem_map]
  refine exists_congr fun pair => and_congr_right fun hpair => ?_
  rw [(irregularPairs_plain pair hpair pair.2 (by simp)).2.2]

theorem mem_of_find?_plurals_standard {key target : String}
    (h : standard.plurals.find? key = some target) : target ∈ irregularPairs.map (·.2) := by
  rw [standard_eq_ofSettings, find?_plurals_ofSettings] at h
  obtain ⟨pair, hfind, rfl⟩ := Option.map_eq_some_iff.1 h
  exact List.mem_map_of_mem (List.mem_reverse.1 (List.mem_of_find?_eq_some hfind))

theorem mem_of_find?_singulars_standard {key target : String}
    (h : standard.singulars.find? key = some target) : target ∈ irregularPairs.map (·.1) := by
  rw [standard_eq_ofSettings, find?_singulars_ofSettings] at h
  obtain ⟨pair, hfind, rfl⟩ := Option.map_eq_some_iff.1 h
  exact List.mem_map_of_mem (List.mem_reverse.1 (List.mem_of_find?_eq_some hfind))

/-- No form of a pair known anyway ends in a form of the other kind. -/
theorem irregularPairs_apart :
    ∀ singular ∈ irregularPairs.map (·.1), ∀ plural ∈ irregularPairs.map (·.2),
      ¬ plural.toList.map Char.toLower <:+ singular.toList ∧
        ¬ singular.toList.map Char.toLower <:+ plural.toList := by
  decide

end Inflector

/-! ## What the plural rules leave behind

Every plural rule ends the name in a small s, and none in a double one: where the name has an s at
its end already, the rule before has looked for a double one. -/

/-- The last two plural rules give a name a single small s, unless it ends in a double one. -/
theorem applyFirst_lastPluralRules {rev : List Char} (hss : endsWith rev ['s', 's'] = false) :
    ∃ stem, applyFirst (pluralRules.drop 4) rev.reverse = stem ++ ['s'] ∧
      endsWith stem.reverse ['s'] = false := by
  by_cases hs : endsWith rev ['s'] = true
  · cases rev with
    | nil => simp [endsWith] at hs
    | cons c rest =>
      have hc : foldLetter c = 's' := by simpa [endsWith] using hs
      have hrule : (SuffixRule.mk .anything ["s"] "s").replaced? (c :: rest).reverse =
          some (rest.reverse ++ ['s']) :=
        replaced?_append [c] (by simp [endsWith, hc]) rfl rfl
      refine ⟨rest.reverse, applyFirst_eq_of_first [] (by simp) hrule, ?_⟩
      simpa [endsWith, hc] using hss
  · have hsilent : (SuffixRule.mk .anything ["s"] "s").replaced? rev.reverse = none :=
      replaced?_eq_none_of_endings (by simpa using hs)
    refine ⟨rev.reverse, ?_, by simpa using hs⟩
    exact applyFirst_eq_of_first ((pluralRules.drop 4).take 1)
      (by simpa [pluralRules] using hsilent) (replaced?_append [] rfl rfl rfl)

/-- A name that the rules have made plural ends in a small s behind another letter than s. -/
theorem applyFirst_pluralRules_ends (name : List Char) :
    ∃ stem, applyFirst pluralRules name = stem ++ ['s'] ∧ endsWith stem.reverse ['s'] = false := by
  have hsplit : pluralRules = pluralRules.take 4 ++ pluralRules.drop 4 := rfl
  rw [hsplit]
  rcases applyFirst_append_cases (pluralRules.take 4) (pluralRules.drop 4) name with
    ⟨rule, hrule, hform⟩ | ⟨hsilent, hform⟩
  · have hes : ∀ rule ∈ pluralRules.take 4, ['e', 's'] <:+ rule.replacement.toList := by decide
    obtain ⟨before, hbefore⟩ := hes rule hrule
    generalize applyFirst _ name = form at hform
    cases hform with
    | @mk stem _ _ _ _ _ =>
      refine ⟨stem ++ before ++ ['e'], by simp [← hbefore], ?_⟩
      simp [endsWith, foldLetter_added]
  · rw [hform]
    obtain ⟨rev, rfl⟩ : ∃ rev, name = rev.reverse := ⟨name.reverse, (List.reverse_reverse _).symm⟩
    refine applyFirst_lastPluralRules ?_
    by_contra hss
    rw [Bool.not_eq_false] at hss
    have hhiss : (Stem.oneOf ["x", "ch", "ss", "sh"]).accepts rev = true := by
      simp [Stem.accepts, hss]
    -- the fourth rule would have applied
    have hrule : (SuffixRule.mk (.oneOf ["x", "ch", "ss", "sh"]) [""] "es").replaced?
        rev.reverse = some (rev.reverse ++ "es".toList) := replaced?_append [] rfl rfl hhiss
    rw [hsilent _ (by simp [pluralRules])] at hrule
    cases hrule

/-- A name that ends in a single small s is plural to the rules, unless it ends like an alias. -/
theorem pluralRules_fixed {stem : List Char} (hs : endsWith stem.reverse ['s'] = false)
    (halias : ∀ word ∈ ["alias", "status", "bus"],
      endsWith ('s' :: stem.reverse) word.toList.reverse = false) :
    applyFirst pluralRules (stem ++ ['s']) = stem ++ ['s'] := by
  have hrev : stem ++ ['s'] = ('s' :: stem.reverse).reverse := by simp
  have hrule : (SuffixRule.mk .anything ["s"] "s").replaced? ('s' :: stem.reverse).reverse =
      some (stem.reverse.reverse ++ ['s']) := replaced?_append ['s'] (by decide) rfl rfl
  rw [List.reverse_reverse, ← hrev] at hrule
  refine applyFirst_eq_of_first (pluralRules.take 4) ?_ hrule
  rw [hrev]
  simp only [pluralRules, List.take_succ_cons, List.take_zero, List.forall_mem_cons,
    List.not_mem_nil, false_imp_iff, implies_true, and_true]
  refine ⟨replaced?_oneOf_eq_none ?_, replaced?_oneOf_eq_none ?_, replaced?_eq_none_of_endings ?_,
    replaced?_oneOf_eq_none ?_⟩
  · simpa using halias
  · simp [endsWith, foldLetter_added]
  · simp [endsWith, foldLetter_added]
  · simp [endsWith, foldLetter_added, hs]

/-! ## The plural of a plural -/

/-- The name ends in the word, as the rules compare letters. -/
def EndsIn (name word : String) : Prop := word.toList <:+ name.toList.map foldLetter

instance (name word : String) : Decidable (EndsIn name word) :=
  inferInstanceAs (Decidable (_ <:+ _))

theorem endsWith_of_endsIn {name word : String}
    (h : endsWith name.toList.reverse word.toList.reverse = true) : EndsIn name word := by
  rw [endsWith_eq_true_iff, List.map_reverse, List.reverse_prefix] at h
  exact h

/-- No singular known anyway ends in an s. -/
theorem not_contains_plurals_of_s {word : List Char} (h : ['s'] <:+ word) :
    Inflector.standard.plurals.contains (Text.lowercase (String.ofList word)) = false := by
  have hnone : ∀ singular ∈ Inflector.irregularPairs.map (·.1),
      ¬ ['s'].map Char.toLower <:+ singular.toList := by
    decide
  refine not_contains_of_ending (by simp [Text.isAscii]) (fun key hkey => ?_) h
  exact hnone key (Inflector.contains_plurals_standard_iff.1 hkey)

theorem not_contains_plurals_lastWord {stem : List Char} :
    Inflector.standard.plurals.contains
      (Text.lowercase (String.ofList (splitLastWord (stem ++ ['s'])).2)) = false := by
  generalize hsplit : splitLastWord (stem ++ ['s']) = parts
  obtain ⟨front, word⟩ := parts
  have hname : stem ++ ['s'] = front ++ word := (splitLastWord_eq_iff.1 hsplit).1
  by_cases hword : word = []
  · rw [hword]
    show Inflector.standard.plurals.contains (Text.lowercase "") = false
    decide +kernel
  · refine not_contains_plurals_of_s (List.suffix_of_suffix_length_le
      (hname ▸ List.suffix_append stem ['s']) (List.suffix_append front word) ?_)
    exact List.length_pos_of_ne_nil hword

/-- **The plural of a plural.** A plural is its own plural, in any casing and in any compound,
unless it ends in `alias`, `status` or `bus`. -/
theorem pluralize_pluralize (name : String)
    (h : ∀ word ∈ ["alias", "status", "bus"],
      ¬ EndsIn (Inflector.standard.pluralize name) word) :
    Inflector.standard.pluralize (Inflector.standard.pluralize name) =
      Inflector.standard.pluralize name := by
  have hinflected := Inflector.standard.inflect_inflected Inflector.standard.plurals
    Inflector.standard.singulars pluralRules name.toList
  simp only [Inflector.pluralize, String.toList_ofList] at h ⊢
  generalize hform : Inflector.inflect _ _ _ _ name.toList = form at hinflected h ⊢
  congr 1
  cases hinflected with
  | kept => exact hform
  | exchanged asked nonempty found =>
    have htarget := Inflector.mem_of_find?_plurals_standard found
    obtain ⟨pair, hpair, rfl⟩ := List.mem_map.1 htarget
    obtain ⟨hplain, hlength, hlower⟩ := Inflector.irregularPairs_plain pair hpair pair.2 (by simp)
    refine inflect_exchanged asked nonempty hplain hlength ?_ fun key hkey => ?_
    · rw [hlower]
      exact Inflector.contains_singulars_standard_iff.2 htarget
    · exact (Inflector.irregularPairs_apart key (Inflector.contains_plurals_standard_iff.1 hkey)
        _ htarget).1
  | ruled whole last =>
    obtain ⟨stem, hstem, hs⟩ := applyFirst_pluralRules_ends name.toList
    rw [hstem] at h ⊢
    refine Inflector.inflect_of_not_contains (not_contains_plurals_of_s (List.suffix_append stem _))
      not_contains_plurals_lastWord fun _ _ => pluralRules_fixed hs fun word hword => ?_
    by_contra hends
    refine h word hword (endsWith_of_endsIn ?_)
    simpa using hends

/-- The plural of a compound whose last word has a plural by the rules. -/
theorem pluralize_pluralize_subnetPolicy :
    (∀ word ∈ ["alias", "status", "bus"],
      ¬ EndsIn (Inflector.standard.pluralize "SubnetPolicy") word) ∧
    Inflector.standard.pluralize "SubnetPolicy" = "SubnetPolicies" ∧
    Inflector.standard.pluralize (Inflector.standard.pluralize "SubnetPolicy") =
      Inflector.standard.pluralize "SubnetPolicy" := by
  have hends : ∀ word ∈ ["alias", "status", "bus"],
      ¬ EndsIn (Inflector.standard.pluralize "SubnetPolicy") word := by decide +kernel
  exact ⟨hends, by decide +kernel, pluralize_pluralize "SubnetPolicy" hends⟩

/-! ## What the singular rules leave behind -/

/-- How a name ends, given last letter first, to which a singular rule has been applied. -/
inductive SingularEnd (rev : List Char) : Prop where
  | aliasLike {word : String} (mem : word ∈ ["alias", "status", "bus"])
    (ends : endsWith rev word.toList.reverse = true) : SingularEnd rev
  | doubleS (ends : endsWith rev ['s', 's'] = true) : SingularEnd rev
  | otherLetter (ends : endsWith rev ['s'] = false) : SingularEnd rev

/-- The stems from which the rules take an ending without putting another in its place. -/
theorem singularEnd_of_oneOf {words : List String} {rev : List Char}
    (hwords : words ⊆ ["alias", "status", "bus", "address", "ss", "x", "ch", "sh"])
    (h : (Stem.oneOf words).accepts rev = true) : SingularEnd rev := by
  obtain ⟨word, hword, hends⟩ := List.any_eq_true.1 h
  have hmem := hwords hword
  simp only [List.mem_cons, List.not_mem_nil, or_false] at hmem
  rcases hmem with rfl | rfl | rfl | rfl | rfl | rfl | rfl | rfl
  · exact .aliasLike (by simp) hends
  · exact .aliasLike (by simp) hends
  · exact .aliasLike (by simp) hends
  · have haddress : "address".toList.reverse = ['s', 's'] ++ "addre".toList.reverse := rfl
    rw [haddress, endsWith_append, Bool.and_eq_true] at hends
    exact .doubleS hends.1
  · exact .doubleS hends
  · exact .otherLetter (endsWith_cons_eq_false hends (by decide))
  · exact .otherLetter (endsWith_cons_eq_false hends (by decide))
  · exact .otherLetter (endsWith_cons_eq_false hends (by decide))

theorem SuffixRule.Replaces.singularEnd {rule : SuffixRule} {name form : List Char}
    (h : rule.Replaces name form) (hrule : rule ∈ singularRules) : SingularEnd form.reverse := by
  have hletters : foldLetter 'x' ≠ 's' ∧ foldLetter 'y' ≠ 's' := by decide
  simp only [singularRules, List.mem_cons, List.not_mem_nil, or_false] at hrule
  rcases hrule with rfl | rfl | rfl | rfl | rfl | rfl | rfl
  · exact singularEnd_of_oneOf (by simp) (h.accepts_of_empty rfl)
  · exact singularEnd_of_oneOf (by simp) (h.accepts_of_empty rfl)
  · cases h
    exact .otherLetter (by simp [endsWith, hletters])
  · cases h
    exact .otherLetter (by simp [endsWith, hletters])
  · cases h
    exact .otherLetter (by simp [endsWith, hletters])
  · exact singularEnd_of_oneOf (by simp) (h.accepts_of_empty rfl)
  · have hstem := h.accepts_of_empty rfl
    refine .otherLetter ?_
    cases hrev : form.reverse with
    | nil => rfl
    | cons c rest => simpa [hrev, Stem.accepts, endsWith] using hstem

/-- A name that ends like none of the three words, and that a singular rule has been applied to, is
singular to the rules. -/
theorem SingularEnd.fixed {rev : List Char} (h : SingularEnd rev)
    (halias : ∀ word ∈ ["alias", "status", "bus"], endsWith rev word.toList.reverse = false) :
    applyFirst singularRules rev.reverse = rev.reverse := by
  cases h with
  | aliasLike mem ends =>
    rw [halias _ mem] at ends
    cases ends
  | doubleS ends =>
    have hrule : (SuffixRule.mk (.oneOf ["ss"]) [""] "").replaced? rev.reverse =
        some (rev.reverse ++ []) := replaced?_append [] rfl rfl (by simp [Stem.accepts, ends])
    rw [List.append_nil] at hrule
    exact applyFirst_eq_of_first [] (by simp) hrule
  | otherLetter ends =>
    -- every rule asks for an s at the end, in the stem or in the ending
    refine applyFirst_eq_self ?_
    simp only [singularRules, List.forall_mem_cons, List.not_mem_nil, false_imp_iff, implies_true,
      and_true]
    have hnone : ∀ word, endsWith rev ('s' :: word) = false := fun word => by
      rw [← List.singleton_append, endsWith_append, ends, Bool.false_and]
    refine ⟨replaced?_oneOf_eq_none ?_, replaced?_eq_none_of_endings ?_,
      replaced?_eq_none_of_endings ?_, replaced?_eq_none_of_endings ?_,
      replaced?_eq_none_of_endings ?_, replaced?_eq_none_of_endings ?_,
      replaced?_eq_none_of_endings ?_⟩ <;>
      simp [hnone]

/-! ## The singular of a singular -/

/-- The words are not silent about an uncountable word. -/
theorem not_uncountable_of_silent
    (h : Inflector.standard.askWords table already name front word = none) :
    Text.lowercase (String.ofList word) ∉ Inflector.uncountableWords := by
  intro hmem
  by_cases hword : word = []
  · rw [hword] at hmem
    exact absurd hmem (by decide +kernel)
  · rw [Inflector.askWords_kept hword (.inl hmem)] at h
    cases h

theorem inflect_singular {form : List Char}
    (hform : Inflector.standard.inflect Inflector.standard.singulars Inflector.standard.plurals
      singularRules name = form)
    (hwhole : Inflector.standard.singulars.contains (Text.lowercase (String.ofList form)) = false)
    (hlast : Inflector.standard.singulars.contains
      (Text.lowercase (String.ofList (splitLastWord form).2)) = false)
    (hsettled : (Text.lowercase (String.ofList form) ∈ Inflector.uncountableWords ∨
        Text.lowercase (String.ofList (splitLastWord form).2) ∈ Inflector.uncountableWords) ∨
      ∀ word ∈ ["alias", "status", "bus"], endsWith form.reverse word.toList.reverse = false) :
    Inflector.standard.inflect Inflector.standard.singulars Inflector.standard.plurals
      singularRules form = form := by
  have hinflected := Inflector.standard.inflect_inflected Inflector.standard.singulars
    Inflector.standard.plurals singularRules name
  rw [hform] at hinflected
  cases hinflected with
  | kept => exact hform
  | exchanged asked nonempty found =>
    have htarget := Inflector.mem_of_find?_singulars_standard found
    obtain ⟨pair, hpair, rfl⟩ := List.mem_map.1 htarget
    obtain ⟨hplain, hlength, hlower⟩ := Inflector.irregularPairs_plain pair hpair pair.1 (by simp)
    refine inflect_exchanged asked nonempty hplain hlength ?_ fun key hkey => ?_
    · rw [hlower]
      exact Inflector.contains_plurals_standard_iff.2 htarget
    · exact (Inflector.irregularPairs_apart _ htarget key
        (Inflector.contains_singulars_standard_iff.1 hkey)).2
  | ruled whole last =>
    refine Inflector.inflect_of_not_contains hwhole hlast fun hsilent hsilent' => ?_
    rcases applyFirst_append_cases singularRules [] name with ⟨rule, hrule, hreplaces⟩ | ⟨hnone, -⟩
    · rw [List.append_nil] at hreplaces
      have hend := hreplaces.singularEnd hrule
      have halias := hsettled.resolve_left (not_or.2
        ⟨not_uncountable_of_silent hsilent, not_uncountable_of_silent hsilent'⟩)
      simpa using hend.fixed halias
    · rw [applyFirst_eq_self hnone, applyFirst_eq_self hnone]

/-- **The singular of a singular.** A singular is its own singular, and a list under it has no names
but it and its case alias. This holds of every name whose singular is not the plural of an irregular
word, alone or in a compound, as the singular `People` of `Peoples` is, and does not end in `alias`,
`status` or `bus` or else is uncountable. -/
theorem singularize_singularize (name : String) :
    let one := Inflector.standard.singularize name
    let texts := [one, String.ofList (splitLastWord one.toList).2]
    (∀ text ∈ texts, Text.lowercase text ∉ Inflector.irregularPairs.map (·.2)) →
    ((∃ text ∈ texts, Text.lowercase text ∈ Inflector.uncountableWords) ∨
      ∀ word ∈ ["alias", "status", "bus"], ¬ EndsIn one word) →
    Inflector.standard.singularize one = one ∧
      ∀ caseAliases, ∀ entry ∈ accessorNames Inflector.standard caseAliases one true,
        entry.1 = one ∨ entry.1 = Text.swapFirstCase one := by
  intro one texts hsingular hsettled
  have hcontains : ∀ text ∈ texts,
      Inflector.standard.singulars.contains (Text.lowercase text) = false := fun text htext => by
    rw [Bool.eq_false_iff, Ne, Inflector.contains_singulars_standard_iff]
    exact hsingular text htext
  have hfixed : Inflector.standard.singularize one = one := by
    have hwhole := hcontains one (by simp [texts])
    rw [← String.ofList_toList (s := one)] at hwhole
    have hlist : one.toList = Inflector.standard.inflect Inflector.standard.singulars
        Inflector.standard.plurals singularRules name.toList := String.toList_ofList
    have hagain := inflect_singular hlist.symm hwhole (hcontains _ (by simp [texts])) ?_
    · rw [Inflector.singularize, hagain, String.ofList_toList]
    · rw [String.ofList_toList]
      refine hsettled.imp (fun htexts => ?_) fun halias word hword => ?_
      · simpa [texts] using htexts
      · rw [← Bool.not_eq_true]
        exact fun hends => halias word hword (endsWith_of_endsIn hends)
  refine ⟨hfixed, fun caseAliases entry hentry => ?_⟩
  obtain ⟨text, rank⟩ := entry
  have hearned := (mem_accessorNames_iff.1 hentry).2.1
  cases rank with
  | exact => simp_all [earnedName?]
  | caseAlias => simp_all [earnedName?]
  | singular => simp_all [earnedName?]
  | singularCaseAlias => simp_all [earnedName?]

/-- The singular of a compound, and that of an uncountable word with an s at its end. -/
theorem singularize_singularize_policies :
    let one := Inflector.standard.singularize "SubnetPolicies"
    let kept := Inflector.standard.singularize "OrderStatus"
    one = "SubnetPolicy" ∧ Inflector.standard.singularize one = one ∧
      kept = "OrderStatus" ∧ Inflector.standard.singularize kept = kept := by
  intro one kept
  have hone : one = "SubnetPolicy" := by decide +kernel
  have hkept : kept = "OrderStatus" := by decide +kernel
  have hfixed := singularize_singularize "SubnetPolicies" (by decide +kernel)
    (.inr (by decide +kernel))
  have hfixed' := singularize_singularize "OrderStatus" (by decide +kernel)
    (.inl ⟨_, List.mem_cons_of_mem _ List.mem_cons_self, by decide +kernel⟩)
  exact ⟨hone, hfixed.1, hkept, hfixed'.1⟩

/-- Singulars with a singular of their own: an irregular plural, and an alias. -/
theorem singulars_of_singulars :
    Inflector.standard.singularize "Peoples" = "People" ∧
      Inflector.standard.singularize "People" = "Person" ∧
      Inflector.standard.singularize "Aliases" = "Alias" ∧
      Inflector.standard.singularize "Alias" = "Alia" ∧
      ¬ ∀ name, Inflector.standard.singularize (Inflector.standard.singularize name) =
        Inflector.standard.singularize name := by
  have hpeoples : Inflector.standard.singularize "Peoples" = "People" := by decide +kernel
  have hpeople : Inflector.standard.singularize "People" = "Person" := by decide +kernel
  refine ⟨hpeoples, hpeople, by decide +kernel, by decide +kernel, fun hfixed => ?_⟩
  have hpeoples' := hfixed "Peoples"
  rw [hpeoples, hpeople] at hpeoples'
  exact absurd hpeoples' (by decide)

end SchemaNodes.Naming
