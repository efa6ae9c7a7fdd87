import SchemaNodes.Proofs.Naming.AccessorName
import SchemaNodes.Proofs.Naming.WordCase
import SchemaNodes.Proofs.Naming.WordTables

/-!
# Irregular and uncountable words

The tables go before the suffix rules, for a word alone and for the last word of a compound name.

* **`Undisputed`**: an irregular pair whose forms belong to no other pair and are countable.
* **`Undisputed.forms_singular`**, **`Undisputed.forms_plural`**: both forms of a name that ends in
  a form of such a pair.
* **`forms_of_uncountable`**: both forms of a name that ends in an uncountable word.
* **`tables_precede_rules`**: the three together, for every setting.
* **`singularize_plural_compound`**: when the way from a compound name to its plural leads back.
-/

namespace SchemaNodes

/-- An irregular pair in force, of ASCII words, whose forms are countable and belong to no other
pair. -/
structure NamingSettings.Undisputed (settings : NamingSettings) (singular plural : String) :
    Prop where
  mem : (singular, plural) ∈ settings.irregularPairs
  ascii : ∀ form ∈ [singular, plural], form.toList.all Text.isAscii = true
  ne_empty : ∀ form ∈ [singular, plural], form ≠ ""
  different : Text.lowercase singular ≠ Text.lowercase plural
  countable : ∀ form ∈ [singular, plural], ¬ settings.IsUncountable form
  /-- No form is a form of another pair. -/
  alone : ∀ pair ∈ settings.irregularPairs, pair ≠ (singular, plural) →
    ∀ form ∈ [singular, plural],
      Text.lowercase pair.1 ≠ Text.lowercase form ∧ Text.lowercase pair.2 ≠ Text.lowercase form

instance (settings : NamingSettings) (singular plural : String) :
    Decidable (settings.Undisputed singular plural) :=
  decidable_of_iff
    ((singular, plural) ∈ settings.irregularPairs ∧
      (∀ form ∈ [singular, plural], form.toList.all Text.isAscii = true) ∧
      (∀ form ∈ [singular, plural], form ≠ "") ∧
      Text.lowercase singular ≠ Text.lowercase plural ∧
      (∀ form ∈ [singular, plural], ¬ settings.IsUncountable form) ∧
      ∀ pair ∈ settings.irregularPairs, pair ≠ (singular, plural) →
        ∀ form ∈ [singular, plural],
          Text.lowercase pair.1 ≠ Text.lowercase form ∧
            Text.lowercase pair.2 ≠ Text.lowercase form)
    ⟨fun ⟨h₁, h₂, h₃, h₄, h₅, h₆⟩ => ⟨h₁, h₂, h₃, h₄, h₅, h₆⟩,
      fun ⟨h₁, h₂, h₃, h₄, h₅, h₆⟩ => ⟨h₁, h₂, h₃, h₄, h₅, h₆⟩⟩

namespace Naming

/-! ## What is asked about -/

section Asks

variable {settings : NamingSettings} {name : String} {front word : List Char}

theorem Inflector.asks_whole {inflector : Inflector} (hname : name.toList ≠ []) :
    inflector.Asks name.toList [] name.toList :=
  ⟨hname, .inl ⟨rfl, rfl⟩⟩

theorem asks_lastWord (hword : word ≠ []) (hname : ¬ settings.IsTableWord name)
    (hsplit : splitLastWord name.toList = (front, word)) :
    (Inflector.ofSettings settings).Asks name.toList front word := by
  refine ⟨hword, .inr ⟨?_, hsplit⟩⟩
  rw [String.ofList_toList, knows_ofSettings_iff]
  exact fun h => hname h.2

end Asks

end Naming

/-! ## Undisputed pairs

The table that leads from a form of an undisputed pair holds the other form, and the table that is
asked whether a form is there already holds it under the form itself. -/

namespace NamingSettings.Undisputed

open Naming

variable {settings : NamingSettings} {singular plural name : String} {front word : List Char}

/-- A pair that shares a form with an undisputed pair is that pair. -/
theorem eq_of_form (h : settings.Undisputed singular plural) {pair : String × String}
    {form : String} (hpair : pair ∈ settings.irregularPairs) (hform : form ∈ [singular, plural])
    (heq : Text.lowercase pair.1 = Text.lowercase form ∨
      Text.lowercase pair.2 = Text.lowercase form) : pair = (singular, plural) := by
  by_contra hne
  have halone := h.alone pair hpair hne form hform
  exact heq.elim halone.1 halone.2

theorem isAscii_of_mem (h : settings.Undisputed singular plural) {form : String}
    (hform : form ∈ [singular, plural]) : ∀ c ∈ form.toList, Text.isAscii c = true :=
  List.all_eq_true.1 (h.ascii form hform)

theorem ne_nil_of_form (h : settings.Undisputed singular plural) {form : String}
    (hform : form ∈ [singular, plural])
    (hword : Text.lowercase (String.ofList word) = Text.lowercase form) : word ≠ [] := by
  rintro rfl
  exact Text.lowercase_ne_empty (h.ne_empty form hform) (h.isAscii_of_mem hform) hword.symm

theorem find?_plurals (h : settings.Undisputed singular plural) :
    (Inflector.ofSettings settings).plurals.find? (Text.lowercase singular) = some plural := by
  have hfind : settings.irregularPairs.reverse.find?
      (fun pair => Text.lowercase pair.1 = Text.lowercase singular) = some (singular, plural) := by
    refine find?_eq_some_of_unique (List.mem_reverse.2 h.mem) (by simp) fun pair hpair heq => ?_
    exact h.eq_of_form (List.mem_reverse.1 hpair) (by simp) (.inl (of_decide_eq_true heq))
  rw [find?_plurals_ofSettings, hfind]
  rfl

theorem find?_singulars (h : settings.Undisputed singular plural) :
    (Inflector.ofSettings settings).singulars.find? (Text.lowercase plural) = some singular := by
  have hfind : settings.irregularPairs.reverse.find?
      (fun pair => Text.lowercase pair.2 = Text.lowercase plural) = some (singular, plural) := by
    refine find?_eq_some_of_unique (List.mem_reverse.2 h.mem) (by simp) fun pair hpair heq => ?_
    exact h.eq_of_form (List.mem_reverse.1 hpair) (by simp) (.inr (of_decide_eq_true heq))
  rw [find?_singulars_ofSettings, hfind]
  rfl

theorem not_contains_plurals (h : settings.Undisputed singular plural) :
    (Inflector.ofSettings settings).plurals.contains (Text.lowercase plural) = false := by
  rw [Bool.eq_false_iff, Ne, contains_plurals_ofSettings_iff]
  rintro ⟨pair, hpair, heq⟩
  have hself := h.eq_of_form hpair (by simp) (.inl heq)
  exact h.different (by rw [← heq, hself])

theorem not_contains_singulars (h : settings.Undisputed singular plural) :
    (Inflector.ofSettings settings).singulars.contains (Text.lowercase singular) = false := by
  rw [Bool.eq_false_iff, Ne, contains_singulars_ofSettings_iff]
  rintro ⟨pair, hpair, heq⟩
  have hself := h.eq_of_form hpair (by simp) (.inr heq)
  exact h.different (by rw [← heq, hself])

/-- The forms of a name that ends in the singular of an undisputed pair. -/
theorem forms_singular (h : settings.Undisputed singular plural)
    (hasks : (Inflector.ofSettings settings).Asks name.toList front word)
    (hword : Text.lowercase (String.ofList word) = Text.lowercase singular) :
    (Inflector.ofSettings settings).forms name =
      ⟨name, String.ofList (front ++ matchCase word plural.toList)⟩ := by
  have hcountable : Text.lowercase singular ∉ (Inflector.ofSettings settings).uncountable :=
    mt mem_uncountable_ofSettings_iff.1 (h.countable singular (by simp))
  obtain ⟨hexchanged, hkept⟩ := Inflector.askWords_exchanged name.toList front
    hasks.1 (hword ▸ hcountable) (hword ▸ h.not_contains_singulars)
    (hword ▸ h.find?_plurals)
  rw [Inflector.forms, Inflector.pluralize_of_asks hasks hexchanged,
    Inflector.singularize_of_asks hasks hkept, String.ofList_toList]

/-- The forms of a name that ends in the plural of an undisputed pair. -/
theorem forms_plural (h : settings.Undisputed singular plural)
    (hasks : (Inflector.ofSettings settings).Asks name.toList front word)
    (hword : Text.lowercase (String.ofList word) = Text.lowercase plural) :
    (Inflector.ofSettings settings).forms name =
      ⟨String.ofList (front ++ matchCase word singular.toList), name⟩ := by
  have hcountable : Text.lowercase plural ∉ (Inflector.ofSettings settings).uncountable :=
    mt mem_uncountable_ofSettings_iff.1 (h.countable plural (by simp))
  obtain ⟨hexchanged, hkept⟩ := Inflector.askWords_exchanged name.toList front
    hasks.1 (hword ▸ hcountable) (hword ▸ h.not_contains_plurals)
    (hword ▸ h.find?_singulars)
  rw [Inflector.forms, Inflector.singularize_of_asks hasks hexchanged,
    Inflector.pluralize_of_asks hasks hkept, String.ofList_toList]

/-! A form that stands alone is the part of the name that is asked about, and a form in the case of
another word is still that form. -/

theorem forms_singular_whole (h : settings.Undisputed singular plural)
    (hname : Text.lowercase name = Text.lowercase singular) :
    (Inflector.ofSettings settings).forms name =
      ⟨name, String.ofList (matchCase name.toList plural.toList)⟩ := by
  rw [← String.ofList_toList (s := name)] at hname
  exact h.forms_singular (Inflector.asks_whole (h.ne_nil_of_form (by simp) hname)) hname

theorem forms_plural_whole (h : settings.Undisputed singular plural)
    (hname : Text.lowercase name = Text.lowercase plural) :
    (Inflector.ofSettings settings).forms name =
      ⟨String.ofList (matchCase name.toList singular.toList), name⟩ := by
  rw [← String.ofList_toList (s := name)] at hname
  exact h.forms_plural (Inflector.asks_whole (h.ne_nil_of_form (by simp) hname)) hname

theorem lowercase_matchCase_plural (h : settings.Undisputed singular plural) (model : List Char) :
    Text.lowercase (String.ofList (matchCase model plural.toList)) = Text.lowercase plural :=
  Text.lowercase_eq_of_asciiLower_eq (asciiLower_matchCase model (h.isAscii_of_mem (by simp)))

theorem asciiLower_matchCase_singular (h : settings.Undisputed singular plural)
    (model : List Char) :
    Text.asciiLower (String.ofList (matchCase model singular.toList)) =
      Text.asciiLower singular :=
  asciiLower_matchCase model (h.isAscii_of_mem (by simp))

theorem asciiLower_singularize_pluralize (h : settings.Undisputed singular plural)
    (hname : Text.asciiLower name = Text.asciiLower singular) :
    Text.asciiLower ((Inflector.ofSettings settings).singularize
      ((Inflector.ofSettings settings).pluralize name)) = Text.asciiLower name := by
  have hplural : (Inflector.ofSettings settings).pluralize name =
      String.ofList (matchCase name.toList plural.toList) :=
    (Inflector.forms_eq_iff.1
      (h.forms_singular_whole (Text.lowercase_eq_of_asciiLower_eq hname))).2
  -- what was put in for the name is the plural of the pair, in some case
  have hform := h.lowercase_matchCase_plural name.toList
  have hsingular := (Inflector.forms_eq_iff.1 (h.forms_plural_whole hform)).1
  rw [hplural, hsingular, h.asciiLower_matchCase_singular, hname]

end NamingSettings.Undisputed

namespace Naming

/-! ## Tables before rules -/

section Precedence

variable {settings : NamingSettings} {name : String} {front word : List Char}

theorem isUncountable_of_asciiLower_eq {uncountable text : String}
    (hmem : uncountable ∈ settings.uncountableWords)
    (h : Text.asciiLower text = Text.asciiLower uncountable) : settings.IsUncountable text :=
  ⟨uncountable, hmem, (Text.lowercase_eq_of_asciiLower_eq h).symm⟩

theorem forms_of_uncountable (hasks : (Inflector.ofSettings settings).Asks name.toList front word)
    (hword : settings.IsUncountable (String.ofList word)) :
    (Inflector.ofSettings settings).forms name = ⟨name, name⟩ := by
  have hmem : Text.lowercase (String.ofList word) ∈ (Inflector.ofSettings settings).uncountable :=
    mem_uncountable_ofSettings_iff.2 hword
  rw [Inflector.forms,
    Inflector.singularize_of_asks hasks (Inflector.askWords_kept hasks.1 (.inl hmem)),
    Inflector.pluralize_of_asks hasks (Inflector.askWords_kept hasks.1 (.inl hmem)),
    String.ofList_toList]

theorem forms_of_uncountable_whole (h : settings.IsUncountable name) :
    (Inflector.ofSettings settings).forms name = ⟨name, name⟩ := by
  by_cases hname : name = ""
  · -- the empty name is never asked about
    rw [hname]
    rfl
  · have hne : name.toList ≠ [] := mt String.toList_eq_nil_iff.1 hname
    refine forms_of_uncountable (Inflector.asks_whole hne) ?_
    rwa [String.ofList_toList]

theorem forms_of_uncountable_lastWord (hsplit : splitLastWord name.toList = (front, word))
    (hword : word ≠ []) (h : settings.IsUncountable (String.ofList word))
    (hname : ¬ settings.IsIrregularForm name) :
    (Inflector.ofSettings settings).forms name = ⟨name, name⟩ := by
  -- the whole name goes first, and it may be uncountable itself
  by_cases hwhole : settings.IsUncountable name
  · exact forms_of_uncountable_whole hwhole
  · have htable : ¬ settings.IsTableWord name := not_or.2 ⟨hwhole, hname⟩
    exact forms_of_uncountable (asks_lastWord hword htable hsplit) h

/-- **The tables precede the suffix rules.** A form of an undisputed irregular pair, alone or as the
last word of a compound name that is in no table, is kept in one direction and exchanged for the
other form in the other; alone, the way there and back changes at most ASCII case. An uncountable
word, alone or as the last word of a name that is no irregular form, is kept in both directions. As
a last word it must not be the empty word, which a name that ends in a mark has. -/
theorem tables_precede_rules (settings : NamingSettings) :
    let inflector := Inflector.ofSettings settings
    (∀ singular plural, settings.Undisputed singular plural →
      (∀ word, Text.lowercase word = Text.lowercase singular →
        inflector.forms word = ⟨word, String.ofList (matchCase word.toList plural.toList)⟩) ∧
      (∀ word, Text.lowercase word = Text.lowercase plural →
        inflector.forms word = ⟨String.ofList (matchCase word.toList singular.toList), word⟩) ∧
      (∀ word, Text.asciiLower word = Text.asciiLower singular →
        Text.asciiLower (inflector.singularize (inflector.pluralize word)) =
          Text.asciiLower word)) ∧
    (∀ singular plural, settings.Undisputed singular plural →
      ∀ (name : String) (front word : List Char), splitLastWord name.toList = (front, word) →
        ¬ settings.IsTableWord name →
        (Text.lowercase (String.ofList word) = Text.lowercase singular →
          inflector.forms name =
            ⟨name, String.ofList (front ++ matchCase word plural.toList)⟩) ∧
        (Text.lowercase (String.ofList word) = Text.lowercase plural →
          inflector.forms name =
            ⟨String.ofList (front ++ matchCase word singular.toList), name⟩)) ∧
    (∀ uncountable ∈ settings.uncountableWords,
      (∀ word, Text.asciiLower word = Text.asciiLower uncountable →
        inflector.forms word = ⟨word, word⟩) ∧
      (uncountable ≠ "" → ∀ (name : String) (front word : List Char),
        splitLastWord name.toList = (front, word) →
        Text.asciiLower (String.ofList word) = Text.asciiLower uncountable →
        ¬ settings.IsIrregularForm name → inflector.forms name = ⟨name, name⟩)) := by
  intro inflector
  refine ⟨fun singular plural h => ⟨?_, ?_, ?_⟩, fun singular plural h name front word hsplit hname
    => ⟨?_, ?_⟩, fun uncountable hmem => ⟨?_, ?_⟩⟩
  · exact fun word hword => h.forms_singular_whole hword
  · exact fun word hword => h.forms_plural_whole hword
  · exact fun word hword => h.asciiLower_singularize_pluralize hword
  · intro hword
    exact h.forms_singular (asks_lastWord (h.ne_nil_of_form (by simp) hword) hname hsplit) hword
  · intro hword
    exact h.forms_plural (asks_lastWord (h.ne_nil_of_form (by simp) hword) hname hsplit) hword
  · exact fun word hword =>
      forms_of_uncountable_whole (isUncountable_of_asciiLower_eq hmem hword)
  · intro hne name front word hsplit hword hname
    -- only the empty word has the case of the empty word
    have hword_ne : word ≠ [] := by
      rintro rfl
      have hempty := Text.asciiLower_eq_iff.1 hword
      rw [String.toList_ofList, List.map_nil, eq_comm, List.map_eq_nil_iff] at hempty
      exact hne (String.toList_eq_nil_iff.1 hempty)
    exact forms_of_uncountable_lastWord hsplit hword_ne
      (isUncountable_of_asciiLower_eq hmem hword) hname

/-- Settings with a further uncountable word and a further irregular pair. -/
def sampleSettings : NamingSettings := ⟨true, ["fish"], .ofList [("radius", "radii")]⟩

theorem tables_precede_rules_sample :
    (Inflector.ofSettings sampleSettings).forms "RADIUS" = ⟨"RADIUS", "RADII"⟩ ∧
      (Inflector.ofSettings sampleSettings).forms "LoopRadii" = ⟨"LoopRadius", "LoopRadii"⟩ ∧
      (Inflector.ofSettings sampleSettings).forms "JellyFISH" = ⟨"JellyFISH", "JellyFISH"⟩ := by
  obtain ⟨halone, hcompound, huncountable⟩ := tables_precede_rules sampleSettings
  have hpair : sampleSettings.Undisputed "radius" "radii" := by decide +kernel
  refine ⟨(halone _ _ hpair).1 "RADIUS" (by decide +kernel), ?_, ?_⟩
  · exact (hcompound _ _ hpair "LoopRadii" "Loop".toList "Radii".toList (by decide +kernel)
      (by decide +kernel)).2 (by decide +kernel)
  · exact (huncountable "fish" (by decide +kernel)).2 (by decide) "JellyFISH" "Jelly".toList
      "FISH".toList (by decide +kernel) (by decide +kernel) (by decide +kernel)

/-- Settings in which the empty word is uncountable and plurals meet other words. -/
def crossedSettings : NamingSettings :=
  ⟨true, ["", "AlarmProbers"],
    .ofList [("Metric", "MetricsCollection"), ("Probe", "Probers"), ("kid", "kiddos")]⟩

/-- The empty word is passed over where it is the last word of a name, uncountable or not; and a
word with a Kelvin sign, which is a k apart from case, comes back with a k. -/
theorem empty_word_passed_over :
    ("" ∈ crossedSettings.uncountableWords ∧
      splitLastWord "foo_".toList = ("foo_".toList, "".toList) ∧
      ¬ crossedSettings.IsIrregularForm "foo_" ∧
      (Inflector.ofSettings crossedSettings).pluralize "foo_" = "foo_s") ∧
    crossedSettings.Undisputed "kid" "kiddos" ∧
      Text.lowercase "\u212aid" = Text.lowercase "kid" ∧
      (Inflector.ofSettings crossedSettings).singularize
        ((Inflector.ofSettings crossedSettings).pluralize "\u212aid") = "Kid" ∧
      Text.asciiLower "Kid" ≠ Text.asciiLower "\u212aid" := by
  decide +kernel

end Precedence

/-! ## Compound names and back

The plural of a compound name leads back to the name if its last word is the plural that was put in.
That is so for a plain plural; a plural that has several words itself is split elsewhere. -/

/-- **The way from a compound name to its plural and back.** The last word of a name is exchanged
for the plural of its pair. If the result is in no table and its last word is that plural, it leads
back to the singular, in the case of the last word, and a list attribute of that name is called by
the singular too. The last word is that plural if it is plain; if it is a single letter, no capital
must stand in front of it. -/
theorem singularize_plural_compound (settings : NamingSettings) (singular plural name : String)
    (front word : List Char) (h : settings.Undisputed singular plural)
    (hsplit : splitLastWord name.toList = (front, word))
    (hword : Text.lowercase (String.ofList word) = Text.lowercase singular)
    (hname : ¬ settings.IsTableWord name) :
    let inflector := Inflector.ofSettings settings
    let many := matchCase word plural.toList
    let compound := String.ofList (front ++ many)
    inflector.pluralize name = compound ∧
    (¬ settings.IsTableWord compound → splitLastWord compound.toList = (front, many) →
      inflector.singularize compound = String.ofList (front ++ matchCase many singular.toList) ∧
      (Text.asciiLower (String.ofList word) = Text.asciiLower singular →
        Text.asciiLower (inflector.singularize compound) = Text.asciiLower name) ∧
      ∀ caseAliases, ∃ rank,
        (inflector.singularize compound, rank) ∈
          accessorNames inflector caseAliases compound true) ∧
    (IsPlain plural.toList →
      (2 ≤ plural.length ∨ ∀ c, front.getLast? = some c → ¬ Text.isUppercase c = true) →
      splitLastWord compound.toList = (front, many)) := by
  intro inflector many compound
  have hne : word ≠ [] := h.ne_nil_of_form (by simp) hword
  obtain ⟨hlist, hlast⟩ := splitLastWord_eq_iff.1 hsplit
  refine ⟨(Inflector.forms_eq_iff.1
      (h.forms_singular (asks_lastWord hne hname hsplit) hword)).2, fun htable hagain => ?_,
    fun hplain hlength => ?_⟩
  · have hmany : Text.lowercase (String.ofList many) = Text.lowercase plural :=
      h.lowercase_matchCase_plural word
    have hback : inflector.singularize compound =
        String.ofList (front ++ matchCase many singular.toList) :=
      (Inflector.forms_eq_iff.1 (h.forms_plural
        (asks_lastWord (h.ne_nil_of_form (by simp) hmany) htable hagain) hmany)).1
    refine ⟨hback, fun hcase => ?_, fun caseAliases => ?_⟩
    · -- the front is the same, and the last word is the singular apart from ASCII case
      have hsame := h.asciiLower_matchCase_singular many
      rw [← hcase, Text.asciiLower_eq_iff, String.toList_ofList, String.toList_ofList] at hsame
      rw [hback, Text.asciiLower_eq_iff, String.toList_ofList, hlist, List.map_append, hsame,
        List.map_append]
    · have hsingular : matchCase many singular.toList ≠ [] :=
        matchCase_ne_nil (h.isAscii_of_mem (by simp))
          (mt String.toList_eq_nil_iff.1 (h.ne_empty singular (by simp)))
      refine exists_mem_accessorNames (r := .singular) ?_ rfl
      rw [hback]
      simp [hsingular]
  · rw [splitLastWord_eq_iff, String.toList_ofList]
    exact ⟨rfl, hlast.matchCase hne hplain (by rwa [String.length_toList])⟩

theorem singularize_plural_compound_sample :
    Text.asciiLower ((Inflector.ofSettings sampleSettings).singularize "LoopRadii") =
      Text.asciiLower "LoopRadius" := by
  obtain ⟨-, hback, hagain⟩ := singularize_plural_compound sampleSettings "radius" "radii"
    "LoopRadius" "Loop".toList "Radius".toList (by decide +kernel) (by decide +kernel)
    (by decide +kernel) (by decide +kernel)
  have hplain : IsPlain "radii".toList := ⟨by decide, List.all_eq_true.1 (by decide)⟩
  exact (hback (by decide +kernel) (hagain hplain (.inl (by decide)))).2.1 (by decide +kernel)

/-- Three names with an undisputed last word that do not come back: the plural has several words,
the plural is uncountable as a whole, and the word has a Kelvin sign for a k. -/
theorem compounds_without_way_back :
    (crossedSettings.Undisputed "Metric" "MetricsCollection" ∧
      splitLastWord "AlarmMetric".toList = ("Alarm".toList, "Metric".toList) ∧
      ¬ crossedSettings.IsTableWord "AlarmMetric" ∧
      (Inflector.ofSettings crossedSettings).pluralize "AlarmMetric" = "AlarmMetricsCollection" ∧
      (Inflector.ofSettings crossedSettings).singularize "AlarmMetricsCollection" =
        "AlarmMetricsCollection") ∧
    (crossedSettings.Undisputed "Probe" "Probers" ∧
      splitLastWord "AlarmProbe".toList = ("Alarm".toList, "Probe".toList) ∧
      ¬ crossedSettings.IsTableWord "AlarmProbe" ∧
      (Inflector.ofSettings crossedSettings).pluralize "AlarmProbe" = "AlarmProbers" ∧
      (Inflector.ofSettings crossedSettings).singularize "AlarmProbers" = "AlarmProbers") ∧
    (crossedSettings.Undisputed "kid" "kiddos" ∧
      splitLastWord "Alarm\u212aid".toList = ("Alarm".toList, "\u212aid".toList) ∧
      Text.lowercase "\u212aid" = Text.lowercase "kid" ∧
      ¬ crossedSettings.IsTableWord "Alarm\u212aid" ∧
      (Inflector.ofSettings crossedSettings).pluralize "Alarm\u212aid" = "AlarmKiddos" ∧
      (Inflector.ofSettings crossedSettings).singularize "AlarmKiddos" = "AlarmKid" ∧
      Text.asciiLower "AlarmKid" ≠ Text.asciiLower "Alarm\u212aid") := by
  decide +kernel

end Naming

end SchemaNodes
