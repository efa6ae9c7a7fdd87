import SchemaNodes.Proofs.Naming.AccessorName
import SchemaNodes.Proofs.Naming.WordCase
import SchemaNodes.Proofs.Naming.WordTables
import SchemaNodes.Proofs.Settings.NamingSource
import SchemaNodes.Registry.AccessorTable

/-!
# The case of irregular words in settings

Settings from a file have the singulars of their irregular words in lower case. The words are looked
up without regard to case, so only what is put in for a plural can tell: its first letter follows
the name, and the others are those of the settings.

* **`plurals_lowerKeys`**, **`find?_singulars_lowerKeys`**: what the tables hold in either case.
* **`matchCase_lowercase`**: what is put in, in either case.
* **`askWords_lowerKeys`**, **`inflect_lowerKeys`**: the words' answers, and the whole inflection.
* **`inflection_lowerKeys`**: singulars, plurals and tables under both settings.
-/

namespace SchemaNodes

namespace NamingSettings

/-- The irregular words of the settings are ASCII, and no two singulars and no two plurals are the
same apart from case. -/
structure HasDistinctWords (settings : NamingSettings) : Prop where
  ascii : ∀ pair ∈ settings.irregular.entries,
    pair.1.toList.all Text.isAscii = true ∧ pair.2.toList.all Text.isAscii = true
  singulars : (settings.irregular.entries.map fun pair => Text.lowercase pair.1).Nodup
  plurals : (settings.irregular.entries.map fun pair => Text.lowercase pair.2).Nodup

theorem hasDistinctWords_iff {settings : NamingSettings} :
    settings.HasDistinctWords ↔
      (∀ pair ∈ settings.irregular.entries,
        pair.1.toList.all Text.isAscii = true ∧ pair.2.toList.all Text.isAscii = true) ∧
      (settings.irregular.entries.map fun pair => Text.lowercase pair.1).Nodup ∧
      (settings.irregular.entries.map fun pair => Text.lowercase pair.2).Nodup :=
  ⟨fun h => ⟨h.ascii, h.singulars, h.plurals⟩, fun h => ⟨h.1, h.2.1, h.2.2⟩⟩

instance (settings : NamingSettings) : Decidable settings.HasDistinctWords :=
  decidable_of_iff' _ hasDistinctWords_iff

end NamingSettings

namespace Naming

/-! ## The pairs in force -/

section LowerKeys

variable {settings : NamingSettings}

/-- The singulars of the pairs in force are ASCII. -/
theorem isAscii_singular (h : settings.HasDistinctWords) {pair : String × String}
    (hpair : pair ∈ settings.irregularPairs) : ∀ c ∈ pair.1.toList, Text.isAscii c = true := by
  have hknown : ∀ pair ∈ Inflector.irregularPairs, pair.1.toList.all Text.isAscii = true := by
    decide
  refine List.all_eq_true.1 ?_
  rcases List.mem_append.1 hpair with hpair | hpair
  · exact hknown pair hpair
  · exact (h.ascii pair hpair).1

theorem irregular_lowerKeys_perm (h : settings.HasDistinctWords) :
    settings.lowerKeys.irregular.entries.Perm
      (settings.irregular.entries.map NamingSettings.lowerKey) := by
  have hnodup : (Entries.keys
      (settings.irregular.entries.map NamingSettings.lowerKey ++ [])).Nodup := by
    rw [List.append_nil, Entries.keys, List.map_map]
    exact h.singulars
  have hperm := Entries.insertAll_perm hnodup
  rwa [List.append_nil] at hperm

/-- The pairs in force are searched as if each had its singular in lower case. -/
theorem find?_irregularPairs_lowerKeys (h : settings.HasDistinctWords)
    (form : String × String → String)
    (hform : (settings.irregular.entries.map fun pair =>
      form (NamingSettings.lowerKey pair)).Nodup) (text : String) :
    settings.lowerKeys.irregularPairs.reverse.find? (fun pair => form pair = text) =
      (settings.irregularPairs.reverse.find? fun pair =>
        form (NamingSettings.lowerKey pair) = text).map NamingSettings.lowerKey := by
  have hknown : Inflector.irregularPairs.map NamingSettings.lowerKey =
      Inflector.irregularPairs := by
    decide +kernel
  have hperm : settings.lowerKeys.irregular.entries.reverse.find? (fun pair => form pair = text) =
      (settings.irregular.entries.map NamingSettings.lowerKey).reverse.find?
        fun pair => form pair = text := by
    refine find?_eq_of_perm (((List.reverse_perm _).trans (irregular_lowerKeys_perm h)).trans
      (List.reverse_perm _).symm) fun x hx y hy hpx hpy => ?_
    have hinj : ((settings.irregular.entries.map NamingSettings.lowerKey).map form).Nodup := by
      rwa [List.map_map]
    refine List.inj_on_of_nodup_map hinj (List.mem_reverse.1 hx) (List.mem_reverse.1 hy) ?_
    rw [of_decide_eq_true hpx, of_decide_eq_true hpy]
  have hpairs : settings.lowerKeys.irregularPairs =
      Inflector.irregularPairs ++ settings.lowerKeys.irregular.entries := rfl
  calc settings.lowerKeys.irregularPairs.reverse.find? (fun pair => form pair = text)
      = (settings.irregularPairs.map NamingSettings.lowerKey).reverse.find?
          fun pair => form pair = text := by
        rw [hpairs, NamingSettings.irregularPairs, List.map_append, hknown, List.reverse_append,
          List.reverse_append, List.find?_append, List.find?_append, hperm]
    _ = (settings.irregularPairs.reverse.find? fun pair =>
          form (NamingSettings.lowerKey pair) = text).map NamingSettings.lowerKey := by
        rw [← List.map_reverse, List.find?_map]
        rfl

theorem plurals_lowerKeys (h : settings.HasDistinctWords) :
    (Inflector.ofSettings settings.lowerKeys).plurals =
      (Inflector.ofSettings settings).plurals := by
  have hlower : ∀ pair ∈ settings.irregularPairs,
      Text.lowercase (NamingSettings.lowerKey pair).1 = Text.lowercase pair.1 := fun pair hpair =>
    Text.lowercase_lowercase (isAscii_singular h hpair)
  have hnodup : (settings.irregular.entries.map fun pair =>
      Text.lowercase (NamingSettings.lowerKey pair).1).Nodup := by
    rw [List.map_congr_left fun pair hpair => hlower pair (List.mem_append_right _ hpair)]
    exact h.singulars
  refine Dict.ext_find? fun key => ?_
  have hsame : settings.irregularPairs.reverse.find?
      (fun pair => Text.lowercase (NamingSettings.lowerKey pair).1 = key) =
        settings.irregularPairs.reverse.find? fun pair => Text.lowercase pair.1 = key :=
    List.find?_congr fun pair hpair => by rw [hlower pair (List.mem_reverse.1 hpair)]
  rw [find?_plurals_ofSettings, find?_plurals_ofSettings,
    find?_irregularPairs_lowerKeys h (fun pair => Text.lowercase pair.1) hnodup, hsame,
    Option.map_map]
  rfl

theorem find?_singulars_lowerKeys (h : settings.HasDistinctWords) (key : String) :
    (Inflector.ofSettings settings.lowerKeys).singulars.find? key =
      ((Inflector.ofSettings settings).singulars.find? key).map Text.lowercase := by
  rw [find?_singulars_ofSettings, find?_singulars_ofSettings,
    find?_irregularPairs_lowerKeys h (fun pair => Text.lowercase pair.2) h.plurals, Option.map_map,
    Option.map_map]
  rfl

theorem uncountable_lowerKeys (settings : NamingSettings) :
    (Inflector.ofSettings settings.lowerKeys).uncountable =
      (Inflector.ofSettings settings).uncountable := by
  show (Inflector.standard.addAll _).uncountable ++ _ =
    (Inflector.standard.addAll _).uncountable ++ _
  rw [uncountable_addAll, uncountable_addAll]
  rfl

/-- A singular that a table leads to belongs to a pair in force, and is ASCII. -/
theorem pair_of_find?_singulars {settings : NamingSettings} {key target : String}
    (h : (Inflector.ofSettings settings).singulars.find? key = some target) :
    ∃ plural, (target, plural) ∈ settings.irregularPairs ∧ Text.lowercase plural = key := by
  rw [find?_singulars_ofSettings] at h
  obtain ⟨pair, hfind, rfl⟩ := Option.map_eq_some_iff.1 h
  have hkey := List.find?_some hfind
  exact ⟨pair.2, List.mem_reverse.1 (List.mem_of_find?_eq_some hfind), of_decide_eq_true hkey⟩

end LowerKeys

/-! ## What is put in for a plural -/

/-- The word has several letters and none of them is small. -/
def AllCapitals (word : List Char) : Prop :=
  1 < word.length ∧ (word.all fun c => !Text.isLowercase c) = true

/-- The text has a capital behind its first letter. -/
def HasInnerCapital (text : String) : Prop := text.toList.tail.any Char.isUpper = true

instance (word : List Char) : Decidable (AllCapitals word) := inferInstanceAs (Decidable (_ ∧ _))

instance (text : String) : Decidable (HasInnerCapital text) := inferInstanceAs (Decidable (_ = _))

theorem flatMap_upper_toLower {text : List Char} (h : ∀ c ∈ text, Text.isAscii c = true) :
    (text.map Char.toLower).flatMap Text.upper = text.flatMap Text.upper := by
  rw [List.flatMap_map]
  refine List.flatMap_congr fun c hc => ?_
  rw [Text.upper_of_isAscii (by rw [Text.isAscii_toLower, h c hc]), Text.upper_of_isAscii (h c hc),
    Char.toUpper_toLower_eq_toUpper]

/-- Only capitals behind the first letter of what is put in can tell in which case it was given, and
only if the word is not put into capitals anyway. -/
theorem matchCase_lowercase {word : List Char} {target : String} (hword : word ≠ [])
    (hascii : ∀ c ∈ target.toList, Text.isAscii c = true)
    (h : AllCapitals word ∨ ¬ HasInnerCapital target) :
    matchCase word (Text.lowercase target).toList = matchCase word target.toList := by
  obtain ⟨first, more, rfl⟩ := List.exists_cons_of_ne_nil hword
  rw [Text.toList_lowercase_of_isAscii hascii]
  unfold matchCase
  split
  · exact flatMap_upper_toLower hascii
  · next hmodel =>
    have hsmall : ¬ HasInnerCapital target := h.resolve_left fun hcapitals => hmodel (by
      simpa [AllCapitals] using hcapitals)
    cases hlist : target.toList with
    | nil => rfl
    | cons r rest =>
      rw [HasInnerCapital, hlist, List.tail_cons, List.any_eq_true] at hsmall
      have hr : Text.isAscii r = true := hascii r (by simp [hlist])
      have hrest : rest.map Char.toLower = rest :=
        (List.map_congr_left fun c hc =>
          Char.toLower_eq_of_not_isUpper fun hupper => hsmall ⟨c, hc, hupper⟩).trans rest.map_id
      rw [List.map_cons, hrest]
      simp [Text.upper_of_isAscii, Text.lower_of_isAscii, Text.isAscii_toLower, hr]

/-! ## Two singulars of a name -/

/-- Two singulars of a name are the same, except that a singular in the settings may have been put
in as it is written there and in lower case. -/
inductive SameButForKey (settings : NamingSettings) (name : List Char) :
    List Char → List Char → Prop where
  | same (form : List Char) : SameButForKey settings name form form
  /-- The name, or its last word, is the plural of a pair whose singular has an inner capital. -/
  | shown {front word : List Char} {singular plural : String}
    (asked : front = [] ∧ word = name ∨ splitLastWord name = (front, word))
    (mem : (singular, plural) ∈ settings.irregular.entries)
    (isPlural : Text.lowercase (String.ofList word) = Text.lowercase plural)
    (notCapitals : ¬ AllCapitals word) (capital : HasInnerCapital singular) :
    SameButForKey settings name (front ++ matchCase word singular.toList)
      (front ++ matchCase word (Text.lowercase singular).toList)

section TwoSingulars

variable {settings : NamingSettings}

/-- What the words answer with both kinds of singulars. -/
theorem askWords_lowerKeys (h : settings.HasDistinctWords) (name front word : List Char)
    (asked : front = [] ∧ word = name ∨ splitLastWord name = (front, word)) :
    let written := Inflector.ofSettings settings
    let lowered := Inflector.ofSettings settings.lowerKeys
    Option.Rel (SameButForKey settings name)
      (written.askWords written.singulars written.plurals name front word)
      (lowered.askWords lowered.singulars lowered.plurals name front word) := by
  intro written lowered
  unfold Inflector.askWords
  rw [uncountable_lowerKeys, plurals_lowerKeys h]
  split
  · exact .none
  · next hword =>
    dsimp only
    split
    · exact .some (.same name)
    · rw [find?_singulars_lowerKeys h]
      cases hfind : written.singulars.find? (Text.lowercase (String.ofList word)) with
      | none => exact .none
      | some target =>
        obtain ⟨plural, hmem, hplural⟩ := pair_of_find?_singulars hfind
        simp only [Option.map_some]
        by_cases hhidden : AllCapitals word ∨ ¬ HasInnerCapital target
        · rw [matchCase_lowercase hword (isAscii_singular h hmem) hhidden]
          exact .some (.same _)
        · obtain ⟨hcapitals, hcapital⟩ := not_or.1 hhidden
          rw [Decidable.not_not] at hcapital
          -- the words known anyway are in lower case
          have hknown : ∀ pair ∈ Inflector.irregularPairs, ¬ HasInnerCapital pair.1 := by decide
          have hgiven : (target, plural) ∈ settings.irregular.entries :=
            (List.mem_append.1 hmem).resolve_left fun hpair => hknown _ hpair hcapital
          exact .some (.shown asked hgiven hplural.symm hcapitals hcapital)

theorem rel_getD_or {α : Type} {R : α → α → Prop} {x x' y y' : Option α} {a a' : α}
    (hx : Option.Rel R x x') (hy : Option.Rel R y y') (ha : R a a') :
    R ((x.or y).getD a) ((x'.or y').getD a') := by
  cases hx with
  | some h => exact h
  | none =>
    cases hy with
    | some h => exact h
    | none => exact ha

theorem inflect_lowerKeys (h : settings.HasDistinctWords) (name : List Char) :
    let written := Inflector.ofSettings settings
    let lowered := Inflector.ofSettings settings.lowerKeys
    SameButForKey settings name
      (written.inflect written.singulars written.plurals singularRules name)
      (lowered.inflect lowered.singulars lowered.plurals singularRules name) := by
  intro written lowered
  by_cases hname : name = []
  · rw [Inflector.inflect, Inflector.inflect, if_pos hname, if_pos hname]
    exact .same []
  · rw [Inflector.inflect_eq _ hname, Inflector.inflect_eq _ hname]
    exact rel_getD_or (askWords_lowerKeys h name [] name (.inl ⟨rfl, rfl⟩))
      (askWords_lowerKeys h name _ _ (.inr rfl)) (.same _)

theorem SameButForKey.map_toLower {name form form' : List Char} (h : settings.HasDistinctWords)
    (hform : SameButForKey settings name form form') :
    form.map Char.toLower = form'.map Char.toLower := by
  cases hform with
  | same => rfl
  | @shown front word singular plural _ mem _ _ _ =>
    have hascii : ∀ c ∈ singular.toList, Text.isAscii c = true :=
      List.all_eq_true.1 (h.ascii _ mem).1
    have hlower : (Text.lowercase singular).toList.map Char.toLower =
        singular.toList.map Char.toLower := by
      rw [Text.toList_lowercase_of_isAscii hascii, List.map_map]
      exact List.map_congr_left fun c _ => Char.toLower_toLower_eq_toLower c
    rw [List.map_append, List.map_append, map_toLower_matchCase hascii,
      map_toLower_matchCase (Text.isAscii_lowercase hascii), hlower]

theorem singularize_lowerKeys (h : settings.HasDistinctWords) (name : String) :
    SameButForKey settings name.toList ((Inflector.ofSettings settings).singularize name).toList
      ((Inflector.ofSettings settings.lowerKeys).singularize name).toList := by
  rw [Inflector.singularize, Inflector.singularize, String.toList_ofList, String.toList_ofList]
  exact inflect_lowerKeys h name.toList

theorem pluralize_lowerKeys (h : settings.HasDistinctWords) (name : String) :
    (Inflector.ofSettings settings.lowerKeys).pluralize name =
      (Inflector.ofSettings settings).pluralize name := by
  have hcontains : ∀ key, (Inflector.ofSettings settings.lowerKeys).singulars.contains key =
      (Inflector.ofSettings settings).singulars.contains key := fun key => by
    rw [Dict.contains, find?_singulars_lowerKeys h, Option.isSome_map]
    rfl
  simp only [Inflector.pluralize, Inflector.inflect, Inflector.askWords, uncountable_lowerKeys,
    plurals_lowerKeys h, hcontains]

/-- Without inner capitals there is nothing that could be shown. -/
theorem SameButForKey.eq_of_no_capital {name form form' : List Char}
    (h : SameButForKey settings name form form')
    (hsmall : ∀ pair ∈ settings.irregular.entries, ¬ HasInnerCapital pair.1) : form' = form := by
  cases h with
  | same => rfl
  | shown _ mem _ _ capital => exact absurd capital (hsmall _ mem)

end TwoSingulars

/-! ## Callable names -/

section CallableNames

variable {inflector inflector' : Inflector}

/-- The callable names of an attribute depend on the inflector only by the singular. -/
theorem accessorNames_congr {attr : String}
    (h : inflector.singularize attr = inflector'.singularize attr) (caseAliases isList : Bool) :
    accessorNames inflector caseAliases attr isList =
      accessorNames inflector' caseAliases attr isList := by
  have hearned : ∀ rank, earnedName? inflector caseAliases attr isList rank =
      earnedName? inflector' caseAliases attr isList rank := fun rank => by
    cases rank <;> simp only [earnedName?, h]
  simp only [accessorNames, earnedNames, hearned]

theorem ofAttributes_congr {attributes : List Attribute}
    (h : ∀ a ∈ attributes, inflector.singularize a.name = inflector'.singularize a.name)
    (caseAliases : Bool) :
    AccessorTable.ofAttributes inflector caseAliases attributes =
      AccessorTable.ofAttributes inflector' caseAliases attributes := by
  have hcandidates : AccessorTable.candidates inflector caseAliases attributes =
      AccessorTable.candidates inflector' caseAliases attributes :=
    List.flatMap_congr fun a ha => by rw [accessorNames_congr (h a ha)]
  rw [AccessorTable.ofAttributes, hcandidates, AccessorTable.ofAttributes]

end CallableNames

/-- **Settings as they are written and as they are loaded.** For irregular ASCII words of which no
two singulars and no two plurals are the same apart from case: a source that spells the settings out
is loaded with the singulars in lower case. Every name has one plural under both. Its singulars are
the same apart from case, and the same altogether unless a singular with an inner capital is put in
for the name or its last word. Attributes whose names have one singular have one table, and if no
singular has an inner capital, then every name has one. -/
theorem inflection_lowerKeys (settings : NamingSettings) (origin? : Option String)
    (h : settings.HasDistinctWords) :
    let written := Inflector.ofSettings settings
    let lowered := Inflector.ofSettings settings.lowerKeys
    Settings.decode (Setting.emptyTable.mergeSource (Setting.namingSource origin? settings)) =
        .ok { Settings.default with naming := settings.lowerKeys } ∧
      (∀ name, lowered.pluralize name = written.pluralize name) ∧
      (∀ name, Text.asciiLower (lowered.singularize name) =
        Text.asciiLower (written.singularize name)) ∧
      (∀ name, SameButForKey settings name.toList (written.singularize name).toList
        (lowered.singularize name).toList) ∧
      (∀ caseAliases attributes,
        (∀ a ∈ attributes, lowered.singularize a.name = written.singularize a.name) →
          AccessorTable.ofAttributes lowered caseAliases attributes =
            AccessorTable.ofAttributes written caseAliases attributes) ∧
      ((∀ pair ∈ settings.irregular.entries, ¬ HasInnerCapital pair.1) →
        ∀ name, lowered.singularize name = written.singularize name) := by
  intro written lowered
  have hsame := singularize_lowerKeys h
  refine ⟨Setting.decode_namingSource settings, pluralize_lowerKeys h, fun name => ?_, hsame,
    fun caseAliases attributes hone => ofAttributes_congr hone caseAliases,
    fun hsmall name => ?_⟩
  · exact Text.asciiLower_eq_iff.2 ((hsame name).map_toLower h).symm
  · exact String.toList_inj.1 ((hsame name).eq_of_no_capital hsmall)

/-- The singular of a metric, which the settings have with a capital at its beginning. -/
theorem inflection_lowerKeys_metric :
    let settings : NamingSettings :=
      ⟨true, [], .ofList [("Metric", "MetricsCollection"), ("Quiz", "Quizzes")]⟩
    settings.HasDistinctWords ∧
      (Inflector.ofSettings settings.lowerKeys).singularize "AlarmQuizzes" =
        (Inflector.ofSettings settings).singularize "AlarmQuizzes" := by
  intro settings
  have hdistinct : settings.HasDistinctWords := by decide +kernel
  obtain ⟨-, -, -, -, -, hsingular⟩ := inflection_lowerKeys settings none hdistinct
  exact ⟨hdistinct, hsingular (by decide +kernel) "AlarmQuizzes"⟩

/-- An inner capital of a singular in the settings shows in names, and is lost on the way through a
source. -/
theorem inner_capital_lost :
    let settings : NamingSettings := ⟨true, [], .ofList [("AccessIndex", "AccessIndexes")]⟩
    let written := Inflector.ofSettings settings
    let lowered := Inflector.ofSettings settings.lowerKeys
    settings.HasDistinctWords ∧ written.singularize "AccessIndexes" = "AccessIndex" ∧
      lowered.singularize "AccessIndexes" = "Accessindex" ∧
      ¬ (∀ name, lowered.singularize name = written.singularize name) ∧
      ("AccessIndex", NameRank.singular) ∈ accessorNames written false "AccessIndexes" true ∧
      ∀ rank, ("AccessIndex", rank) ∉ accessorNames lowered false "AccessIndexes" true := by
  intro settings written lowered
  have hwritten : written.singularize "AccessIndexes" = "AccessIndex" := by decide +kernel
  have hlowered : lowered.singularize "AccessIndexes" = "Accessindex" := by decide +kernel
  refine ⟨by decide +kernel, hwritten, hlowered, fun hone => ?_, ?_, fun rank hname => ?_⟩
  · have hnames := hone "AccessIndexes"
    rw [hwritten, hlowered] at hnames
    exact absurd hnames (by decide)
  · refine mem_accessorNames_iff.2 ⟨by decide, by simp [earnedName?, hwritten], fun r hr => ?_⟩
    cases r <;> simp [earnedName?, NameRank.position] at hr ⊢
  · have hearned := (mem_accessorNames_iff.1 hname).2.1
    cases rank <;> simp [earnedName?, hlowered] at hearned

end Naming

end SchemaNodes
