import SchemaNodes.Naming.Inflection

/-!
# The words an inflector knows

What the tables of an inflector hold in terms of the settings it was made from, and when the words
answer for a name.

* **`find?_plurals_ofSettings`**, **`find?_singulars_ofSettings`**: each table holds the last pair
  in force with the given form.
* **`Inflector.Knows`**: the texts that some table holds.
* **`Inflector.Asks`**: the part of a name that the words decide about.
* **`inflect_eq`**: the whole name is asked first, then its last word, then the suffix rules.
* **`Inflector.Inflected`**, **`inflect_inflected`**: what an inflection can make of a name.
-/

namespace SchemaNodes

/-! ## Words in force -/

namespace NamingSettings

/-- The irregular pairs in force, each with its singular first: those known anyway, then those of
the settings. -/
def irregularPairs (settings : NamingSettings) : List (String × String) :=
  Naming.Inflector.irregularPairs ++ settings.irregular.entries

/-- The uncountable words in force. -/
def uncountableWords (settings : NamingSettings) : List String :=
  Naming.Inflector.uncountableWords ++ settings.uncountable

/-- The text is an uncountable word, whatever its case. -/
def IsUncountable (settings : NamingSettings) (text : String) : Prop :=
  ∃ word ∈ settings.uncountableWords, Text.lowercase word = Text.lowercase text

/-- The text is the singular or the plural of an irregular pair, whatever its case. -/
def IsIrregularForm (settings : NamingSettings) (text : String) : Prop :=
  ∃ pair ∈ settings.irregularPairs,
    Text.lowercase pair.1 = Text.lowercase text ∨ Text.lowercase pair.2 = Text.lowercase text

/-- The text stands in one of the tables. -/
def IsTableWord (settings : NamingSettings) (text : String) : Prop :=
  settings.IsUncountable text ∨ settings.IsIrregularForm text

instance (settings : NamingSettings) (text : String) : Decidable (settings.IsUncountable text) :=
  inferInstanceAs (Decidable (∃ word ∈ _, _))

instance (settings : NamingSettings) (text : String) : Decidable (settings.IsIrregularForm text) :=
  inferInstanceAs (Decidable (∃ pair ∈ _, _))

instance (settings : NamingSettings) (text : String) : Decidable (settings.IsTableWord text) :=
  inferInstanceAs (Decidable (_ ∨ _))

end NamingSettings

namespace Naming

/-! ## Searches with one hit -/

theorem find?_eq_some_of_unique {α : Type} {xs : List α} {x : α} {p : α → Bool} (hx : x ∈ xs)
    (hp : p x = true) (hunique : ∀ y ∈ xs, p y = true → y = x) : xs.find? p = some x := by
  cases hfind : xs.find? p with
  | none => exact absurd hp (List.find?_eq_none.1 hfind x hx)
  | some y => rw [hunique y (List.mem_of_find?_eq_some hfind) (List.find?_some hfind)]

/-- What is found in a list does not depend on its order if only one entry can be found. -/
theorem find?_eq_of_perm {α : Type} {xs ys : List α} {p : α → Bool} (h : xs.Perm ys)
    (hunique : ∀ x ∈ ys, ∀ y ∈ ys, p x = true → p y = true → x = y) : xs.find? p = ys.find? p := by
  cases hfind : ys.find? p with
  | none =>
    rw [List.find?_eq_none] at hfind ⊢
    exact fun x hx => hfind x (h.mem_iff.1 hx)
  | some y =>
    have hy := List.mem_of_find?_eq_some hfind
    have hp := List.find?_some hfind
    exact find?_eq_some_of_unique (h.mem_iff.2 hy) hp fun x hx hpx =>
      hunique x (h.mem_iff.1 hx) y hy hpx hp

/-! ## Tables -/

/-- After several insertions a key leads to the last value put under it. -/
theorem find?_foldl_insert {β : Type} (key value : β → String) (items : List β)
    (base : Dict String) (name : String) :
    (items.foldl (fun acc x => acc.insert (key x) (value x)) base).find? name =
      ((items.reverse.find? fun x => key x = name).map value).or (base.find? name) := by
  induction items generalizing base with
  | nil => simp
  | cons x items ih =>
    rw [List.foldl_cons, ih, Dict.find?_insert, List.reverse_cons, List.find?_append]
    cases items.reverse.find? fun x => key x = name with
    | some y => simp
    | none =>
      by_cases h : key x = name
      · simp [h]
      · simp [h, Ne.symm h]

theorem plurals_addAll (inflector : Inflector) (pairs : List (String × String)) :
    (inflector.addAll pairs).plurals =
      pairs.foldl (fun acc pair => acc.insert (Text.lowercase pair.1) pair.2)
        inflector.plurals := by
  induction pairs generalizing inflector with
  | nil => rfl
  | cons pair pairs ih => exact ih (inflector.addIrregular pair.1 pair.2)

theorem singulars_addAll (inflector : Inflector) (pairs : List (String × String)) :
    (inflector.addAll pairs).singulars =
      pairs.foldl (fun acc pair => acc.insert (Text.lowercase pair.2) pair.1)
        inflector.singulars := by
  induction pairs generalizing inflector with
  | nil => rfl
  | cons pair pairs ih => exact ih (inflector.addIrregular pair.1 pair.2)

theorem uncountable_addAll (inflector : Inflector) (pairs : List (String × String)) :
    (inflector.addAll pairs).uncountable = inflector.uncountable := by
  induction pairs generalizing inflector with
  | nil => rfl
  | cons pair pairs ih => exact ih (inflector.addIrregular pair.1 pair.2)

/-- Of several pairs with one singular the last gives its plural. -/
theorem find?_plurals_ofSettings (settings : NamingSettings) (key : String) :
    (Inflector.ofSettings settings).plurals.find? key =
      (settings.irregularPairs.reverse.find? fun pair => Text.lowercase pair.1 = key).map
        (·.2) := by
  show (Inflector.standard.addAll settings.irregular.entries).plurals.find? key = _
  rw [plurals_addAll, Inflector.standard, plurals_addAll, ← List.foldl_append,
    find?_foldl_insert]
  exact Option.or_none

/-- Of several pairs with one plural the last gives its singular. -/
theorem find?_singulars_ofSettings (settings : NamingSettings) (key : String) :
    (Inflector.ofSettings settings).singulars.find? key =
      (settings.irregularPairs.reverse.find? fun pair => Text.lowercase pair.2 = key).map
        (·.1) := by
  show (Inflector.standard.addAll settings.irregular.entries).singulars.find? key = _
  rw [singulars_addAll, Inflector.standard, singulars_addAll, ← List.foldl_append,
    find?_foldl_insert]
  exact Option.or_none

/-- The words that are uncountable anyway are in lower case, as the tables need them. -/
theorem lowercase_uncountableWords :
    Inflector.uncountableWords.map Text.lowercase = Inflector.uncountableWords := by
  decide +kernel

theorem mem_uncountable_ofSettings_iff {settings : NamingSettings} {text : String} :
    Text.lowercase text ∈ (Inflector.ofSettings settings).uncountable ↔
      settings.IsUncountable text := by
  have hwords : (Inflector.ofSettings settings).uncountable =
      settings.uncountableWords.map Text.lowercase := by
    rw [NamingSettings.uncountableWords, List.map_append, lowercase_uncountableWords]
    show (Inflector.standard.addAll settings.irregular.entries).uncountable ++ _ = _
    rw [uncountable_addAll, Inflector.standard, uncountable_addAll]
  rw [hwords, List.mem_map]
  rfl

/-! ## Answers -/

namespace Inflector

/-- Some table of the inflector holds the text. -/
def Knows (inflector : Inflector) (text : String) : Prop :=
  text ≠ "" ∧
    (Text.lowercase text ∈ inflector.uncountable ∨
      inflector.plurals.contains (Text.lowercase text) = true ∨
      inflector.singulars.contains (Text.lowercase text) = true)

instance (inflector : Inflector) (text : String) : Decidable (inflector.Knows text) :=
  inferInstanceAs (Decidable (_ ∧ _))

/-- The words decide about `word`, in front of which `front` stands: about the whole name, or about
its last word if they do not know the whole name. -/
def Asks (inflector : Inflector) (name front word : List Char) : Prop :=
  word ≠ [] ∧
    (front = [] ∧ word = name ∨
      ¬ inflector.Knows (String.ofList name) ∧ splitLastWord name = (front, word))

variable {inflector : Inflector} {table already : Dict String} {name front word form : List Char}

theorem askWords_kept (hword : word ≠ [])
    (h : Text.lowercase (String.ofList word) ∈ inflector.uncountable ∨
      already.contains (Text.lowercase (String.ofList word)) = true) :
    inflector.askWords table already name front word = some name := by
  simp [askWords, hword, h]

/-- A word that the table of a direction exchanges is in the wanted form for the other direction. -/
theorem askWords_exchanged (name front : List Char) {target : String} (hword : word ≠ [])
    (hcountable : Text.lowercase (String.ofList word) ∉ inflector.uncountable)
    (halready : already.contains (Text.lowercase (String.ofList word)) = false)
    (htable : table.find? (Text.lowercase (String.ofList word)) = some target) :
    inflector.askWords table already name front word =
        some (front ++ matchCase word target.toList) ∧
      inflector.askWords already table name front word = some name := by
  constructor
  · simp [askWords, hword, hcountable, halready, htable]
  · exact askWords_kept hword (.inr (by rw [Dict.contains, htable]; rfl))

theorem askWords_none
    (hcountable : Text.lowercase (String.ofList word) ∉ inflector.uncountable)
    (halready : already.contains (Text.lowercase (String.ofList word)) = false)
    (htable : table.contains (Text.lowercase (String.ofList word)) = false) :
    inflector.askWords table already name front word = none := by
  rw [Dict.contains, Option.isSome_eq_false_iff, Option.isNone_iff_eq_none] at htable
  simp [askWords, hcountable, halready, htable]

/-- Neither direction has an answer about a word that is not known. -/
theorem askWords_of_not_knows (name front : List Char)
    (h : ¬ inflector.Knows (String.ofList word)) :
    inflector.askWords inflector.plurals inflector.singulars name front word = none ∧
      inflector.askWords inflector.singulars inflector.plurals name front word = none := by
  by_cases hword : word = []
  · simp [askWords, hword]
  · have hne : String.ofList word ≠ "" := by simpa using hword
    obtain ⟨hcountable, htables⟩ := not_or.1 fun hknown => h ⟨hne, hknown⟩
    obtain ⟨hplurals, hsingulars⟩ := not_or.1 htables
    rw [Bool.not_eq_true] at hplurals hsingulars
    exact ⟨askWords_none hcountable hsingulars hplurals,
      askWords_none hcountable hplurals hsingulars⟩

/-- The whole name is asked first, then its last word; the suffix rules come last. -/
theorem inflect_eq (rules : List SuffixRule) (hname : name ≠ []) :
    inflector.inflect table already rules name =
      ((inflector.askWords table already name [] name).or
        (inflector.askWords table already name (splitLastWord name).1
          (splitLastWord name).2)).getD (applyFirst rules name) := by
  rw [inflect, if_neg hname]
  cases inflector.askWords table already name [] name with
  | some form => rfl
  | none =>
    simp only [Option.none_or]
    cases inflector.askWords table already name (splitLastWord name).1 (splitLastWord name).2 with
    | some form => rfl
    | none => rfl

/-- Words that have an answer keep the name or exchange the word they are asked about. -/
theorem askWords_eq_some (h : inflector.askWords table already name front word = some form) :
    word ≠ [] ∧
      (form = name ∨ ∃ target, table.find? (Text.lowercase (String.ofList word)) = some target ∧
        form = front ++ matchCase word target.toList) := by
  unfold askWords at h
  split at h
  · cases h
  · next hword =>
    refine ⟨hword, ?_⟩
    dsimp only at h
    split at h
    · exact .inl (Option.some.inj h).symm
    · obtain ⟨target, htarget, hform⟩ := Option.map_eq_some_iff.1 h
      exact .inr ⟨target, htarget, hform.symm⟩

/-- How a name comes to its other form. -/
inductive Inflected (inflector : Inflector) (table already : Dict String)
    (rules : List SuffixRule) (name : List Char) : List Char → Prop where
  /-- Nothing is changed. -/
  | kept : Inflected inflector table already rules name name
  /-- The whole name or its last word is exchanged. -/
  | exchanged {front word : List Char} {target : String}
    (asked : front = [] ∧ word = name ∨ splitLastWord name = (front, word)) (nonempty : word ≠ [])
    (found : table.find? (Text.lowercase (String.ofList word)) = some target) :
    Inflected inflector table already rules name (front ++ matchCase word target.toList)
  /-- The words are silent, and the rules decide. -/
  | ruled (whole : inflector.askWords table already name [] name = none)
    (last : inflector.askWords table already name (splitLastWord name).1
      (splitLastWord name).2 = none) :
    Inflected inflector table already rules name (applyFirst rules name)

theorem inflect_inflected (inflector : Inflector) (table already : Dict String)
    (rules : List SuffixRule) (name : List Char) :
    inflector.Inflected table already rules name
      (inflector.inflect table already rules name) := by
  by_cases hname : name = []
  · rw [inflect, if_pos hname, ← hname]
    exact .kept
  · rw [inflect_eq rules hname]
    cases hwhole : inflector.askWords table already name [] name with
    | some form =>
      obtain ⟨hword, rfl | ⟨target, hfound, rfl⟩⟩ := askWords_eq_some hwhole
      · exact .kept
      · exact .exchanged (.inl ⟨rfl, rfl⟩) hword hfound
    | none =>
      cases hlast : inflector.askWords table already name (splitLastWord name).1
          (splitLastWord name).2 with
      | some form =>
        obtain ⟨hword, rfl | ⟨target, hfound, rfl⟩⟩ := askWords_eq_some hlast
        · exact .kept
        · exact .exchanged (.inr rfl) hword hfound
      | none => exact .ruled hwhole hlast

theorem Asks.name_ne_nil (h : inflector.Asks name front word) : name ≠ [] := by
  rintro rfl
  obtain ⟨hword, ⟨-, rfl⟩ | ⟨-, hsplit⟩⟩ := h
  · exact hword rfl
  · cases hsplit
    exact hword rfl

theorem inflect_of_asks (rules : List SuffixRule) (h : inflector.Asks name front word)
    (hwhole : ¬ inflector.Knows (String.ofList name) →
      inflector.askWords table already name [] name = none)
    (hform : inflector.askWords table already name front word = some form) :
    inflector.inflect table already rules name = form := by
  rw [inflect_eq rules h.name_ne_nil]
  obtain ⟨-, ⟨rfl, rfl⟩ | ⟨hknows, hsplit⟩⟩ := h
  · rw [hform]; rfl
  · rw [hwhole hknows, hsplit, hform]; rfl

/-- The plural is what the words answer about the part of the name they decide about. -/
theorem pluralize_of_asks {name : String} (h : inflector.Asks name.toList front word)
    (hform : inflector.askWords inflector.plurals inflector.singulars name.toList front word =
      some form) :
    inflector.pluralize name = String.ofList form := by
  rw [pluralize, inflect_of_asks _ h (fun hknows => (askWords_of_not_knows _ _ hknows).1) hform]

/-- The singular is what the words answer about the part of the name they decide about. -/
theorem singularize_of_asks {name : String} (h : inflector.Asks name.toList front word)
    (hform : inflector.askWords inflector.singulars inflector.plurals name.toList front word =
      some form) :
    inflector.singularize name = String.ofList form := by
  rw [singularize, inflect_of_asks _ h (fun hknows => (askWords_of_not_knows _ _ hknows).2) hform]

theorem forms_eq_iff {name singular plural : String} :
    inflector.forms name = ⟨singular, plural⟩ ↔
      inflector.singularize name = singular ∧ inflector.pluralize name = plural := by
  rw [forms, Alias.mk.injEq]

end Inflector

/-! ## Words that settings make known -/

theorem contains_plurals_ofSettings_iff {settings : NamingSettings} {key : String} :
    (Inflector.ofSettings settings).plurals.contains key = true ↔
      ∃ pair ∈ settings.irregularPairs, Text.lowercase pair.1 = key := by
  rw [Dict.contains, find?_plurals_ofSettings, Option.isSome_map, List.find?_isSome]
  simp

theorem contains_singulars_ofSettings_iff {settings : NamingSettings} {key : String} :
    (Inflector.ofSettings settings).singulars.contains key = true ↔
      ∃ pair ∈ settings.irregularPairs, Text.lowercase pair.2 = key := by
  rw [Dict.contains, find?_singulars_ofSettings, Option.isSome_map, List.find?_isSome]
  simp

/-- An inflector knows the table words of its settings. -/
theorem knows_ofSettings_iff {settings : NamingSettings} {text : String} :
    (Inflector.ofSettings settings).Knows text ↔ text ≠ "" ∧ settings.IsTableWord text := by
  rw [Inflector.Knows, mem_uncountable_ofSettings_iff, contains_plurals_ofSettings_iff,
    contains_singulars_ofSettings_iff, ← exists_or]
  simp only [← and_or_left]
  rfl

end Naming

end SchemaNodes
