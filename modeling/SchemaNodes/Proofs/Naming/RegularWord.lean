import SchemaNodes.Proofs.Naming.SuffixRule
import SchemaNodes.Proofs.Naming.WordTables

/-!
# Regular words

The suffix rules that take a singular to its plural, and those that lead back. The rules read a name
from its last letter on, so `rev` is a name with its last letter first here.

* **`pluralRules_cases`**: a name that does not end in an s takes one of three endings, unless it
  ends like a matrix.
* **`singularRules_ies`**, **`singularRules_es`**, **`singularRules_s`**: each ending is taken away.
* **`singularRules_pluralRules`**: so the singular rules lead back, but for a capital Y.
* **`singularize_pluralize_of_regular`**: where no word answers, the singular of the plural is the
  name again, but for a capital Y.
-/

namespace SchemaNodes.Naming

/-! ## From singular to plural and back -/

/-- The endings that a plural rule puts behind a name: behind a consonant the y goes, behind a
hissing sound there is a vowel. -/
theorem pluralRules_cases {rev : List Char} (hs : endsWith rev ['s'] = false)
    (hmatrix : ∀ word ∈ ["matr", "vert", "ind"], ∀ ending ∈ ["ix", "ex"],
      endsWith rev (word ++ ending).toList.reverse = false) :
    (∃ y stem, rev = y :: stem ∧ foldLetter y = 'y' ∧ Stem.consonant.accepts stem = true ∧
      applyFirst pluralRules rev.reverse = stem.reverse ++ "ies".toList) ∨
    ((Stem.oneOf ["x", "ch", "ss", "sh"]).accepts rev = true ∧
      applyFirst pluralRules rev.reverse = rev.reverse ++ "es".toList) ∨
    applyFirst pluralRules rev.reverse = rev.reverse ++ "s".toList := by
  have hstatus : (SuffixRule.mk (.oneOf ["alias", "status", "bus"]) [""] "es").replaced?
      rev.reverse = none := by
    refine replaced?_oneOf_eq_none ?_
    cases rev with
    | nil => simp [endsWith]
    | cons c rev => simp_all [endsWith]
  have hmatr : (SuffixRule.mk (.oneOf ["matr", "vert", "ind"]) ["ix", "ex"] "ices").replaced?
      rev.reverse = none := replaced?_oneOf_eq_none hmatrix
  by_cases hy : endsWith rev ['y'] = true ∧ Stem.consonant.accepts (rev.drop 1) = true
  · obtain ⟨hends, hstem⟩ := hy
    cases rev with
    | nil => simp [endsWith] at hends
    | cons y stem =>
      have hfold : foldLetter y = 'y' := by simpa [endsWith] using hends
      have hends : endsWith [y] "y".toList.reverse = true := by simp [endsWith, hfold]
      refine .inl ⟨y, stem, rfl, hfold, hstem, ?_⟩
      refine applyFirst_eq_of_first (pluralRules.take 2) ?_ (replaced?_append [y] hends rfl hstem)
      simp only [pluralRules, List.take_succ_cons, List.take_zero, List.forall_mem_cons,
        List.not_mem_nil, false_imp_iff, implies_true, and_true]
      exact ⟨hstatus, hmatr⟩
  · have hconsonant : (SuffixRule.mk .consonant ["y"] "ies").replaced? rev.reverse = none :=
      replaced?_eq_none_of_not hy
    right
    by_cases hhiss : (Stem.oneOf ["x", "ch", "ss", "sh"]).accepts rev = true
    · refine .inl ⟨hhiss, ?_⟩
      refine applyFirst_eq_of_first (pluralRules.take 3) ?_ (replaced?_append [] rfl rfl hhiss)
      simpa [pluralRules] using ⟨hstatus, hmatr, hconsonant⟩
    · right
      have hnohiss : (SuffixRule.mk (.oneOf ["x", "ch", "ss", "sh"]) [""] "es").replaced?
          rev.reverse = none := replaced?_eq_none_of_not fun h => hhiss h.2
      have hnos : (SuffixRule.mk .anything ["s"] "s").replaced? rev.reverse = none :=
        replaced?_eq_none_of_endings (by simpa using hs)
      -- the last rule always applies
      refine applyFirst_eq_of_first (pluralRules.take 5) ?_ (replaced?_append [] rfl rfl rfl)
      simpa [pluralRules] using ⟨hstatus, hmatr, hconsonant, hnohiss, hnos⟩

theorem singularRules_ies {stem : List Char} (h : Stem.consonant.accepts stem = true) :
    applyFirst singularRules (stem.reverse ++ "ies".toList) = stem.reverse ++ "y".toList := by
  have hrev : stem.reverse ++ "ies".toList = ('s' :: 'e' :: 'i' :: stem).reverse := by simp
  rw [hrev]
  refine applyFirst_eq_of_first (singularRules.take 4) ?_
    (replaced?_append ['s', 'e', 'i'] (by decide) rfl h)
  simp only [singularRules, List.take_succ_cons, List.take_zero, List.forall_mem_cons,
    List.not_mem_nil, false_imp_iff, implies_true, and_true]
  refine ⟨replaced?_oneOf_eq_none ?_, replaced?_oneOf_eq_none ?_, replaced?_oneOf_eq_none ?_,
    replaced?_oneOf_eq_none ?_⟩ <;>
    simp [endsWith, foldLetter_added]

theorem singularRules_es {rev : List Char}
    (h : (Stem.oneOf ["x", "ch", "sh", "ss"]).accepts rev = true)
    (hs : endsWith rev ['s'] = false) :
    applyFirst singularRules (rev.reverse ++ "es".toList) = rev.reverse := by
  have hrev : rev.reverse ++ "es".toList = ('s' :: 'e' :: rev).reverse := by simp
  have hlast : ∃ c rest, rev = c :: rest ∧ (foldLetter c = 'x' ∨ foldLetter c = 'h') := by
    cases rev with
    | nil => simp [Stem.accepts, endsWith] at h
    | cons c rest =>
      refine ⟨c, rest, rfl, ?_⟩
      have hc : foldLetter c ≠ 's' := by simpa [endsWith] using hs
      have hends : foldLetter c = 'x' ∨ foldLetter c = 'h' ∧ endsWith rest ['c'] = true ∨
          foldLetter c = 'h' ∧ endsWith rest ['s'] = true := by
        simpa [Stem.accepts, endsWith, hc] using h
      exact hends.imp_right fun h => h.elim And.left And.left
  rw [hrev]
  refine (applyFirst_eq_of_first (singularRules.take 5) ?_
    (replaced?_append ['s', 'e'] (by decide) rfl h)).trans (List.append_nil _)
  obtain ⟨c, rest, rfl, hc⟩ := hlast
  simp only [singularRules, List.take_succ_cons, List.take_zero, List.forall_mem_cons,
    List.not_mem_nil, false_imp_iff, implies_true, and_true]
  refine ⟨replaced?_oneOf_eq_none ?_, replaced?_oneOf_eq_none ?_, replaced?_oneOf_eq_none ?_,
    replaced?_oneOf_eq_none ?_, replaced?_eq_none_of_endings ?_⟩ <;>
    rcases hc with hc | hc <;> simp [endsWith, foldLetter_added, hc]

theorem singularRules_s {rev : List Char} (h : Stem.notS.accepts rev = true)
    (he : endsWith rev ['e'] = false) :
    applyFirst singularRules (rev.reverse ++ "s".toList) = rev.reverse := by
  have hrev : rev.reverse ++ "s".toList = ('s' :: rev).reverse := by simp
  rw [hrev]
  refine (applyFirst_eq_of_first (singularRules.take 6) ?_
    (replaced?_append ['s'] (by decide) rfl h)).trans (List.append_nil _)
  simp only [singularRules, List.take_succ_cons, List.take_zero, List.forall_mem_cons,
    List.not_mem_nil, false_imp_iff, implies_true, and_true]
  cases rev with
  | nil => simp [Stem.accepts] at h
  | cons c rest =>
    have hc : foldLetter c ≠ 's' := by simpa [Stem.accepts] using h
    have hc' : foldLetter c ≠ 'e' := by simpa [endsWith] using he
    refine ⟨replaced?_oneOf_eq_none ?_, replaced?_oneOf_eq_none ?_, replaced?_oneOf_eq_none ?_,
      replaced?_oneOf_eq_none ?_, replaced?_eq_none_of_endings ?_, replaced?_oneOf_eq_none ?_⟩ <;>
      simp [endsWith, foldLetter_added, hc, hc']

/-- The singular rules take away what the plural rules put behind a name, and a small y comes back
for a capital one. -/
theorem singularRules_pluralRules {c : Char} {rest : List Char} (hs : foldLetter c ≠ 's')
    (he : foldLetter c ≠ 'e')
    (hmatrix : ∀ word ∈ ["matr", "vert", "ind"], ∀ ending ∈ ["ix", "ex"],
      endsWith (c :: rest) (word ++ ending).toList.reverse = false) :
    applyFirst pluralRules (c :: rest).reverse ≠ [] ∧
      (applyFirst singularRules (applyFirst pluralRules (c :: rest).reverse) = (c :: rest).reverse ∨
        c = 'Y' ∧ applyFirst singularRules (applyFirst pluralRules (c :: rest).reverse) =
          rest.reverse ++ "y".toList) := by
  have hnos : endsWith (c :: rest) ['s'] = false := by simp [endsWith, hs]
  have hnoe : endsWith (c :: rest) ['e'] = false := by simp [endsWith, he]
  rcases pluralRules_cases hnos hmatrix with
    ⟨y, stem, heq, hy, hstem, hform⟩ | ⟨hhiss, hform⟩ | hform
  · obtain ⟨rfl, rfl⟩ := List.cons_eq_cons.1 heq
    rw [foldLetter_eq_iff_or (by decide) (by decide) (by decide)] at hy
    rw [hform, singularRules_ies hstem]
    refine ⟨by simp, ?_⟩
    rcases hy with rfl | rfl
    · exact .inl (List.reverse_cons ..).symm
    · exact .inr ⟨by decide, rfl⟩
  · have hhiss' : (Stem.oneOf ["x", "ch", "sh", "ss"]).accepts (c :: rest) = true := by
      -- the two rules name the sounds in different orders
      obtain ⟨word, hword, hends⟩ := List.any_eq_true.1 hhiss
      exact List.any_eq_true.2 ⟨word, by simpa [or_comm] using hword, hends⟩
    rw [hform, singularRules_es hhiss' hnos]
    exact ⟨by simp, .inl rfl⟩
  · have hnotS : Stem.notS.accepts (c :: rest) = true := by simp [Stem.accepts, hs]
    rw [hform, singularRules_s hnotS hnoe]
    exact ⟨by simp, .inl rfl⟩

/-! ## There and back -/

section Regular

variable {inflector : Inflector} {name : String}

/-- Where the words know neither the name nor its last word, the rules decide. -/
theorem inflect_of_not_knows (hname : name ≠ "") (hwhole : ¬ inflector.Knows name)
    (hlast : ¬ inflector.Knows (String.ofList (splitLastWord name.toList).2)) :
    inflector.pluralize name = String.ofList (applyFirst pluralRules name.toList) ∧
      inflector.singularize name = String.ofList (applyFirst singularRules name.toList) := by
  have hne : name.toList ≠ [] := mt String.toList_eq_nil_iff.1 hname
  rw [← String.ofList_toList (s := name)] at hwhole
  have hwhole := Inflector.askWords_of_not_knows name.toList [] hwhole
  have hlast := Inflector.askWords_of_not_knows name.toList (splitLastWord name.toList).1 hlast
  constructor
  · rw [Inflector.pluralize, Inflector.inflect_eq _ hne, hwhole.1, hlast.1]
    rfl
  · rw [Inflector.singularize, Inflector.inflect_eq _ hne, hwhole.2, hlast.2]
    rfl

/-- The words that take `ices` in the plural, as the rules know them. -/
def matrixWords : List String := ["matrix", "matrex", "vertix", "vertex", "indix", "index"]

theorem not_endsWith_of_not_matrix
    (h : ∀ word ∈ matrixWords, ¬ word.toList <:+ (Text.asciiLower name).toList) :
    ∀ word ∈ ["matr", "vert", "ind"], ∀ ending ∈ ["ix", "ex"],
      endsWith name.toList.reverse (word ++ ending).toList.reverse = false := by
  have hmem : ∀ word ∈ ["matr", "vert", "ind"], ∀ ending ∈ ["ix", "ex"],
      word ++ ending ∈ matrixWords := by decide
  have hletters : ∀ word ∈ matrixWords,
      (word.toList.reverse.all fun w => w.isLower && w != 's' && w != 'k') = true := by decide
  intro word hword ending hending
  have hin := hmem word hword ending hending
  by_contra hends
  refine h _ hin ?_
  rw [Text.asciiLower, String.toList_ofList, ← List.reverse_prefix, ← List.map_reverse]
  refine isPrefix_of_endsWith (fun w hw => ?_) (Bool.not_eq_false _ ▸ hends)
  simpa [and_assoc] using List.all_eq_true.1 (hletters _ hin) w hw

/-- **The singular of the plural.** Let a name end in neither e nor s nor like a matrix, and let no
word answer for it, for its plural or for the last word of either. Then the singular of its plural
is the name again, except that a capital Y at its end may come back small. -/
theorem singularize_pluralize_of_regular (inflector : Inflector) {name : String} (hname : name ≠ "")
    (hlast : ∀ c, name.toList.getLast? = some c → c ∉ ['e', 'E', 's', 'S', 'ſ'])
    (hmatrix : ∀ word ∈ matrixWords, ¬ word.toList <:+ (Text.asciiLower name).toList)
    (hknown : ∀ text ∈ [name, inflector.pluralize name], ¬ inflector.Knows text ∧
      ¬ inflector.Knows (String.ofList (splitLastWord text.toList).2)) :
    inflector.singularize (inflector.pluralize name) = name ∨
      ∃ stem, name = stem ++ "Y" ∧
        inflector.singularize (inflector.pluralize name) = stem ++ "y" := by
  obtain ⟨hwhole, hword⟩ := hknown name (by simp)
  obtain ⟨hwhole', hword'⟩ := hknown (inflector.pluralize name) (by simp)
  obtain ⟨c, rest, hrev⟩ := List.exists_cons_of_ne_nil
    (mt List.reverse_eq_nil_iff.1 (mt String.toList_eq_nil_iff.1 hname))
  have hlist : name.toList = (c :: rest).reverse := by rw [← hrev, List.reverse_reverse]
  obtain ⟨hce, hcs⟩ : foldLetter c ≠ 'e' ∧ foldLetter c ≠ 's' := by
    have hc := hlast c (by simp [hlist])
    rw [Ne, foldLetter_eq_iff_or (by decide) (by decide) (by decide), Ne, foldLetter_eq_s_iff]
    simp_all
  obtain ⟨hform, hback⟩ := singularRules_pluralRules hcs hce
    (hrev ▸ not_endsWith_of_not_matrix hmatrix)
  rw [← hlist] at hform hback
  -- the words are silent about the name and about its plural, so the rules decide both times
  have hplural := (inflect_of_not_knows hname hwhole hword).1
  have hne : inflector.pluralize name ≠ "" := by simpa [hplural] using hform
  have hsingular := (inflect_of_not_knows hne hwhole' hword').2
  rw [hplural, String.toList_ofList, ← hplural] at hsingular
  rw [hsingular]
  refine hback.imp (fun hsame => ?_) ?_
  · rw [hsame, String.ofList_toList]
  · rintro ⟨rfl, hsmall⟩
    refine ⟨String.ofList rest.reverse, ?_, ?_⟩
    · rw [← String.ofList_toList (s := name), hlist, List.reverse_cons, String.ofList_append]
    · rw [hsmall, String.ofList_append, String.ofList_toList]

theorem singularize_pluralize_subnetPolicy :
    Inflector.standard.singularize (Inflector.standard.pluralize "SubnetPolicy") =
        "SubnetPolicy" ∨
      ∃ stem, "SubnetPolicy" = stem ++ "Y" ∧
        Inflector.standard.singularize (Inflector.standard.pluralize "SubnetPolicy") =
          stem ++ "y" := by
  have hlast : "SubnetPolicy".toList.getLast? = some 'y' := by decide +kernel
  refine singularize_pluralize_of_regular Inflector.standard (by decide) ?_ (by decide +kernel)
    (by decide +kernel)
  rintro c hc
  rw [hlast, Option.some.injEq] at hc
  rw [← hc]
  decide

end Regular

end SchemaNodes.Naming
