import SchemaNodes.Proofs.Naming.LastWord
import SchemaNodes.Proofs.Text.Case

/-!
# Words in the case of other words

What `matchCase` does to a word of ASCII characters, and why the result still is the last word of a
compound name if the word it replaces was.

* **`asciiLower_matchCase`**: only the case of ASCII letters changes.
* **`matchCase_plain`**: a plain word comes back in capitals, or with its first letter adapted.
* **`IsLastWord.matchCase`**: in place of the last word of a name, a plain word is its last word.
-/

namespace SchemaNodes.Naming

/-! ## Change of case -/

theorem map_toLower_flatMap_upper {text : List Char} (h : ∀ c ∈ text, Text.isAscii c = true) :
    (text.flatMap Text.upper).map Char.toLower = text.map Char.toLower := by
  induction text with
  | nil => rfl
  | cons c text ih =>
    obtain ⟨hc, htext⟩ := List.forall_mem_cons.1 h
    rw [List.flatMap_cons, Text.upper_of_isAscii hc, List.singleton_append, List.map_cons,
      Char.toLower_toUpper_eq_toLower, ih htext, List.map_cons]

theorem map_toLower_matchCase {model replacement : List Char}
    (h : ∀ c ∈ replacement, Text.isAscii c = true) :
    (matchCase model replacement).map Char.toLower = replacement.map Char.toLower := by
  unfold matchCase
  split
  · exact map_toLower_flatMap_upper h
  · cases model with
    | nil => rfl
    | cons first model =>
      cases replacement with
      | nil => rfl
      | cons r rest =>
        have hr : Text.isAscii r = true := h r List.mem_cons_self
        by_cases hfirst : Text.isUppercase first
        · simp [hfirst, Text.upper_of_isAscii hr]
        · simp [hfirst, Text.lower_of_isAscii hr]

/-- A word of ASCII characters put into the case of another word stays the same apart from case. -/
theorem asciiLower_matchCase (model : List Char) {replacement : String}
    (h : ∀ c ∈ replacement.toList, Text.isAscii c = true) :
    Text.asciiLower (String.ofList (matchCase model replacement.toList)) =
      Text.asciiLower replacement := by
  rw [Text.asciiLower_eq_iff, String.toList_ofList, map_toLower_matchCase h]

theorem isAscii_matchCase {model replacement : List Char}
    (h : ∀ c ∈ replacement, Text.isAscii c = true) :
    ∀ c ∈ matchCase model replacement, Text.isAscii c = true := by
  intro c hc
  have hlower : c.toLower ∈ replacement.map Char.toLower := by
    rw [← map_toLower_matchCase h]
    exact List.mem_map_of_mem hc
  obtain ⟨d, hd, heq⟩ := List.mem_map.1 hlower
  rw [← Text.isAscii_toLower, ← heq, Text.isAscii_toLower, h d hd]

theorem matchCase_ne_nil {model replacement : List Char}
    (h : ∀ c ∈ replacement, Text.isAscii c = true) (hne : replacement ≠ []) :
    matchCase model replacement ≠ [] := by
  intro hnil
  have hmap : (matchCase model replacement).map Char.toLower = _ := map_toLower_matchCase h
  rw [hnil, List.map_nil, eq_comm, List.map_eq_nil_iff] at hmap
  exact hne hmap

/-! ## Plain words -/

/-- A word of ASCII letters of which only the first may be a capital. -/
inductive IsPlain : List Char → Prop where
  | mk {first : Char} {rest : List Char} (letter : first.isAlpha) (small : ∀ c ∈ rest, c.isLower) :
    IsPlain (first :: rest)

theorem IsPlain.isAlpha {word : List Char} (h : IsPlain word) : ∀ c ∈ word, c.isAlpha = true := by
  obtain ⟨hletter, hsmall⟩ := h
  exact List.forall_mem_cons.2 ⟨hletter, fun c hc => Text.isAlpha_of_isLower (hsmall c hc)⟩

theorem IsPlain.isAscii {word : List Char} (h : IsPlain word) :
    ∀ c ∈ word, Text.isAscii c = true :=
  fun c hc => Text.isAscii_of_isAlpha (h.isAlpha c hc)

instance : DecidablePred IsPlain
  | [] => isFalse nofun
  | first :: rest => decidable_of_iff (first.isAlpha = true ∧ rest.all Char.isLower = true)
      ⟨fun ⟨letter, small⟩ => ⟨letter, List.all_eq_true.1 small⟩,
        fun ⟨letter, small⟩ => ⟨letter, List.all_eq_true.2 small⟩⟩

/-- A plain word comes back in capitals if the model has several letters and none of them small;
otherwise its first letter is a capital just if the first letter of the model is. -/
theorem matchCase_plain (m : Char) (ms : List Char) {replacement : List Char}
    (h : IsPlain replacement) :
    (∀ c ∈ m :: ms, Text.isLowercase c = false) ∧
        (∀ c ∈ matchCase (m :: ms) replacement, c.isUpper = true) ∧
        matchCase (m :: ms) replacement ≠ [] ∨
      ∃ first, first.isAlpha ∧ (Text.isUppercase m = true → first.isUpper) ∧
        matchCase (m :: ms) replacement = first :: replacement.tail := by
  have halpha := h.isAlpha
  obtain ⟨hletter, hsmall⟩ := h
  rename_i r rest
  rw [matchCase]
  split
  · next hcapitals =>
    simp only [Bool.and_eq_true, List.all_eq_true, Bool.not_eq_true'] at hcapitals
    refine .inl ⟨hcapitals.2, ?_, ?_⟩
    · intro c hc
      obtain ⟨d, hd, hcd⟩ := List.mem_flatMap.1 hc
      rw [Text.upper_of_isAscii (Text.isAscii_of_isAlpha (halpha d hd)), List.mem_singleton] at hcd
      rw [hcd, Char.isUpper_toUpper_eq_isAlpha, halpha d hd]
    · rw [List.flatMap_cons, Text.upper_of_isAscii (Text.isAscii_of_isAlpha hletter)]
      simp
  · right
    by_cases hm : Text.isUppercase m
    · refine ⟨r.toUpper, ?_, fun _ => ?_, ?_⟩
      · rwa [Char.isAlpha_toUpper_eq_isAlpha]
      · rwa [Char.isUpper_toUpper_eq_isAlpha]
      · simp [hm, Text.upper_of_isAscii (Text.isAscii_of_isAlpha hletter)]
    · refine ⟨r.toLower, ?_, fun h => absurd h hm, ?_⟩
      · rwa [Char.isAlpha_toLower_eq_isAlpha]
      · simp [hm, Text.lower_of_isAscii (Text.isAscii_of_isAlpha hletter)]

/-! ## Inside a word

No word begins inside a word that is in capitals, or that has small letters only behind its first
letter. -/

theorem isMark_eq_false_of_isAlpha {c : Char} (h : c.isAlpha) : isMark c = false := by
  simp only [isMark, Bool.or_eq_false_iff, decide_eq_false_iff_not]
  constructor
  · rintro rfl; exact absurd h (by decide)
  · rintro rfl; exact absurd h (by decide)

/-- Behind letters a word can only begin with a capital. -/
theorem not_wordStart_of_letters {front inner rest : List Char} (hinner : inner ≠ [])
    (hletters : ∀ c ∈ inner, c.isAlpha = true)
    (hcapital : ∀ previous ∈ inner, ¬ capitalStarts previous rest = true) :
    ¬ WordStart (front ++ inner) rest := by
  rcases List.eq_nil_or_concat' inner with rfl | ⟨before, previous, rfl⟩
  · exact absurd rfl hinner
  · have hmem : previous ∈ before ++ [previous] := by simp
    rw [← List.append_assoc, wordStart_concat_iff,
      isMark_eq_false_of_isAlpha (hletters previous hmem)]
    simpa using hcapital previous hmem

theorem undivided_of_capitals {front word : List Char} (h : ∀ c ∈ word, c.isUpper = true) :
    ∀ inner rest, inner ≠ [] → word = inner ++ rest → ¬ WordStart (front ++ inner) rest := by
  rintro inner rest hinner rfl
  have halpha : ∀ c ∈ inner ++ rest, c.isAlpha = true := fun c hc =>
    Text.isAlpha_of_isUpper (h c hc)
  have hnotsmall : ∀ c ∈ inner ++ rest, ¬ Text.isLowercase c = true := fun c hc => by
    rw [Text.isLowercase_of_isAlpha (halpha c hc)]
    exact Char.not_isLower_of_isUpper (h c hc)
  refine not_wordStart_of_letters hinner (fun c hc => halpha c (List.mem_append_left _ hc)) ?_
  intro previous hprevious
  have hmem := List.mem_append_left rest hprevious
  cases rest with
  | nil => simp [capitalStarts]
  | cons c rest =>
    rw [capitalStarts_cons_iff]
    rintro ⟨-, hsmall | hdigit | ⟨-, next, hnext, hsmall⟩⟩
    · exact hnotsmall previous hmem hsmall
    · exact absurd hdigit (by simp [Text.not_isDigit_of_isAlpha (halpha previous hmem)])
    · have hin := List.mem_of_mem_head? hnext
      exact hnotsmall next (by simp [hin]) hsmall

theorem undivided_of_small {front rest : List Char} {first : Char} (hfirst : first.isAlpha)
    (hsmall : ∀ c ∈ rest, c.isLower = true) :
    ∀ inner after, inner ≠ [] → first :: rest = inner ++ after →
      ¬ WordStart (front ++ inner) after := by
  intro inner after hinner heq
  have halpha : ∀ c ∈ first :: rest, c.isAlpha = true :=
    List.forall_mem_cons.2 ⟨hfirst, fun c hc => Text.isAlpha_of_isLower (hsmall c hc)⟩
  refine not_wordStart_of_letters hinner
    (fun c hc => halpha c (heq ▸ List.mem_append_left _ hc)) fun previous _ => ?_
  cases after with
  | nil => simp [capitalStarts]
  | cons c after =>
    -- behind the first letter there are no capitals
    obtain ⟨x, inner, rfl⟩ := List.exists_cons_of_ne_nil hinner
    have hc : c ∈ rest := by rw [(List.cons_eq_cons.1 heq).2]; simp
    rw [capitalStarts_cons_iff,
      Text.isUppercase_of_isAlpha (halpha c (List.mem_cons_of_mem _ hc))]
    rintro ⟨hupper, -⟩
    exact Char.not_isUpper_of_isLower (hsmall c hc) hupper

/-! ## In place of the last word -/

/-- A word begins with a capital where another one does, if it has capitals and small letters where
the other has them. -/
theorem capitalStarts_of_capitalStarts {previous m c : Char} {ms rest : List Char}
    (h : capitalStarts previous (m :: ms) = true)
    (hfirst : Text.isUppercase m = true → Text.isUppercase c = true)
    (hsecond : Text.isUppercase previous = true →
      (∃ next, ms.head? = some next ∧ Text.isLowercase next = true) →
        ∃ next, rest.head? = some next ∧ Text.isLowercase next = true) :
    capitalStarts previous (c :: rest) = true := by
  rw [capitalStarts_cons_iff] at h ⊢
  obtain ⟨hm, hsmall | hdigit | ⟨hcapital, hnext⟩⟩ := h
  · exact ⟨hfirst hm, .inl hsmall⟩
  · exact ⟨hfirst hm, .inr (.inl hdigit)⟩
  · exact ⟨hfirst hm, .inr (.inr ⟨hcapital, hsecond hcapital hnext⟩)⟩

theorem IsLastWord.starts_of_capitalStarts {front word other : List Char}
    (h : IsLastWord front word)
    (hcapital : ∀ previous, front.getLast? = some previous →
      capitalStarts previous word = true → capitalStarts previous other = true) :
    front = [] ∨ WordStart front other := by
  refine h.starts.imp_right ?_
  rintro ⟨before, previous, rfl, hstarts⟩
  rw [wordStart_concat_iff]
  exact hstarts.imp_left (hcapital previous (by simp))

/-- A plain word in the case of the last word of a name is the last word in its place. It may be a
single letter only if no capital stands in front of it, as two capitals at the end of a name are not
parted. -/
theorem IsLastWord.matchCase {front word plain : List Char} (h : IsLastWord front word)
    (hword : word ≠ []) (hplain : IsPlain plain)
    (hlength : 2 ≤ plain.length ∨ ∀ c, front.getLast? = some c → ¬ Text.isUppercase c = true) :
    IsLastWord front (matchCase word plain) := by
  obtain ⟨m, ms, rfl⟩ := List.exists_cons_of_ne_nil hword
  rcases matchCase_plain m ms hplain with
    ⟨hmodel, hupper, hne⟩ | ⟨first, hletter, hcase, heq⟩
  · refine ⟨h.starts_of_capitalStarts fun previous _ hstarts => ?_, undivided_of_capitals hupper⟩
    obtain ⟨c, rest, heq⟩ := List.exists_cons_of_ne_nil hne
    have hc : c.isUpper = true := hupper c (by simp [heq])
    rw [heq]
    refine capitalStarts_of_capitalStarts hstarts (fun _ => ?_) ?_
    · rwa [Text.isUppercase_of_isAlpha (Text.isAlpha_of_isUpper hc)]
    · -- the model has no small letters
      rintro - ⟨next, hnext, hsmall⟩
      have hnot := hmodel next (List.mem_cons_of_mem _ (List.mem_of_mem_head? hnext))
      exact absurd hsmall (by simp [hnot])
  · obtain ⟨-, hsmall⟩ := hplain
    rename_i r rest
    rw [heq]
    refine ⟨h.starts_of_capitalStarts fun previous hlast hstarts => ?_,
      undivided_of_small hletter hsmall⟩
    refine capitalStarts_of_capitalStarts hstarts (fun hm => ?_) fun hcapital _ => ?_
    · rw [Text.isUppercase_of_isAlpha hletter, hcase hm]
    · rcases hlength with hlength | hlength
      · cases rest with
        | nil => simp at hlength
        | cons d rest =>
          have hd := hsmall d List.mem_cons_self
          refine ⟨d, rfl, ?_⟩
          rwa [Text.isLowercase_of_isAlpha (Text.isAlpha_of_isLower hd)]
      · exact absurd hcapital (hlength previous hlast)

end SchemaNodes.Naming
