import Mathlib
import SchemaNodes.Text.Case

/-!
# Case of ASCII letters

Two texts that differ only in the case of ASCII letters have one lowercase. The final sigma is what
makes this more than a statement about single characters: how it is written depends on the letters
around it, but not on their case.

* **`lowercase_eq_of_asciiLower_eq`**: texts equal apart from ASCII case have one lowercase.
* **`suffix_lowercase`**: ASCII characters at the end of a text are lowered by themselves.
* **`toLower_eq_iff`**: the characters whose lower case is a given small letter.
* **`upper_of_isAscii`**, **`lower_of_isAscii`**: full case mapping of ASCII is the simple one.
-/

namespace SchemaNodes.Text

/-! ## One character -/

theorem isAlpha_of_isUpper {c : Char} (h : c.isUpper) : c.isAlpha := by
  rw [Char.isAlpha, h, Bool.true_or]

theorem isAlpha_of_isLower {c : Char} (h : c.isLower) : c.isAlpha := by
  rw [Char.isAlpha, h, Bool.or_true]

theorem isAscii_of_isAlpha {c : Char} (h : c.isAlpha) : isAscii c = true := by
  simp only [Char.isAlpha, Char.isUpper, Char.isLower, Bool.or_eq_true, Bool.and_eq_true,
    decide_eq_true_eq, ge_iff_le, UInt32.le_iff_toNat_le] at h
  simp only [isAscii, decide_eq_true_eq, Char.toNat]
  rcases h with ⟨-, h⟩ | ⟨-, h⟩
  · exact lt_of_le_of_lt h (by decide)
  · exact lt_of_le_of_lt h (by decide)

theorem not_isDigit_of_isAlpha {c : Char} (h : c.isAlpha) : c.isDigit = false := by
  simp only [Char.isAlpha, Char.isUpper, Char.isLower, Bool.or_eq_true, Bool.and_eq_true,
    decide_eq_true_eq, ge_iff_le, UInt32.le_iff_toNat_le] at h
  simp only [Char.isDigit, Bool.and_eq_false_iff, decide_eq_false_iff_not, ge_iff_le,
    UInt32.le_iff_toNat_le]
  have hnine : '9'.val.toNat < 'A'.val.toNat := by decide
  have hsmall : '9'.val.toNat < 'a'.val.toNat := by decide
  omega

theorem lower_of_isAscii {c : Char} (h : isAscii c = true) : lower c = [c.toLower] := by
  rw [lower, if_pos h]

theorem upper_of_isAscii {c : Char} (h : isAscii c = true) : upper c = [c.toUpper] := by
  rw [upper, if_pos h]

theorem isUppercase_of_isAlpha {c : Char} (h : c.isAlpha) : isUppercase c = c.isUpper := by
  rw [isUppercase, if_pos (isAscii_of_isAlpha h)]

theorem isLowercase_of_isAlpha {c : Char} (h : c.isAlpha) : isLowercase c = c.isLower := by
  rw [isLowercase, if_pos (isAscii_of_isAlpha h)]

theorem isCased_of_isAlpha {c : Char} (h : c.isAlpha) : isCased c = true := by
  have halpha := h
  rw [Char.isAlpha, Bool.or_eq_true] at h
  rw [isCased, isUppercase_of_isAlpha halpha, isLowercase_of_isAlpha halpha]
  rcases h with h | h
  · simp [h]
  · simp [h]

theorem not_isCaseIgnorable_of_isAlpha {c : Char} (h : c.isAlpha) : isCaseIgnorable c = false := by
  rw [isCaseIgnorable, if_pos (isAscii_of_isAlpha h)]
  -- none of the five ASCII characters that are passed over is a letter
  simp only [Bool.or_eq_false_iff, beq_eq_false_iff_ne]
  refine ⟨⟨⟨⟨?_, ?_⟩, ?_⟩, ?_⟩, ?_⟩
  all_goals
    rintro rfl
    exact absurd h (by decide)

/-- Characters with one lower case are the same or both letters. -/
theorem eq_or_isAlpha_of_toLower_eq {c d : Char} (h : c.toLower = d.toLower) :
    c = d ∨ c.isAlpha ∧ d.isAlpha := by
  have hiff : c.isAlpha = d.isAlpha := by
    rw [← Char.isAlpha_toLower_eq_isAlpha c, h, Char.isAlpha_toLower_eq_isAlpha]
  by_cases hc : c.isAlpha
  · exact .inr ⟨hc, hiff ▸ hc⟩
  · have hd : ¬ d.isAlpha := hiff ▸ hc
    rw [Char.toLower_eq_of_not_isUpper (mt isAlpha_of_isUpper hc),
      Char.toLower_eq_of_not_isUpper (mt isAlpha_of_isUpper hd)] at h
    exact .inl h

theorem isAscii_toLower (c : Char) : isAscii c.toLower = isAscii c := by
  by_cases hupper : c.isUpper
  · have halpha : c.isAlpha := isAlpha_of_isUpper hupper
    rw [isAscii_of_isAlpha halpha, isAscii_of_isAlpha (by rwa [Char.isAlpha_toLower_eq_isAlpha])]
  · rw [Char.toLower_eq_of_not_isUpper hupper]

/-- A small letter is the lower case of itself and of its capital, and of nothing else. -/
theorem toLower_eq_iff {c small : Char} (h : small.isLower) :
    c.toLower = small ↔ c = small ∨ c = small.toUpper := by
  constructor
  · intro hc
    by_cases hupper : c.isUpper
    · refine .inr ?_
      rw [← hc, Char.toUpper_toLower_eq_toUpper,
        Char.toUpper_eq_of_not_isLower (Char.not_isLower_of_isUpper hupper)]
    · exact .inl (by rwa [Char.toLower_eq_of_not_isUpper hupper] at hc)
  · have hsmall := Char.toLower_eq_of_not_isUpper (Char.not_isUpper_of_isLower h)
    rintro (rfl | rfl)
    · exact hsmall
    · rw [Char.toLower_toUpper_eq_toLower, hsmall]

/-! ## Whole texts

A text is compared with another one of the same length, letter by letter. What lowercasing looks at
beyond the letter itself, whether a cased letter is reached to the left and to the right, does not
depend on the case of ASCII letters. -/

theorem lower_eq_of_toLower_eq {c d : Char} (h : c.toLower = d.toLower) : lower c = lower d := by
  rcases eq_or_isAlpha_of_toLower_eq h with rfl | ⟨hc, hd⟩
  · rfl
  · rw [lower_of_isAscii (isAscii_of_isAlpha hc), lower_of_isAscii (isAscii_of_isAlpha hd), h]

theorem reachesCased_eq_of_toLower_eq {xs ys : List Char}
    (h : xs.map Char.toLower = ys.map Char.toLower) : reachesCased xs = reachesCased ys := by
  induction xs generalizing ys with
  | nil => rw [List.map_eq_nil_iff.1 h.symm]
  | cons x xs ih =>
    obtain ⟨y, ys, rfl, hy, hys⟩ := List.map_eq_cons_iff.1 h.symm
    rcases eq_or_isAlpha_of_toLower_eq hy with rfl | ⟨hyalpha, hxalpha⟩
    · rw [reachesCased, reachesCased, ih hys.symm]
    · simp [reachesCased, not_isCaseIgnorable_of_isAlpha, isCased_of_isAlpha, hxalpha, hyalpha]

theorem lowerAfter_eq_of_toLower_eq {xs ys before before' : List Char}
    (hbefore : before.map Char.toLower = before'.map Char.toLower)
    (h : xs.map Char.toLower = ys.map Char.toLower) :
    lowerAfter before xs = lowerAfter before' ys := by
  induction xs generalizing ys before before' with
  | nil => rw [List.map_eq_nil_iff.1 h.symm]; rfl
  | cons x xs ih =>
    obtain ⟨y, ys, rfl, hy, hys⟩ := List.map_eq_cons_iff.1 h.symm
    have hrest : lowerAfter (x :: before) xs = lowerAfter (y :: before') ys :=
      ih (by rw [List.map_cons, List.map_cons, hy, hbefore]) hys.symm
    -- sigma is no ASCII letter, so it faces itself or nothing
    have hsigma : x = 'Σ' ↔ y = 'Σ' := by
      rcases eq_or_isAlpha_of_toLower_eq hy with rfl | ⟨hyalpha, hxalpha⟩
      · exact Iff.rfl
      · constructor
        · rintro rfl; exact absurd hxalpha (by decide)
        · rintro rfl; exact absurd hyalpha (by decide)
    rw [lowerAfter, lowerAfter, hrest, reachesCased_eq_of_toLower_eq hbefore,
      reachesCased_eq_of_toLower_eq hys.symm, lower_eq_of_toLower_eq hy.symm]
    simp only [hsigma]

theorem asciiLower_eq_iff {a b : String} :
    asciiLower a = asciiLower b ↔
      a.toList.map Char.toLower = b.toList.map Char.toLower := by
  rw [asciiLower, asciiLower, String.ofList_inj]

/-- Texts that differ only in the case of ASCII letters have one lowercase. -/
theorem lowercase_eq_of_asciiLower_eq {a b : String} (h : asciiLower a = asciiLower b) :
    lowercase a = lowercase b := by
  rw [lowercase, lowercase, lowerAfter_eq_of_toLower_eq rfl (asciiLower_eq_iff.1 h)]

theorem lowerAfter_of_isAscii {text : List Char} (before : List Char)
    (h : ∀ c ∈ text, isAscii c = true) : lowerAfter before text = text.map Char.toLower := by
  induction text generalizing before with
  | nil => rfl
  | cons c text ih =>
    obtain ⟨hc, htext⟩ := List.forall_mem_cons.1 h
    have hsigma : c ≠ 'Σ' := by
      rintro rfl
      exact absurd hc (by decide)
    rw [lowerAfter, if_neg hsigma, lower_of_isAscii hc, ih _ htext, List.singleton_append,
      List.map_cons]

/-- The lowercase of an ASCII text is that of its letters. -/
theorem lowercase_of_isAscii {text : String} (h : ∀ c ∈ text.toList, isAscii c = true) :
    lowercase text = asciiLower text := by
  rw [lowercase, lowerAfter_of_isAscii [] h, asciiLower]

theorem toList_lowercase_of_isAscii {text : String} (h : ∀ c ∈ text.toList, isAscii c = true) :
    (lowercase text).toList = text.toList.map Char.toLower := by
  rw [lowercase_of_isAscii h, asciiLower, String.toList_ofList]

theorem isAscii_lowercase {text : String} (h : ∀ c ∈ text.toList, isAscii c = true) :
    ∀ c ∈ (lowercase text).toList, isAscii c = true := by
  rw [toList_lowercase_of_isAscii h, List.forall_mem_map]
  exact fun c hc => (isAscii_toLower c).trans (h c hc)

theorem lowercase_lowercase {text : String} (h : ∀ c ∈ text.toList, isAscii c = true) :
    lowercase (lowercase text) = lowercase text := by
  refine lowercase_eq_of_asciiLower_eq ?_
  rw [asciiLower_eq_iff, toList_lowercase_of_isAscii h, List.map_map]
  exact List.map_congr_left fun c _ => Char.toLower_toLower_eq_toLower c

theorem exists_lowerAfter_append (before front : List Char) {text : List Char}
    (h : ∀ c ∈ text, isAscii c = true) :
    ∃ lowered, lowerAfter before (front ++ text) = lowered ++ text.map Char.toLower := by
  induction front generalizing before with
  | nil => exact ⟨[], lowerAfter_of_isAscii before h⟩
  | cons c front ih =>
    obtain ⟨lowered, hrest⟩ := ih (c :: before)
    rw [List.cons_append, lowerAfter, hrest, ← List.append_assoc]
    exact ⟨_, rfl⟩

/-- A text that ends in ASCII characters has a lowercase that ends in theirs. -/
theorem suffix_lowercase (front : List Char) {text : List Char}
    (h : ∀ c ∈ text, isAscii c = true) :
    text.map Char.toLower <:+ (lowercase (String.ofList (front ++ text))).toList := by
  obtain ⟨lowered, hlower⟩ := exists_lowerAfter_append [] front h
  rw [lowercase, String.toList_ofList, String.toList_ofList, hlower]
  exact List.suffix_append lowered _

/-- A text that begins with an ASCII character has a lowercase that is not empty. -/
theorem lowercase_ne_empty {text : String} (hne : text ≠ "")
    (h : ∀ c ∈ text.toList, isAscii c = true) : lowercase text ≠ "" := by
  obtain ⟨c, rest, hlist⟩ := List.exists_cons_of_ne_nil (mt String.toList_eq_nil_iff.1 hne)
  have hc : isAscii c = true := h c (by simp [hlist])
  have hsigma : c ≠ 'Σ' := by
    rintro rfl
    exact absurd hc (by decide)
  simp [lowercase, hlist, lowerAfter, hsigma, lower_of_isAscii hc]

end SchemaNodes.Text
