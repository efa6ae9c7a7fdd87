import Mathlib.Data.List.Basic

/-!
# The order of the bytes

Texts are ordered by their code points, and file systems know names only as bytes. In UTF-8 the two
orders are one: a character with a greater code has the greater bytes, whatever stands behind it.

* **`append_utf8EncodeChar_lt`**: the step, for a character and what follows.
* **`lt_iff_utf8_lt`**: so texts are in the order of their UTF-8 forms.
-/

namespace SchemaNodes.Text

/-- The bytes of a text in UTF-8. -/
def utf8 (text : String) : List UInt8 := text.toUTF8.data.toList

theorem utf8_eq (text : String) : utf8 text = text.toList.flatMap String.utf8EncodeChar := by
  have htext : text.toUTF8 = text.toList.utf8Encode := by
    rw [String.toUTF8, ← String.toByteArray_ofList, String.ofList_toList]
  rw [utf8, htext, List.utf8Encode, List.data_toByteArray]

/-- The bytes of the lesser of two characters come first, whatever follows. -/
theorem append_utf8EncodeChar_lt {c d : Char} (h : c < d) (s t : List UInt8) :
    String.utf8EncodeChar c ++ s < String.utf8EncodeChar d ++ t := by
  have hlt : c.val.toNat < d.val.toNat := h
  have hvalid : d.val.toNat < 0x110000 := by
    rcases d.valid with hsmall | ⟨-, hlarge⟩
    · exact Nat.lt_trans hsmall (by decide)
    · exact hlarge
  have hthird : ∀ n : Nat, n / 4096 = n / 64 / 64 := fun n => by omega
  have hfourth : ∀ n : Nat, n / 262144 = n / 64 / 64 / 64 := fun n => by omega
  simp only [String.utf8EncodeChar, hthird, hfourth]
  generalize c.val.toNat = v at *
  generalize d.val.toNat = w at *
  -- of two lengths the first bytes decide; of one length the bytes are digits to the base 64
  split_ifs
  all_goals
    simp only [List.cons_append, List.nil_append, List.cons_lt_cons_iff, UInt8.lt_iff_toNat_lt,
      ← UInt8.toNat_inj, UInt8.toNat_ofNat']
    omega

theorem flatMap_utf8EncodeChar_lt {xs ys : List Char} (h : List.Lex (· < ·) xs ys) :
    xs.flatMap String.utf8EncodeChar < ys.flatMap String.utf8EncodeChar := by
  induction h with
  | @nil y ys =>
    -- the bytes of a character are never none
    rw [List.flatMap_nil, List.flatMap_cons]
    cases hbytes : String.utf8EncodeChar y with
    | nil => exact absurd hbytes String.utf8EncodeChar_ne_nil
    | cons byte rest => exact List.nil_lt_cons _ _
  | rel hlt => exact append_utf8EncodeChar_lt hlt _ _
  | cons _ ih => exact List.append_left_lt ih

/-- Texts are in the order of their bytes. -/
theorem lt_iff_utf8_lt {s t : String} : s < t ↔ utf8 s < utf8 t := by
  have hbytes : ∀ {s t : String}, s < t → utf8 s < utf8 t := by
    intro s t h
    rw [utf8_eq, utf8_eq]
    exact flatMap_utf8EncodeChar_lt (List.lex_lt.2 (String.lt_iff.1 h))
  constructor
  · exact hbytes
  · intro h
    by_contra hnot
    by_cases hgreater : t < s
    · exact List.lt_asymm h (hbytes hgreater)
    · obtain rfl := String.le_antisymm (String.not_lt.1 hgreater) (String.not_lt.1 hnot)
      exact List.lt_irrefl _ h

end SchemaNodes.Text
