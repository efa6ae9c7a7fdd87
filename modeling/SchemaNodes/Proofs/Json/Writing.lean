import SchemaNodes.Proofs.Json.Grammar

/-!
# What is written is read back

The compact text of a value that is made of strings, arrays and objects spells this value and no
other, whatever the strings are and however the value is nested.

* **`Cursor.readString_stringChars`**: a string reads back from its quoted form.
* **`Textual.spells_compact`**: a value reads back from its compact text.
* **`Textual.compact_inj`**: values with one compact text are the same value.
-/

namespace SchemaNodes

namespace Json

mutual

/-- The value is made of strings, arrays and objects. -/
def Textual : Json → Prop
  | .string _ => True
  | .array items => TextualItems items
  | .object members => TextualMembers members
  | _ => False

/-- Every item is made of strings, arrays and objects. -/
def TextualItems : List Json → Prop
  | [] => True
  | item :: rest => Textual item ∧ TextualItems rest

/-- Every member's value is made of strings, arrays and objects. -/
def TextualMembers : List (String × Json) → Prop
  | [] => True
  | (_, value) :: rest => Textual value ∧ TextualMembers rest

end

theorem textualItems_iff {items : List Json} :
    TextualItems items ↔ ∀ item ∈ items, item.Textual := by
  induction items with
  | nil => simp [TextualItems]
  | cons item rest ih => rw [TextualItems, ih, List.forall_mem_cons]

theorem textualMembers_iff {members : List (String × Json)} :
    TextualMembers members ↔ ∀ member ∈ members, member.2.Textual := by
  induction members with
  | nil => simp [TextualMembers]
  | cons member rest ih => rw [TextualMembers, ih, List.forall_mem_cons]

/-- Texts with a comma between each two, and before the first if others went before. -/
def separated (first : Bool) (texts : List (List Char)) : List Char :=
  if first then commaSeparated texts else texts.flatMap (',' :: ·)

theorem separated_nil (first : Bool) : separated first [] = [] := by
  cases first <;> rfl

theorem separated_cons (first : Bool) (text : List Char) (others : List (List Char)) :
    separated first (text :: others) =
      (if first then [] else [',']) ++ (text ++ separated false others) := by
  cases first with
  | false => simp [separated]
  | true =>
    simp only [separated, if_true, List.nil_append, Bool.false_eq_true, if_false]
    induction others generalizing text with
    | nil => simp [commaSeparated]
    | cons second others ih =>
      rw [commaSeparated, ih, List.flatMap_cons, List.cons_append]
      exact List.cons_ne_nil _ _

namespace Cursor

/-! ## Strings -/

theorem digitsValue_hexDigits : ∀ n < 0x20,
    digitsValue 16 0 ['0', '0', Nat.digitChar (n / 16), Nat.digitChar (n % 16)] = some n := by
  decide

theorem escape_short {c value : Char} (h : shortEscape? c = some value) (rest : List Char)
    (place : Place) :
    (⟨c :: rest, place⟩ : Cursor).escape = .ok (value, ⟨rest, place.after c c.utf8Size⟩) := by
  have hu : c ≠ 'u' := by
    rintro rfl
    simp [shortEscape?] at h
  simp only [escape, h, next]

theorem escape_control {c : Char} (h : c.toNat < 0x20) (rest : List Char) (place : Place) :
    ∃ after, (⟨'u' :: '0' :: '0' :: Nat.digitChar (c.toNat / 16) :: Nat.digitChar (c.toNat % 16) ::
      rest, place⟩ : Cursor).escape = .ok (c, ⟨rest, after⟩) := by
  have hdigits := digitsValue_hexDigits c.toNat h
  have hlow : ¬ 0xDC00 ≤ c.toNat := by omega
  have hhigh : ¬ 0xD800 ≤ c.toNat := by omega
  simp [escape, hexEscape, next, hdigits, hlow, hhigh, bind, Except.bind]

/-- A character is written as itself, or as a backslash and an escape that is read as it. -/
theorem escapeChar_cases (c : Char) :
    (escapeChar c = [c] ∧ c ≠ '"' ∧ c ≠ '\\' ∧ ¬ c.toNat < 0x20) ∨
    ∃ body, escapeChar c = '\\' :: body ∧
      ∀ rest place, ∃ after, (⟨body ++ rest, place⟩ : Cursor).escape = .ok (c, ⟨rest, after⟩) := by
  have hshort : ∀ letter value, c = value → shortEscape? letter = some value →
      ∃ body, ['\\', letter] = '\\' :: body ∧ ∀ rest place, ∃ after,
        (⟨body ++ rest, place⟩ : Cursor).escape = .ok (c, ⟨rest, after⟩) := by
    rintro letter value rfl h
    exact ⟨[letter], rfl, fun rest place => ⟨_, escape_short h rest place⟩⟩
  -- the short forms in the order in which the writer tries them, then the other control characters
  unfold escapeChar
  split
  · next h => exact .inr (hshort '"' _ h rfl)
  split
  · next h => exact .inr (hshort '\\' _ h rfl)
  split
  · next h => exact .inr (hshort 'b' _ h rfl)
  split
  · next h => exact .inr (hshort 'f' _ h rfl)
  split
  · next h => exact .inr (hshort 'n' _ h rfl)
  split
  · next h => exact .inr (hshort 'r' _ h rfl)
  split
  · next h => exact .inr (hshort 't' _ h rfl)
  split
  · next h => exact .inr ⟨_, rfl, escape_control h⟩
  · next hquote hslash _ _ _ _ _ hcontrol => exact .inl ⟨rfl, hquote, hslash, hcontrol⟩

/-- One written character is read as that character. -/
theorem stringBody_escapeChar (c : Char) (rest : List Char) (place : Place) :
    ∃ after, ∀ fuel acc, stringBody (fuel + 1) ⟨escapeChar c ++ rest, place⟩ acc =
      stringBody fuel ⟨rest, after⟩ (c :: acc) := by
  rcases escapeChar_cases c with ⟨hwritten, hquote, hslash, hcontrol⟩ | ⟨body, hwritten, hescape⟩
  · refine ⟨place.after c c.utf8Size, fun fuel acc => ?_⟩
    rw [hwritten, stringBody]
    simp [hcontrol, next]
  · obtain ⟨after, hread⟩ := hescape rest (place.after '\\' ('\\').utf8Size)
    refine ⟨after, fun fuel acc => ?_⟩
    rw [hwritten, stringBody]
    simp [next, hread, bind, Except.bind]

theorem stringBody_flatMap_escapeChar (cs rest : List Char) (place : Place) :
    ∃ after, ∀ fuel acc, cs.length < fuel →
      stringBody fuel ⟨cs.flatMap escapeChar ++ '"' :: rest, place⟩ acc =
        .ok (String.ofList (acc.reverse ++ cs), ⟨rest, after⟩) := by
  induction cs generalizing place with
  | nil =>
    refine ⟨place.after '"' ('"').utf8Size, fun fuel acc hfuel => ?_⟩
    obtain ⟨fuel, rfl⟩ : ∃ n, fuel = n + 1 := ⟨fuel - 1, by omega⟩
    simp [stringBody, next]
  | cons c cs ih =>
    obtain ⟨mid, hchar⟩ := stringBody_escapeChar c (cs.flatMap escapeChar ++ '"' :: rest) place
    obtain ⟨after, hrest⟩ := ih mid
    refine ⟨after, fun fuel acc hfuel => ?_⟩
    rw [List.length_cons] at hfuel
    obtain ⟨fuel, rfl⟩ : ∃ n, fuel = n + 1 := ⟨fuel - 1, by omega⟩
    rw [List.flatMap_cons, List.append_assoc, hchar, hrest fuel (c :: acc) (by omega)]
    simp

theorem length_le_flatMap_escapeChar (cs : List Char) :
    cs.length ≤ (cs.flatMap escapeChar).length := by
  induction cs with
  | nil => exact Nat.le_refl _
  | cons c cs ih =>
    have hchar : 1 ≤ (escapeChar c).length := by
      rcases escapeChar_cases c with ⟨h, -⟩ | ⟨body, h, -⟩ <;> simp [h]
    rw [List.flatMap_cons, List.length_append, List.length_cons]
    omega

/-- A string reads back from its quoted form. -/
theorem readString_stringChars (s : String) (rest : List Char) (place : Place) :
    ∃ after, (⟨s.toList.flatMap escapeChar ++ '"' :: rest, place⟩ : Cursor).readString =
      .ok (s, ⟨rest, after⟩) := by
  obtain ⟨after, hread⟩ := stringBody_flatMap_escapeChar s.toList rest place
  have hlength := length_le_flatMap_escapeChar s.toList
  refine ⟨after, ?_⟩
  rw [readString, hread _ [] (by rw [List.length_append]; omega)]
  simp

/-! ## Marks -/

theorem skipBlanks_cons {c : Char} (h : isBlank c = false) (rest : List Char) (place : Place) :
    (⟨c :: rest, place⟩ : Cursor).skipBlanks = ⟨c :: rest, place⟩ := by
  simp [skipBlanks, skipWhile, h]

theorem nextItem?_bracket (first : Bool) (rest : List Char) (place : Place) :
    (⟨']' :: rest, place⟩ : Cursor).nextItem? first = .ok (false, ⟨']' :: rest, place⟩) := by
  have hblanks := skipBlanks_cons (c := ']') rfl rest place
  simp [nextItem?, hblanks]

/-- The characters that strings, arrays and objects begin with. -/
def Opening (c : Char) : Prop := c = '"' ∨ c = '[' ∨ c = '\x7b'

theorem nextItem?_opening {c : Char} (h : Opening c) (first : Bool) (rest : List Char)
    (place : Place) :
    ∃ item, (⟨(if first then [] else [',']) ++ c :: rest, place⟩ : Cursor).nextItem? first =
      .ok (true, ⟨c :: rest, item⟩) := by
  cases first <;> rcases h with rfl | rfl | rfl <;>
    simp [nextItem?, skipBlanks_cons, isBlank, next]

theorem nextKey?_brace (first : Bool) (rest : List Char) (place : Place) :
    (⟨'\x7d' :: rest, place⟩ : Cursor).nextKey? first = .ok (false, ⟨'\x7d' :: rest, place⟩) := by
  simp [nextKey?, skipBlanks_cons, isBlank]

theorem nextKey?_quote (first : Bool) (rest : List Char) (place : Place) :
    ∃ key, (⟨(if first then [] else [',']) ++ '"' :: rest, place⟩ : Cursor).nextKey? first =
      .ok (true, ⟨rest, key⟩) := by
  cases first <;> simp [nextKey?, skipBlanks_cons, isBlank, next]

theorem colon_colon (rest : List Char) (place : Place) :
    (⟨':' :: rest, place⟩ : Cursor).colon = .ok ⟨rest, place.after ':' (':').utf8Size⟩ := by
  simp [colon, skipBlanks_cons, isBlank, next]

end Cursor

/-! ## Values -/

theorem Textual.opening {v : Json} (h : v.Textual) :
    ∃ c more, v.compactChars = c :: more ∧ Cursor.Opening c := by
  cases v with
  | string s => exact ⟨_, _, rfl, .inl rfl⟩
  | array items => exact ⟨_, _, rfl, .inr (.inl rfl)⟩
  | object members => exact ⟨_, _, rfl, .inr (.inr rfl)⟩
  | null => simp [Textual] at h
  | bool _ => simp [Textual] at h
  | number _ => simp [Textual] at h

mutual

theorem Textual.spells : ∀ {v : Json}, v.Textual → ∀ (rest : List Char) (place : Place),
    ∃ after, Cursor.Spells ⟨v.compactChars ++ rest, place⟩ v ⟨rest, after⟩
  | .string s, _, rest, place => by
    obtain ⟨after, hread⟩ := Cursor.readString_stringChars s rest (place.after '"' ('"').utf8Size)
    refine ⟨after, .scalar ?_⟩
    rw [compactChars, stringChars]
    simp [Cursor.skipBlanks_cons, Cursor.isBlank, Cursor.scalar, Cursor.next, hread, bind,
      Except.bind, pure, Except.pure]
  | .array items, h, rest, place => by
    rw [Textual] at h
    obtain ⟨after, hitems⟩ := h.spells true rest (place.after '[' ('[').utf8Size)
    have htext : compactChars (.array items) ++ rest =
        '[' :: (separated true (compactItems items) ++ ']' :: rest) := by
      simp [compactChars, separated]
    have hblanks := Cursor.skipBlanks_cons (c := '[') rfl
      (separated true (compactItems items) ++ ']' :: rest) place
    rw [htext]
    exact ⟨after, .array (congrArg Cursor.rest hblanks) (by rw [hblanks]; exact hitems)⟩
  | .object members, h, rest, place => by
    rw [Textual] at h
    obtain ⟨after, hmembers⟩ := h.spells true rest (place.after '\x7b' ('\x7b').utf8Size)
    have htext : compactChars (.object members) ++ rest =
        '\x7b' :: (separated true (compactMembers members) ++ '\x7d' :: rest) := by
      simp [compactChars, separated]
    have hblanks := Cursor.skipBlanks_cons (c := '\x7b') rfl
      (separated true (compactMembers members) ++ '\x7d' :: rest) place
    rw [htext]
    exact ⟨after, .object (congrArg Cursor.rest hblanks) (by rw [hblanks]; exact hmembers)⟩

theorem TextualItems.spells : ∀ {items : List Json}, TextualItems items →
    ∀ (first : Bool) (rest : List Char) (place : Place), ∃ after, Cursor.SpellsItems
      ⟨separated first (compactItems items) ++ ']' :: rest, place⟩ first items ⟨rest, after⟩
  | [], _, first, rest, place => by
    rw [compactItems, separated_nil]
    exact ⟨_, .nil (Cursor.nextItem?_bracket _ _ _)⟩
  | item :: items, h, first, rest, place => by
    rw [TextualItems] at h
    obtain ⟨c, more, hwritten, hopening⟩ := h.1.opening
    obtain ⟨start, hfound⟩ := Cursor.nextItem?_opening hopening first
      (more ++ (separated false (compactItems items) ++ ']' :: rest)) place
    obtain ⟨mid, hitem⟩ := h.1.spells (separated false (compactItems items) ++ ']' :: rest) start
    obtain ⟨after, hitems⟩ := h.2.spells false rest mid
    rw [hwritten, List.cons_append] at hitem
    rw [compactItems, separated_cons, hwritten]
    simp only [List.append_assoc, List.cons_append]
    exact ⟨after, .cons hfound hitem hitems⟩

theorem TextualMembers.spells : ∀ {members : List (String × Json)}, TextualMembers members →
    ∀ (first : Bool) (rest : List Char) (place : Place), ∃ after, Cursor.SpellsMembers
      ⟨separated first (compactMembers members) ++ '\x7d' :: rest, place⟩ first members
      ⟨rest, after⟩
  | [], _, first, rest, place => by
    rw [compactMembers, separated_nil]
    exact ⟨_, .nil (Cursor.nextKey?_brace _ _ _)⟩
  | (name, v) :: members, h, first, rest, place => by
    rw [TextualMembers] at h
    -- a member is its key, the colon and its value, with the other members behind
    obtain ⟨key, hfound⟩ := Cursor.nextKey?_quote first
      (name.toList.flatMap escapeChar ++ '"' :: ':' ::
        (v.compactChars ++ (separated false (compactMembers members) ++ '\x7d' :: rest))) place
    obtain ⟨colon, hkeyed⟩ := Cursor.readString_stringChars name
      (':' :: (v.compactChars ++ (separated false (compactMembers members) ++ '\x7d' :: rest))) key
    have hmarked := Cursor.colon_colon
      (v.compactChars ++ (separated false (compactMembers members) ++ '\x7d' :: rest)) colon
    obtain ⟨mid, hvalue⟩ := h.1.spells (separated false (compactMembers members) ++ '\x7d' :: rest)
      (colon.after ':' (':').utf8Size)
    obtain ⟨after, hmembers⟩ := h.2.spells false rest mid
    rw [compactMembers, separated_cons, stringChars]
    simp only [List.append_assoc, List.cons_append, List.nil_append]
    exact ⟨after, .cons hfound hkeyed hmarked hvalue hmembers⟩

end

/-- A value reads back from its compact text. -/
theorem Textual.spells_compact {v : Json} (h : v.Textual) : Spells v.compact v := by
  obtain ⟨after, hspelled⟩ := h.spells [] .start
  refine ⟨⟨[], after⟩, ?_, rfl⟩
  simpa [Cursor.ofString, compact] using hspelled

/-- Values with one compact text are the same value. -/
theorem Textual.compact_inj {v w : Json} (hv : v.Textual) (hw : w.Textual)
    (h : v.compact = w.compact) : v = w :=
  hv.spells_compact.unique (h ▸ hw.spells_compact)

end Json

end SchemaNodes
