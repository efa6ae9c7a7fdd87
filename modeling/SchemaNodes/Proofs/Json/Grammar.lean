import SchemaNodes.Proofs.Json.Tokens

/-!
# What a text spells

`Cursor.Spells cur v behind` says that the text at `cur` begins with the value `v` and that `behind`
stands behind it. It is the reader of values without its two counters: the fuel, which no text
exhausts, and the depth, which bounds the nesting of what is read.

* **`spells_of_valueWith`**: what is read is spelled.
* **`Spells.value`**: what is spelled is read, if its nesting is within the depth.
* **`Spells.unique`**: a text spells at most one value, with one end.
* **`Spells.skipValue`**: what is spelled can be passed over, however deeply it is nested.
* **`Json.Spells`**: what a whole text spells.
-/

namespace SchemaNodes

namespace Json

mutual

/-- How many arrays and objects a value stands in at its deepest place. -/
def nesting : Json → Nat
  | .array items => nestingOfItems items + 1
  | .object members => nestingOfMembers members + 1
  | _ => 0

/-- The deepest nesting of the items. -/
def nestingOfItems : List Json → Nat
  | [] => 0
  | item :: rest => max (nesting item) (nestingOfItems rest)

/-- The deepest nesting of the members' values. -/
def nestingOfMembers : List (String × Json) → Nat
  | [] => 0
  | (_, value) :: rest => max (nesting value) (nestingOfMembers rest)

end

namespace Cursor

mutual

/-- The text at the first cursor begins with the value, and the second cursor stands behind it. -/
inductive Spells : Cursor → Json → Cursor → Prop
  | scalar {cur : Cursor} {v : Json} {behind : Cursor}
      (token : cur.skipBlanks.scalar = .ok (v, behind)) : Spells cur v behind
  | array {cur : Cursor} {rest : List Char} {items : List Json} {behind : Cursor}
      (bracket : cur.skipBlanks.rest = '[' :: rest)
      (spelled : SpellsItems cur.skipBlanks.next true items behind) :
      Spells cur (.array items) behind
  | object {cur : Cursor} {rest : List Char} {members : List (String × Json)} {behind : Cursor}
      (brace : cur.skipBlanks.rest = '\x7b' :: rest)
      (spelled : SpellsMembers cur.skipBlanks.next true members behind) :
      Spells cur (.object members) behind

/-- The text at the first cursor begins with what is left of an array, from its first item or from
behind an item on, and the second cursor stands behind the bracket. -/
inductive SpellsItems : Cursor → Bool → List Json → Cursor → Prop
  | nil {cur : Cursor} {first : Bool} {bracket : Cursor}
      (ends : cur.nextItem? first = .ok (false, bracket)) : SpellsItems cur first [] bracket.next
  | cons {cur : Cursor} {first : Bool} {item : Cursor} {v : Json} {mid : Cursor} {items : List Json}
      {behind : Cursor} (found : cur.nextItem? first = .ok (true, item)) (head : Spells item v mid)
      (tail : SpellsItems mid false items behind) : SpellsItems cur first (v :: items) behind

/-- The text at the first cursor begins with what is left of an object, from its first member or
from behind a member on, and the second cursor stands behind the brace. -/
inductive SpellsMembers : Cursor → Bool → List (String × Json) → Cursor → Prop
  | nil {cur : Cursor} {first : Bool} {brace : Cursor}
      (ends : cur.nextKey? first = .ok (false, brace)) : SpellsMembers cur first [] brace.next
  | cons {cur : Cursor} {first : Bool} {key colon value mid behind : Cursor} {name : String}
      {v : Json} {members : List (String × Json)}
      (found : cur.nextKey? first = .ok (true, key)) (keyed : key.readString = .ok (name, colon))
      (marked : colon.colon = .ok value) (head : Spells value v mid)
      (tail : SpellsMembers mid false members behind) :
      SpellsMembers cur first ((name, v) :: members) behind

end

variable {cur behind : Cursor}

/-! ## What is read is spelled -/

mutual

theorem spells_of_valueWith : ∀ {fuel depth : Nat} {cur : Cursor} {v : Json} {behind : Cursor},
    valueWith fuel depth cur = .ok (v, behind) → Spells cur v behind
  | 0, _, _, _, _, h => by simp [valueWith, peekError] at h
  | fuel + 1, depth, cur, v, behind, h => by
    rw [valueWith] at h
    simp only at h
    split at h
    · next rest hbracket =>
      split at h
      · simp [peekError] at h
      · obtain ⟨⟨items, after⟩, hread, hpure⟩ := bind_eq_ok_iff.1 h
        obtain ⟨rfl, rfl⟩ : .array items = v ∧ after = behind := by
          simpa [pure, Except.pure] using hpure
        obtain ⟨items', heq, hspelled⟩ := spells_of_itemsWith hread
        obtain rfl : items = items' := by simpa using heq
        exact .array hbracket hspelled
    · next rest hbrace =>
      split at h
      · simp [peekError] at h
      · obtain ⟨⟨members, after⟩, hread, hpure⟩ := bind_eq_ok_iff.1 h
        obtain ⟨rfl, rfl⟩ : .object members = v ∧ after = behind := by
          simpa [pure, Except.pure] using hpure
        obtain ⟨members', heq, hspelled⟩ := spells_of_membersWith hread
        obtain rfl : members = members' := by simpa using heq
        exact .object hbrace hspelled
    · exact .scalar h

/-- The items come behind those that were read before. -/
theorem spells_of_itemsWith : ∀ {fuel depth : Nat} {cur : Cursor} {first : Bool}
    {acc all : List Json} {behind : Cursor},
    itemsWith fuel depth cur first acc = .ok (all, behind) →
    ∃ items, all = acc.reverse ++ items ∧ SpellsItems cur first items behind
  | 0, _, _, _, _, _, _, h => by simp [itemsWith, peekError] at h
  | fuel + 1, depth, cur, first, acc, all, behind, h => by
    rw [itemsWith] at h
    obtain ⟨⟨more, item⟩, hfound, h⟩ := bind_eq_ok_iff.1 h
    cases more with
    | false =>
      obtain ⟨rfl, rfl⟩ : acc.reverse = all ∧ item.next = behind := by
        simpa [pure, Except.pure] using h
      exact ⟨[], by simp, .nil hfound⟩
    | true =>
      obtain ⟨⟨v, mid⟩, hread, h⟩ := bind_eq_ok_iff.1 h
      obtain ⟨items, rfl, hspelled⟩ := spells_of_itemsWith h
      exact ⟨v :: items, by simp, .cons hfound (spells_of_valueWith hread) hspelled⟩

/-- The members come behind those that were read before. -/
theorem spells_of_membersWith : ∀ {fuel depth : Nat} {cur : Cursor} {first : Bool}
    {acc all : List (String × Json)} {behind : Cursor},
    membersWith fuel depth cur first acc = .ok (all, behind) →
    ∃ members, all = acc.reverse ++ members ∧ SpellsMembers cur first members behind
  | 0, _, _, _, _, _, _, h => by simp [membersWith, peekError] at h
  | fuel + 1, depth, cur, first, acc, all, behind, h => by
    rw [membersWith] at h
    obtain ⟨⟨more, key⟩, hfound, h⟩ := bind_eq_ok_iff.1 h
    cases more with
    | false =>
      obtain ⟨rfl, rfl⟩ : acc.reverse = all ∧ key.next = behind := by
        simpa [pure, Except.pure] using h
      exact ⟨[], by simp, .nil hfound⟩
    | true =>
      obtain ⟨⟨name, colon⟩, hkeyed, h⟩ := bind_eq_ok_iff.1 h
      obtain ⟨value, hmarked, h⟩ := bind_eq_ok_iff.1 h
      obtain ⟨⟨v, mid⟩, hread, h⟩ := bind_eq_ok_iff.1 h
      obtain ⟨members, rfl, hspelled⟩ := spells_of_membersWith h
      exact ⟨(name, v) :: members, by simp,
        .cons hfound hkeyed hmarked (spells_of_valueWith hread) hspelled⟩

end

/-! ## What is spelled takes some of the text -/

mutual

theorem Spells.length_lt {v : Json} : ∀ {cur behind : Cursor}, Spells cur v behind →
    behind.rest.length < cur.rest.length
  | cur, _, .scalar token =>
    Nat.lt_of_lt_of_le (length_scalar_lt token) (length_skipBlanks_le cur)
  | cur, _, .array _ spelled => by
    have hlt := spelled.length_lt
    have hnext := length_next_le cur.skipBlanks
    have hblanks := length_skipBlanks_le cur
    omega
  | cur, _, .object _ spelled => by
    have hlt := spelled.length_lt
    have hnext := length_next_le cur.skipBlanks
    have hblanks := length_skipBlanks_le cur
    omega

theorem SpellsItems.length_lt {items : List Json} : ∀ {cur : Cursor} {first : Bool}
    {behind : Cursor}, SpellsItems cur first items behind → behind.rest.length < cur.rest.length
  | _, _, _, .nil ends => length_next_of_nextItem?_end ends
  | _, _, _, .cons found head tail => by
    have hfound := length_nextItem?_le found
    have hhead := head.length_lt
    have htail := tail.length_lt
    omega

theorem SpellsMembers.length_lt {members : List (String × Json)} : ∀ {cur : Cursor} {first : Bool}
    {behind : Cursor}, SpellsMembers cur first members behind →
    behind.rest.length < cur.rest.length
  | _, _, _, .nil ends => length_next_of_nextKey?_end ends
  | _, _, _, .cons found keyed marked head tail => by
    have hfound := length_nextKey?_le found
    have hkeyed := length_readString_lt keyed
    have hmarked := length_colon_le marked
    have hhead := head.length_lt
    have htail := tail.length_lt
    omega

end

/-- Every member takes some of the text. -/
theorem SpellsMembers.length_members_lt {members : List (String × Json)} : ∀ {cur : Cursor}
    {first : Bool} {behind : Cursor}, SpellsMembers cur first members behind →
    members.length < cur.rest.length
  | _, _, _, .nil ends => Nat.lt_of_le_of_lt (Nat.zero_le _) (length_next_of_nextKey?_end ends)
  | _, _, _, .cons found keyed marked head tail => by
    have hfound := length_nextKey?_le found
    have hkeyed := length_readString_lt keyed
    have hmarked := length_colon_le marked
    have hhead := head.length_lt
    have htail := tail.length_members_lt
    rw [List.length_cons]
    omega

/-- The fuel at the brace of an object is enough for its members. -/
theorem SpellsMembers.length_members_lt_fuel {members : List (String × Json)} {first : Bool}
    (h : SpellsMembers cur.next first members behind) : members.length < cur.fuel := by
  have hlt := h.length_members_lt
  have hnext := length_next_le cur
  rw [fuel]
  omega

/-! ## What is spelled is read

Of `n` characters a value takes at most `2 * n - 1` units of fuel: an item costs one for the step
along the array and what the item itself takes, and it takes at least one character. -/

mutual

theorem Spells.valueWith {v : Json} : ∀ {cur behind : Cursor}, Spells cur v behind →
    ∀ (fuel depth : Nat), v.nesting < depth →
      2 * cur.rest.length ≤ fuel + 1 + 2 * behind.rest.length →
      valueWith fuel depth cur = .ok (v, behind)
  | cur, behind, .scalar token, fuel, depth, _, hfuel => by
    have hlt := (Spells.scalar token).length_lt
    obtain ⟨fuel, rfl⟩ : ∃ n, fuel = n + 1 := ⟨fuel - 1, by omega⟩
    rw [Cursor.valueWith]
    simp only
    split
    · next more hbracket => exact absurd hbracket (scalar_ne_bracket token more).1
    · next more hbrace => exact absurd hbrace (scalar_ne_bracket token more).2
    · exact token
  | cur, behind, .array bracket spelled, fuel, depth, hdepth, hfuel => by
    have hlt := spelled.length_lt
    have hnext := length_next_of_rest bracket
    have hblanks := length_skipBlanks_le cur
    obtain ⟨fuel, rfl⟩ : ∃ n, fuel = n + 1 := ⟨fuel - 1, by omega⟩
    rw [nesting] at hdepth
    have hitems := spelled.itemsWith fuel (depth - 1) [] (by omega) (by omega)
    rw [Cursor.valueWith]
    simp only [bracket, if_neg (show ¬ depth ≤ 1 by omega), hitems]
    rfl
  | cur, behind, .object brace spelled, fuel, depth, hdepth, hfuel => by
    have hlt := spelled.length_lt
    have hnext := length_next_of_rest brace
    have hblanks := length_skipBlanks_le cur
    obtain ⟨fuel, rfl⟩ : ∃ n, fuel = n + 1 := ⟨fuel - 1, by omega⟩
    rw [nesting] at hdepth
    have hmembers := spelled.membersWith fuel (depth - 1) [] (by omega) (by omega)
    rw [Cursor.valueWith]
    simp only [brace, if_neg (show ¬ depth ≤ 1 by omega), hmembers]
    rfl

theorem SpellsItems.itemsWith {items : List Json} : ∀ {cur : Cursor} {first : Bool}
    {behind : Cursor}, SpellsItems cur first items behind →
    ∀ (fuel depth : Nat) (acc : List Json), nestingOfItems items < depth →
      2 * cur.rest.length ≤ fuel + 1 + 2 * behind.rest.length →
      itemsWith fuel depth cur first acc = .ok (acc.reverse ++ items, behind)
  | cur, first, _, .nil ends, fuel, depth, acc, _, hfuel => by
    have hlt := length_next_of_nextItem?_end ends
    obtain ⟨fuel, rfl⟩ : ∃ n, fuel = n + 1 := ⟨fuel - 1, by omega⟩
    rw [Cursor.itemsWith, ends]
    simp [bind, Except.bind, pure, Except.pure]
  | cur, first, behind, .cons found head tail, fuel, depth, acc, hdepth, hfuel => by
    have hfound := length_nextItem?_le found
    have hhead := head.length_lt
    have htail := tail.length_lt
    obtain ⟨fuel, rfl⟩ : ∃ n, fuel = n + 1 := ⟨fuel - 1, by omega⟩
    rw [nestingOfItems] at hdepth
    have hitem := head.valueWith fuel depth (by omega) (by omega)
    have hrest := fun acc => tail.itemsWith fuel depth acc (by omega) (by omega)
    rw [Cursor.itemsWith, found]
    simp only [bind, Except.bind, if_true, hitem, hrest]
    simp

theorem SpellsMembers.membersWith {members : List (String × Json)} : ∀ {cur : Cursor}
    {first : Bool} {behind : Cursor}, SpellsMembers cur first members behind →
    ∀ (fuel depth : Nat) (acc : List (String × Json)), nestingOfMembers members < depth →
      2 * cur.rest.length ≤ fuel + 1 + 2 * behind.rest.length →
      membersWith fuel depth cur first acc = .ok (acc.reverse ++ members, behind)
  | cur, first, _, .nil ends, fuel, depth, acc, _, hfuel => by
    have hlt := length_next_of_nextKey?_end ends
    obtain ⟨fuel, rfl⟩ : ∃ n, fuel = n + 1 := ⟨fuel - 1, by omega⟩
    rw [Cursor.membersWith, ends]
    simp [bind, Except.bind, pure, Except.pure]
  | cur, first, behind, .cons found keyed marked head tail, fuel, depth, acc, hdepth, hfuel => by
    have hfound := length_nextKey?_le found
    have hkeyed := length_readString_lt keyed
    have hmarked := length_colon_le marked
    have hhead := head.length_lt
    have htail := tail.length_lt
    obtain ⟨fuel, rfl⟩ : ∃ n, fuel = n + 1 := ⟨fuel - 1, by omega⟩
    rw [nestingOfMembers] at hdepth
    have hvalue := head.valueWith fuel depth (by omega) (by omega)
    have hrest := fun acc => tail.membersWith fuel depth acc (by omega) (by omega)
    rw [Cursor.membersWith, found]
    simp only [bind, Except.bind, if_true, keyed, marked, hvalue, hrest]
    simp

end

/-- What is spelled is read, if its nesting is within the depth. -/
theorem Spells.value {v : Json} (h : Spells cur v behind) (depth : Nat)
    (hdepth : v.nesting < depth) : cur.value depth = .ok (v, behind) := by
  refine h.valueWith _ depth hdepth ?_
  rw [fuel]
  omega

/-- A text spells at most one value, with one end. -/
theorem Spells.unique {v w : Json} {after : Cursor} (h : Spells cur v behind)
    (h' : Spells cur w after) : v = w ∧ behind = after := by
  have hread := h.value (max v.nesting w.nesting + 1) (by omega)
  have hread' := h'.value (max v.nesting w.nesting + 1) (by omega)
  simpa using hread.symm.trans hread'

/-! ## What is spelled can be passed over -/

theorem skipValueWith_skipBlanks (fuel : Nat) (cur : Cursor) :
    skipValueWith (fuel + 1) cur.skipBlanks = skipValueWith (fuel + 1) cur := by
  rw [skipValueWith, skipValueWith, skipBlanks_idem]

/-- Where an item of an array is found, the skipper passes over a value and goes on. -/
theorem skipItemsWith_of_found {first : Bool} {item mid : Cursor} {fuel : Nat}
    (found : cur.nextItem? first = .ok (true, item))
    (skipped : skipValueWith (fuel + 1) item = .ok mid) :
    skipItemsWith (fuel + 2) cur first = skipItemsWith (fuel + 1) mid false := by
  cases first with
  | true =>
    obtain ⟨rfl, c, more, hrest, hbracket⟩ := nextItem?_first found
    rw [skipItemsWith]
    simp [hrest, skipped, bind, Except.bind]
  | false =>
    -- the reader passes the blanks behind the comma, the skipper leaves them to the value
    obtain ⟨rfl, more, hrest⟩ := nextItem?_later found
    rw [skipValueWith_skipBlanks] at skipped
    rw [skipItemsWith]
    simp [hrest, skipped, bind, Except.bind]

/-- Where a member of an object is found, the skipper passes over a key and a value and goes on. -/
theorem skipMembersWith_of_found {first : Bool} {key colon value mid : Cursor} {fuel : Nat}
    (found : cur.nextKey? first = .ok (true, key)) (passed : key.skipString = .ok colon)
    (marked : colon.colon = .ok value) (skipped : skipValueWith (fuel + 1) value = .ok mid) :
    skipMembersWith (fuel + 3) cur first = skipMembersWith (fuel + 1) mid false := by
  cases first with
  | true =>
    obtain ⟨rfl, more, hrest⟩ := nextKey?_first found
    rw [skipMembersWith]
    simp [hrest, skipMemberWith, passed, marked, skipped, bind, Except.bind]
  | false =>
    obtain ⟨rfl, ⟨more, hcomma⟩, more', hrest⟩ := nextKey?_later found
    rw [skipMembersWith]
    simp [hcomma, hrest, skipMemberWith, passed, marked, skipped, bind, Except.bind]

theorem skip_of_scalar {v : Json} {fuel : Nat} (token : cur.skipBlanks.scalar = .ok (v, behind)) :
    skipValueWith (fuel + 1) cur = .ok behind := by
  rw [skipValueWith]
  rcases scalar_cases token with ⟨c, more, letters, hrest, hmem, hword⟩ |
    ⟨more, text, hrest, -, hstring⟩ | ⟨c, more, n, hrest, hnumeric, -, hnumber⟩
  · simp only [words, List.mem_cons, Prod.mk.injEq, List.not_mem_nil, or_false] at hmem
    rcases hmem with ⟨rfl, rfl, -⟩ | ⟨rfl, rfl, -⟩ | ⟨rfl, rfl, -⟩ <;>
      simpa only [hrest] using hword
  · simpa only [hrest] using skipString_of_readString hstring
  · have hskip := skipNumber_of_readNumber hnumber
    have hnot : c ≠ '[' ∧ c ≠ '\x7b' ∧ c ≠ '"' ∧ c ≠ 'n' ∧ c ≠ 't' ∧ c ≠ 'f' := by
      refine ⟨?_, ?_, ?_, ?_, ?_, ?_⟩ <;> rintro rfl <;> simp [isDigit] at hnumeric
    simp [hrest, hnot, hnumeric, hskip]

mutual

theorem Spells.skipValueWith {v : Json} : ∀ {cur behind : Cursor}, Spells cur v behind →
    ∀ (fuel : Nat), 2 * cur.rest.length ≤ fuel + 1 + 2 * behind.rest.length →
      skipValueWith fuel cur = .ok behind
  | cur, behind, .scalar token, fuel, hfuel => by
    have hlt := (Spells.scalar token).length_lt
    obtain ⟨fuel, rfl⟩ : ∃ n, fuel = n + 1 := ⟨fuel - 1, by omega⟩
    exact skip_of_scalar token
  | cur, behind, .array bracket spelled, fuel, hfuel => by
    have hlt := spelled.length_lt
    have hnext := length_next_of_rest bracket
    have hblanks := length_skipBlanks_le cur
    obtain ⟨fuel, rfl⟩ : ∃ n, fuel = n + 1 := ⟨fuel - 1, by omega⟩
    have hitems := spelled.skipItemsWith fuel (by omega)
    rw [Cursor.skipValueWith]
    simp only [bracket, hitems]
  | cur, behind, .object brace spelled, fuel, hfuel => by
    have hlt := spelled.length_lt
    have hnext := length_next_of_rest brace
    have hblanks := length_skipBlanks_le cur
    obtain ⟨fuel, rfl⟩ : ∃ n, fuel = n + 1 := ⟨fuel - 1, by omega⟩
    have hmembers := spelled.skipMembersWith fuel (by omega)
    rw [Cursor.skipValueWith]
    simp only [brace, hmembers]

theorem SpellsItems.skipItemsWith {items : List Json} : ∀ {cur : Cursor} {first : Bool}
    {behind : Cursor}, SpellsItems cur first items behind →
    ∀ (fuel : Nat), 2 * cur.rest.length ≤ fuel + 1 + 2 * behind.rest.length →
      skipItemsWith fuel cur first = .ok behind
  | cur, first, _, .nil ends, fuel, hfuel => by
    have hlt := length_next_of_nextItem?_end ends
    obtain ⟨rfl, more, hrest⟩ := nextItem?_end ends
    obtain ⟨fuel, rfl⟩ : ∃ n, fuel = n + 1 := ⟨fuel - 1, by omega⟩
    rw [Cursor.skipItemsWith]
    simp only [hrest]
  | cur, first, behind, .cons found head tail, fuel, hfuel => by
    have hfound := length_nextItem?_le found
    have hhead := head.length_lt
    have htail := tail.length_lt
    obtain ⟨fuel, rfl⟩ : ∃ n, fuel = n + 2 := ⟨fuel - 2, by omega⟩
    have hitem := head.skipValueWith (fuel + 1) (by omega)
    rw [skipItemsWith_of_found found hitem]
    exact tail.skipItemsWith (fuel + 1) (by omega)

theorem SpellsMembers.skipMembersWith {members : List (String × Json)} : ∀ {cur : Cursor}
    {first : Bool} {behind : Cursor}, SpellsMembers cur first members behind →
    ∀ (fuel : Nat), 2 * cur.rest.length ≤ fuel + 1 + 2 * behind.rest.length →
      skipMembersWith fuel cur first = .ok behind
  | cur, first, _, .nil ends, fuel, hfuel => by
    have hlt := length_next_of_nextKey?_end ends
    obtain ⟨rfl, more, hrest⟩ := nextKey?_end ends
    obtain ⟨fuel, rfl⟩ : ∃ n, fuel = n + 1 := ⟨fuel - 1, by omega⟩
    rw [Cursor.skipMembersWith]
    simp only [hrest]
  | cur, first, behind, .cons found keyed marked head tail, fuel, hfuel => by
    have hfound := length_nextKey?_le found
    have hkeyed := length_readString_lt keyed
    have hmarked := length_colon_le marked
    have hhead := head.length_lt
    have htail := tail.length_lt
    obtain ⟨fuel, rfl⟩ : ∃ n, fuel = n + 3 := ⟨fuel - 3, by omega⟩
    have hvalue := head.skipValueWith (fuel + 1) (by omega)
    rw [skipMembersWith_of_found found (skipString_of_readString keyed) marked hvalue]
    exact tail.skipMembersWith (fuel + 1) (by omega)

end

/-- What is spelled can be passed over, however deeply it is nested. -/
theorem Spells.skipValue {v : Json} (h : Spells cur v behind) : cur.skipValue = .ok behind := by
  refine h.skipValueWith _ ?_
  rw [fuel]
  omega

end Cursor

/-! ## Whole texts -/

/-- The text is the value, with nothing but blanks around it. -/
def Spells (text : String) (v : Json) : Prop :=
  ∃ behind, Cursor.Spells (.ofString text) v behind ∧ behind.finish = .ok ()

variable {text : String} {v w : Json}

theorem spells_of_readWith {depth : Nat} (h : readWith depth text = .ok v) : Spells text v := by
  obtain ⟨⟨value, behind⟩, hvalue, h⟩ := bind_eq_ok_iff.1 h
  obtain ⟨⟨⟩, hfinish, h⟩ := bind_eq_ok_iff.1 h
  obtain rfl : value = v := by simpa [pure, Except.pure] using h
  exact ⟨behind, Cursor.spells_of_valueWith hvalue, hfinish⟩

theorem Spells.readWith (h : Spells text v) (depth : Nat) (hdepth : v.nesting < depth) :
    readWith depth text = .ok v := by
  obtain ⟨behind, hspelled, hfinish⟩ := h
  rw [Json.readWith, hspelled.value depth hdepth]
  simp [hfinish, bind, Except.bind, pure, Except.pure]

theorem Spells.unique (h : Spells text v) (h' : Spells text w) : v = w := by
  obtain ⟨_, hspelled, -⟩ := h
  obtain ⟨_, hspelled', -⟩ := h'
  exact (hspelled.unique hspelled').1

end Json

end SchemaNodes
