import SchemaNodes.Json.Reader
import SchemaNodes.Proofs.Chain

/-!
# How far the readers of tokens go

A cursor only moves forward. Two facts about each token are all that the grammar of values needs:
how much of the text it takes, and that what can be read can be skipped, to the same place.

* **`skipBlanks_idem`**: blanks are skipped once and for all.
* **`length_skipString_lt`**, **`length_skipNumber_lt`**, **`length_scalar_lt`**: a token takes some
  of the text.
* **`skipString_of_readString`**, **`skipNumber_of_readNumber`**: skipping demands less than
  reading, and where both succeed they end at the same place.
-/

namespace SchemaNodes.Json.Cursor

variable {cur behind : Cursor}

/-! ## Moving over characters -/

theorem next_rest (cur : Cursor) : cur.next.rest = cur.rest.tail := by
  obtain ⟨rest, place⟩ := cur
  cases rest <;> rfl

theorem skipWhile_rest (p : Char → Bool) (rest : List Char) (place : Place) :
    (skipWhile p rest place).rest = rest.dropWhile p := by
  induction rest generalizing place with
  | nil => rfl
  | cons c more ih =>
    rw [skipWhile, List.dropWhile_cons]
    split
    · exact ih _
    · rfl

theorem skipWhile_skipWhile (p : Char → Bool) (rest : List Char) (place : Place) :
    skipWhile p (skipWhile p rest place).rest (skipWhile p rest place).place =
      skipWhile p rest place := by
  induction rest generalizing place with
  | nil => rfl
  | cons c more ih =>
    by_cases hc : p c = true
    · rw [skipWhile, if_pos hc]
      exact ih _
    · rw [skipWhile, if_neg hc, skipWhile, if_neg hc]

theorem skipBlanks_rest (cur : Cursor) :
    cur.skipBlanks.rest = cur.rest.dropWhile isBlank := skipWhile_rest _ _ _

/-- Blanks are skipped once and for all. -/
@[simp] theorem skipBlanks_idem (cur : Cursor) : cur.skipBlanks.skipBlanks = cur.skipBlanks :=
  skipWhile_skipWhile _ _ _

theorem length_skipBlanks_le (cur : Cursor) : cur.skipBlanks.rest.length ≤ cur.rest.length := by
  rw [skipBlanks_rest]
  exact (List.dropWhile_suffix _).length_le

/-- A text that begins with a character is longer than what lies behind it. -/
theorem length_next_of_rest {c : Char} {more : List Char} (h : cur.rest = c :: more) :
    cur.next.rest.length + 1 = cur.rest.length := by
  rw [next_rest, h]
  rfl

theorem length_next_le (cur : Cursor) : cur.next.rest.length ≤ cur.rest.length := by
  rw [next_rest, List.length_tail]
  omega

theorem length_digits_lt {c : Char} {more : List Char} (h : cur.rest = c :: more)
    (hc : isDigit c = true) : cur.digits.2.rest.length < cur.rest.length := by
  have hle := (List.dropWhile_suffix (l := more) isDigit).length_le
  rw [digits, skipWhile_rest, h, List.dropWhile_cons, if_pos hc, List.length_cons]
  omega

theorem length_digits_le (cur : Cursor) : cur.digits.2.rest.length ≤ cur.rest.length := by
  rw [digits, skipWhile_rest]
  exact (List.dropWhile_suffix _).length_le

theorem length_word_le {expected : List Char} (h : word cur expected = .ok behind) :
    behind.rest.length ≤ cur.rest.length := by
  induction expected generalizing cur with
  | nil =>
    obtain rfl : cur = behind := by simpa [word] using h
    exact Nat.le_refl _
  | cons c more ih =>
    cases hrest : cur.rest with
    | nil => simp [word, hrest, error] at h
    | cons first rest =>
      have hnext := length_next_of_rest hrest
      rw [word, hrest] at h
      simp only at h
      split at h
      · have := ih h
        rw [← hrest]
        omega
      · simp at h

/-! ## Strings -/

theorem length_hexEscape_lt {code : Nat} (h : cur.hexEscape = .ok (code, behind)) :
    behind.rest.length < cur.rest.length := by
  unfold hexEscape at h
  split at h
  · next a b c d more hrest =>
    split at h
    · obtain ⟨-, rfl⟩ : _ ∧ cur.next.next.next.next = behind := by simpa using h
      simp only [next_rest, hrest, List.tail_cons, List.length_cons]
      omega
    · split at h <;> simp [error] at h
  · split at h <;> simp [error] at h

theorem length_skipEscape_lt (h : cur.skipEscape = .ok behind) :
    behind.rest.length < cur.rest.length := by
  unfold skipEscape at h
  split at h
  · simp [error] at h
  · next more hrest =>
    cases hcode : cur.next.hexEscape with
    | error e => simp [hcode, Functor.map, Except.map] at h
    | ok read =>
      obtain rfl : read.2 = behind := by simpa [hcode, Functor.map, Except.map] using h
      have hlt := length_hexEscape_lt hcode
      have hnext := length_next_of_rest hrest
      omega
  · next c more _ hrest =>
    have hnext := length_next_of_rest hrest
    split at h
    · obtain rfl : cur.next = behind := by simpa using h
      omega
    · simp at h

theorem length_skipStringBody_lt {fuel : Nat} (h : skipStringBody fuel cur = .ok behind) :
    behind.rest.length < cur.rest.length := by
  induction fuel generalizing cur with
  | zero => simp [skipStringBody, error] at h
  | succ fuel ih =>
    rw [skipStringBody] at h
    split at h
    · simp [error] at h
    · next more hrest =>
      obtain rfl : cur.next = behind := by simpa using h
      have hnext := length_next_of_rest hrest
      omega
    · next more hrest =>
      obtain ⟨after, hescape, hbody⟩ := bind_eq_ok_iff.1 h
      have hnext := length_next_of_rest hrest
      have hlt := length_skipEscape_lt hescape
      have := ih hbody
      omega
    · next c more _ _ hrest =>
      have hnext := length_next_of_rest hrest
      split at h
      · simp [error] at h
      · have := ih h
        omega

theorem length_skipString_lt (h : cur.skipString = .ok behind) :
    behind.rest.length < cur.rest.length := length_skipStringBody_lt h

theorem skipEscape_of_hexEscape {code : Nat} {more : List Char} (hrest : cur.rest = 'u' :: more)
    (h : cur.next.hexEscape = .ok (code, behind)) : cur.skipEscape = .ok behind := by
  simp [skipEscape, hrest, h, Functor.map, Except.map]

/-- The second half of a surrogate pair is an escape of its own for the skipper. -/
theorem skipEscape_of_secondSurrogate {first : Nat} {c : Char}
    (h : secondSurrogate first cur = .ok (c, behind)) :
    ∃ more, cur.rest = '\\' :: more ∧ cur.next.skipEscape = .ok behind := by
  unfold secondSurrogate at h
  split at h
  · simp [error] at h
  · next more hrest =>
    simp only at h
    split at h
    · simp [error] at h
    · next tail hu =>
      obtain ⟨⟨second, after⟩, hsecond, hpair⟩ := bind_eq_ok_iff.1 h
      simp only at hpair
      split at hpair
      · simp [error] at hpair
      · obtain ⟨-, rfl⟩ : _ ∧ after = behind := by simpa using hpair
        exact ⟨more, hrest, skipEscape_of_hexEscape hu hsecond⟩
    · simp at h
  · simp at h

/-- An escape that can be read is one escape for the skipper, and a surrogate pair is two. -/
theorem skipEscape_of_escape {c : Char} (h : cur.escape = .ok (c, behind)) :
    cur.skipEscape = .ok behind ∨
      ∃ mid more, cur.skipEscape = .ok mid ∧ mid.rest = '\\' :: more ∧
        mid.next.skipEscape = .ok behind := by
  unfold escape at h
  split at h
  · simp [error] at h
  · next more hrest =>
    obtain ⟨⟨code, mid⟩, hcode, hchoice⟩ := bind_eq_ok_iff.1 h
    have hskip := skipEscape_of_hexEscape hrest hcode
    simp only at hchoice
    split at hchoice
    · simp [error] at hchoice
    · split at hchoice
      · obtain ⟨tail, hmid, hsecond⟩ := skipEscape_of_secondSurrogate hchoice
        exact .inr ⟨mid, tail, hskip, hmid, hsecond⟩
      · obtain ⟨-, rfl⟩ : _ ∧ mid = behind := by simpa using hchoice
        exact .inl hskip
  · next first more hnotu hrest =>
    split at h
    · next value hshort =>
      obtain ⟨-, rfl⟩ : _ ∧ cur.next = behind := by simpa using h
      exact .inl (by simp [skipEscape, hrest, hshort])
    · simp at h

theorem skipStringBody_escape {more : List Char} {mid : Cursor} (hrest : cur.rest = '\\' :: more)
    (h : cur.next.skipEscape = .ok mid) (fuel : Nat) :
    skipStringBody (fuel + 1) cur = skipStringBody fuel mid := by
  rw [skipStringBody, hrest]
  simp only [h]
  rfl

theorem skipStringBody_of_stringBody {fuel : Nat} {acc : List Char} {text : String}
    (h : stringBody fuel cur acc = .ok (text, behind)) {fuel' : Nat}
    (hfuel : cur.rest.length < fuel') : skipStringBody fuel' cur = .ok behind := by
  induction fuel generalizing cur acc fuel' with
  | zero => simp [stringBody, error] at h
  | succ fuel ih =>
    obtain ⟨fuel', rfl⟩ : ∃ n, fuel' = n + 1 := ⟨fuel' - 1, by omega⟩
    rw [stringBody] at h
    split at h
    · simp [error] at h
    · next more hrest =>
      obtain ⟨-, rfl⟩ : _ ∧ cur.next = behind := by simpa using h
      simp [skipStringBody, hrest]
    · next more hrest =>
      obtain ⟨⟨c, after⟩, hescape, hbody⟩ := bind_eq_ok_iff.1 h
      have hnext := length_next_of_rest hrest
      rcases skipEscape_of_escape hescape with hone | ⟨mid, tail, hone, hmid, htwo⟩
      · have hlt := length_skipEscape_lt hone
        rw [skipStringBody_escape hrest hone]
        exact ih hbody (by omega)
      · have hlt := length_skipEscape_lt hone
        have hlt' := length_skipEscape_lt htwo
        have hnext' := length_next_of_rest hmid
        obtain ⟨fuel'', rfl⟩ : ∃ n, fuel' = n + 1 := ⟨fuel' - 1, by omega⟩
        rw [skipStringBody_escape hrest hone, skipStringBody_escape hmid htwo]
        exact ih hbody (by omega)
    · next c more hquote hslash hrest =>
      have hnext := length_next_of_rest hrest
      split at h
      · simp [error] at h
      · next hcontrol =>
        have hbody : skipStringBody fuel' cur.next = .ok behind := ih h (by omega)
        simpa [skipStringBody, hrest, hquote, hslash, hcontrol] using hbody

theorem skipString_of_readString {text : String} (h : cur.readString = .ok (text, behind)) :
    cur.skipString = .ok behind := skipStringBody_of_stringBody h (Nat.lt_succ_self _)

theorem length_readString_lt {text : String} (h : cur.readString = .ok (text, behind)) :
    behind.rest.length < cur.rest.length := length_skipString_lt (skipString_of_readString h)

/-! ## Numbers

The skipper takes the digits, the point and the exponent where the reader takes them; it never asks
whether the number is in range. -/

theorem inRange_behind {n n' : JsonNumber} {after : Cursor}
    (h : inRange n after = .ok (n', behind)) : after = behind := by
  unfold inRange at h
  split at h
  · simp [error] at h
  · exact (by simpa using h : _ ∧ after = behind).2

theorem skipExponent_of_readExponent {negative : Bool} {whole fraction : List Char} {n : JsonNumber}
    (h : readExponent negative whole fraction cur = .ok (n, behind)) :
    cur.skipExponent = .ok behind := by
  unfold readExponent at h
  split at h
  next down signless hsign =>
  have hdigits : ∃ c more, signless.rest = c :: more ∧ isDigit c = true ∧
      signless.digits.2 = behind := by
    split at h
    · simp [error] at h
    · next c more hrest =>
      split at h
      · simp at h
      · next hdigit =>
        refine ⟨c, more, hrest, by simpa using hdigit, ?_⟩
        simp only at h
        split at h
        · split at h
          · exact (by simpa using h : _ ∧ signless.digits.2 = behind).2
          · simp at h
        · exact inRange_behind h
  obtain ⟨c, more, hrest, hdigit, rfl⟩ := hdigits
  unfold skipExponent
  -- both pass over the sign, if there is one
  split at hsign <;> obtain ⟨-, rfl⟩ : _ ∧ _ = signless := by simpa using hsign
  all_goals simp [hrest, hdigit]

theorem length_skipExponent_le (h : cur.skipExponent = .ok behind) :
    behind.rest.length ≤ cur.rest.length := by
  have hnext := length_next_le cur
  have hdigits := length_digits_le cur
  have hdigits' := length_digits_le cur.next
  unfold skipExponent at h
  split at h
  all_goals
    simp only at h
    split at h
    · split at h
      · obtain rfl := Except.ok.inj h
        omega
      · simp at h
    · simp [error] at h

theorem skipFraction_of_readFraction {negative : Bool} {whole : List Char} {n : JsonNumber}
    (h : readFraction negative whole cur = .ok (n, behind)) : cur.skipFraction = .ok behind := by
  unfold readFraction at h
  unfold skipFraction
  split at h
  · next more hrest =>
    simp only at h ⊢
    split at h
    · split at h <;> simp [peekError] at h
    · next hdigits =>
      simp only [hdigits]
      split at h
      · next more' he => simpa [he] using skipExponent_of_readExponent h
      · next more' he => simpa [he] using skipExponent_of_readExponent h
      · next hend =>
        obtain rfl := inRange_behind h
        simp
  · next more hrest => simpa [hrest] using skipExponent_of_readExponent h
  · next more hrest => simpa [hrest] using skipExponent_of_readExponent h
  · next hend =>
    obtain rfl := inRange_behind h
    simp

theorem length_skipFraction_le (h : cur.skipFraction = .ok behind) :
    behind.rest.length ≤ cur.rest.length := by
  unfold skipFraction at h
  split at h
  · have hdigits := length_digits_le cur.next
    have hnext := length_next_le cur
    simp only at h
    split at h
    · simp [peekError] at h
    · split at h
      · have hle := length_skipExponent_le h
        have hletter := length_next_le cur.next.digits.2
        omega
      · have hle := length_skipExponent_le h
        have hletter := length_next_le cur.next.digits.2
        omega
      · obtain rfl : cur.next.digits.2 = behind := by simpa using h
        omega
  · exact Nat.le_trans (length_skipExponent_le h) (length_next_le cur)
  · exact Nat.le_trans (length_skipExponent_le h) (length_next_le cur)
  · obtain rfl : cur = behind := by simpa using h
    exact Nat.le_refl _

/-- What `skipNumber` does behind the sign, as `readUnsigned` is what `readNumber` does there. -/
def skipUnsigned (cur : Cursor) : Except ReadError Cursor :=
  match cur.rest with
  | [] => cur.error .invalidNumber
  | '0' :: _ =>
    match cur.next.rest with
    | c :: _ =>
      if isDigit c then cur.next.peekError .invalidNumber else skipFraction cur.next
    | [] => skipFraction cur.next
  | c :: _ =>
    if isDigit c then skipFraction cur.digits.2
    else .error ⟨.invalidNumber, some cur.peekPlace⟩

theorem skipNumber_of_minus {more : List Char} (h : cur.rest = '-' :: more) :
    cur.skipNumber = skipUnsigned cur.next := by
  simp only [skipNumber, h]
  rfl

theorem skipNumber_of_not_minus (h : ∀ more, cur.rest ≠ '-' :: more) :
    cur.skipNumber = skipUnsigned cur := by
  unfold skipNumber
  split
  · next more hminus => exact absurd hminus (h more)
  · rfl

theorem skipUnsigned_of_readUnsigned {negative : Bool} {n : JsonNumber}
    (h : readUnsigned negative cur = .ok (n, behind)) : skipUnsigned cur = .ok behind := by
  cases hrest : cur.rest with
  | nil => simp [readUnsigned, hrest, error] at h
  | cons c more =>
    by_cases hzero : c = '0'
    · subst hzero
      -- behind a zero there must be no other digit
      cases hnext : cur.next.rest with
      | nil =>
        have hread : readFraction negative ['0'] cur.next = .ok (n, behind) := by
          simpa [readUnsigned, hrest, hnext] using h
        simpa [skipUnsigned, hrest, hnext] using skipFraction_of_readFraction hread
      | cons d tail =>
        cases hdigit : isDigit d with
        | true => simp [readUnsigned, hrest, hnext, hdigit, peekError] at h
        | false =>
          have hread : readFraction negative ['0'] cur.next = .ok (n, behind) := by
            simpa [readUnsigned, hrest, hnext, hdigit] using h
          simpa [skipUnsigned, hrest, hnext, hdigit] using skipFraction_of_readFraction hread
    · cases hdigit : isDigit c with
      | true =>
        have hread : readFraction negative cur.digits.1 cur.digits.2 = .ok (n, behind) := by
          simpa [readUnsigned, hrest, hzero, hdigit] using h
        simpa [skipUnsigned, hrest, hzero, hdigit] using skipFraction_of_readFraction hread
      | false => simp [readUnsigned, hrest, hdigit] at h

theorem length_skipUnsigned_lt (h : skipUnsigned cur = .ok behind) :
    behind.rest.length < cur.rest.length := by
  unfold skipUnsigned at h
  split at h
  · simp [error] at h
  · next more hrest =>
    have hnext := length_next_of_rest hrest
    split at h
    · split at h
      · simp [peekError] at h
      · have hle := length_skipFraction_le h
        omega
    · have hle := length_skipFraction_le h
      omega
  · next c more _ hrest =>
    split at h
    · next hdigit =>
      have hle := length_skipFraction_le h
      have hlt := length_digits_lt hrest hdigit
      omega
    · simp at h

theorem skipNumber_of_readNumber {n : JsonNumber} (h : cur.readNumber = .ok (n, behind)) :
    cur.skipNumber = .ok behind := by
  by_cases hminus : ∃ more, cur.rest = '-' :: more
  · obtain ⟨more, hminus⟩ := hminus
    rw [skipNumber_of_minus hminus]
    exact skipUnsigned_of_readUnsigned (by simpa only [readNumber, hminus] using h)
  · have hunsigned : ∀ more, cur.rest ≠ '-' :: more := fun more hrest => hminus ⟨more, hrest⟩
    rw [skipNumber_of_not_minus hunsigned]
    unfold readNumber at h
    split at h
    · next more hrest => exact absurd hrest (hunsigned more)
    · exact skipUnsigned_of_readUnsigned h

theorem length_skipNumber_lt (h : cur.skipNumber = .ok behind) :
    behind.rest.length < cur.rest.length := by
  by_cases hminus : ∃ more, cur.rest = '-' :: more
  · obtain ⟨more, hminus⟩ := hminus
    rw [skipNumber_of_minus hminus] at h
    exact Nat.lt_of_lt_of_le (length_skipUnsigned_lt h) (length_next_le cur)
  · rw [skipNumber_of_not_minus fun more hrest => hminus ⟨more, hrest⟩] at h
    exact length_skipUnsigned_lt h

theorem length_readNumber_lt {n : JsonNumber} (h : cur.readNumber = .ok (n, behind)) :
    behind.rest.length < cur.rest.length := length_skipNumber_lt (skipNumber_of_readNumber h)

/-! ## Scalars, keys and the marks between values -/

/-- The words with the values that they stand for, each as its first letter and the others. -/
def words : List (Char × List Char × Json) :=
  [('n', ['u', 'l', 'l'], .null), ('t', ['r', 'u', 'e'], .bool true),
    ('f', ['a', 'l', 's', 'e'], .bool false)]

/-- A scalar is a word, a string or a number. -/
theorem scalar_cases {v : Json} (h : cur.scalar = .ok (v, behind)) :
    (∃ c more letters, cur.rest = c :: more ∧ (c, letters, v) ∈ words ∧
      word cur.next letters = .ok behind) ∨
    (∃ more text, cur.rest = '"' :: more ∧ v = .string text ∧
      cur.next.readString = .ok (text, behind)) ∨
    (∃ c more n, cur.rest = c :: more ∧ (c == '-' || isDigit c) = true ∧ v = .number n ∧
      cur.readNumber = .ok (n, behind)) := by
  have hword : ∀ {c more letters value}, cur.rest = c :: more → (c, letters, value) ∈ words →
      (do return (value, ← word cur.next letters) : Except ReadError (Json × Cursor)) =
        .ok (v, behind) →
      ∃ c more letters, cur.rest = c :: more ∧ (c, letters, v) ∈ words ∧
        word cur.next letters = .ok behind := by
    intro c more letters value hrest hmem h
    obtain ⟨after, hafter, hpure⟩ := bind_eq_ok_iff.1 h
    obtain ⟨rfl, rfl⟩ : value = v ∧ after = behind := by simpa [pure, Except.pure] using hpure
    exact ⟨c, more, letters, hrest, hmem, hafter⟩
  unfold scalar at h
  split at h
  · simp [peekError] at h
  · next more hrest => exact .inl (hword hrest (by simp [words]) h)
  · next more hrest => exact .inl (hword hrest (by simp [words]) h)
  · next more hrest => exact .inl (hword hrest (by simp [words]) h)
  · next more hrest =>
    obtain ⟨⟨text, after⟩, hstring, hpure⟩ := bind_eq_ok_iff.1 h
    obtain ⟨rfl, rfl⟩ : .string text = v ∧ after = behind := by
      simpa [pure, Except.pure] using hpure
    exact .inr (.inl ⟨more, text, hrest, rfl, hstring⟩)
  · next c more _ _ _ _ hrest =>
    split at h
    · next hnumeric =>
      obtain ⟨⟨n, after⟩, hnumber, hpure⟩ := bind_eq_ok_iff.1 h
      obtain ⟨rfl, rfl⟩ : .number n = v ∧ after = behind := by
        simpa [pure, Except.pure] using hpure
      exact .inr (.inr ⟨c, more, n, hrest, hnumeric, rfl, hnumber⟩)
    · simp [peekError] at h

theorem length_scalar_lt {v : Json} (h : cur.scalar = .ok (v, behind)) :
    behind.rest.length < cur.rest.length := by
  rcases scalar_cases h with ⟨c, more, letters, hrest, -, hword⟩ | ⟨more, text, hrest, -, hstring⟩ |
    ⟨c, more, n, -, -, -, hnumber⟩
  · have hnext := length_next_of_rest hrest
    have hle := length_word_le hword
    omega
  · have hnext := length_next_of_rest hrest
    have hlt := length_readString_lt hstring
    omega
  · exact length_readNumber_lt hnumber

/-- No scalar begins with the bracket of an array or the brace of an object. -/
theorem scalar_ne_bracket {v : Json} (h : cur.scalar = .ok (v, behind)) (more : List Char) :
    cur.rest ≠ '[' :: more ∧ cur.rest ≠ '\x7b' :: more := by
  constructor <;> intro hrest <;> simp [scalar, hrest, peekError, isDigit] at h

theorem scalar_ne_object {v : Json} (h : cur.scalar = .ok (v, behind)) :
    (∀ items, v ≠ .array items) ∧ ∀ members, v ≠ .object members := by
  rcases scalar_cases h with ⟨c, more, letters, -, hmem, -⟩ | ⟨more, text, -, rfl, -⟩ |
    ⟨c, more, n, -, -, rfl, -⟩
  · simp only [words, List.mem_cons, Prod.mk.injEq, List.not_mem_nil, or_false] at hmem
    rcases hmem with ⟨-, -, rfl⟩ | ⟨-, -, rfl⟩ | ⟨-, -, rfl⟩ <;> simp
  · simp
  · simp

theorem length_colon_le (h : cur.colon = .ok behind) : behind.rest.length ≤ cur.rest.length := by
  have hblanks := length_skipBlanks_le cur
  unfold colon at h
  simp only at h
  split at h
  · next more hrest =>
    obtain rfl : cur.skipBlanks.next = behind := by simpa using h
    exact Nat.le_trans (length_next_le _) hblanks
  · simp [peekError] at h
  · simp [peekError] at h

/-! ## Between items and members -/

theorem nextItem?_end {first : Bool} (h : cur.nextItem? first = .ok (false, behind)) :
    behind = cur.skipBlanks ∧ ∃ more, behind.rest = ']' :: more := by
  unfold nextItem? at h
  simp only at h
  split at h
  · simp [peekError] at h
  · next more hrest =>
    obtain rfl : cur.skipBlanks = behind := by simpa using h
    exact ⟨rfl, more, hrest⟩
  · split at h
    · simp at h
    · split at h <;> simp [peekError] at h
  · split at h <;> simp [peekError] at h

theorem nextItem?_first (h : cur.nextItem? true = .ok (true, behind)) :
    behind = cur.skipBlanks ∧ ∃ c more, behind.rest = c :: more ∧ c ≠ ']' := by
  unfold nextItem? at h
  simp only [if_true] at h
  split at h
  · simp [peekError] at h
  · simp at h
  · next more hrest =>
    obtain rfl : cur.skipBlanks = behind := by simpa using h
    exact ⟨rfl, ',', more, hrest, by decide⟩
  · next c more hbracket _ hrest =>
    obtain rfl : cur.skipBlanks = behind := by simpa using h
    exact ⟨rfl, c, more, hrest, hbracket⟩

theorem nextItem?_later (h : cur.nextItem? false = .ok (true, behind)) :
    behind = cur.skipBlanks.next.skipBlanks ∧ ∃ more, cur.skipBlanks.rest = ',' :: more := by
  unfold nextItem? at h
  simp only [Bool.false_eq_true, if_false] at h
  split at h
  · simp [peekError] at h
  · simp at h
  · next more hrest =>
    split at h
    · simp [peekError] at h
    · simp [peekError] at h
    · obtain rfl : cur.skipBlanks.next.skipBlanks = behind := by simpa using h
      exact ⟨rfl, more, hrest⟩
  · simp [peekError] at h

theorem length_nextItem?_le {first more : Bool} (h : cur.nextItem? first = .ok (more, behind)) :
    behind.rest.length ≤ cur.rest.length := by
  have hblanks := length_skipBlanks_le cur
  cases more with
  | false => rwa [(nextItem?_end h).1]
  | true =>
    cases first with
    | true => rwa [(nextItem?_first h).1]
    | false =>
      have hcomma := length_next_le cur.skipBlanks
      have hrest := length_skipBlanks_le cur.skipBlanks.next
      rw [(nextItem?_later h).1]
      omega

theorem nextKey?_end {first : Bool} (h : cur.nextKey? first = .ok (false, behind)) :
    behind = cur.skipBlanks ∧ ∃ more, behind.rest = '\x7d' :: more := by
  unfold nextKey? at h
  simp only at h
  split at h
  · simp [peekError] at h
  · next more hrest =>
    obtain rfl : cur.skipBlanks = behind := by simpa using h
    exact ⟨rfl, more, hrest⟩
  · split at h
    · split at h <;> simp [peekError] at h
    · split at h
      · split at h <;> simp [peekError] at h
      · simp [peekError] at h

theorem nextKey?_first (h : cur.nextKey? true = .ok (true, behind)) :
    behind = cur.skipBlanks.next ∧ ∃ more, cur.skipBlanks.rest = '"' :: more := by
  unfold nextKey? at h
  simp only [if_true] at h
  split at h
  · simp [peekError] at h
  · simp at h
  · next c more _ hrest =>
    split at h
    · next hquote =>
      obtain rfl : cur.skipBlanks.next = behind := by simpa using h
      exact ⟨rfl, more, hquote ▸ hrest⟩
    · simp [peekError] at h

theorem nextKey?_later (h : cur.nextKey? false = .ok (true, behind)) :
    behind = cur.skipBlanks.next.skipBlanks.next ∧ (∃ more, cur.skipBlanks.rest = ',' :: more) ∧
      ∃ more, cur.skipBlanks.next.skipBlanks.rest = '"' :: more := by
  unfold nextKey? at h
  simp only [Bool.false_eq_true, if_false] at h
  split at h
  · simp [peekError] at h
  · simp at h
  · next c more _ hrest =>
    split at h
    · next hcomma =>
      split at h
      · next more' hquote =>
        obtain rfl : cur.skipBlanks.next.skipBlanks.next = behind := by simpa using h
        exact ⟨rfl, ⟨more, hcomma ▸ hrest⟩, more', hquote⟩
      · simp [peekError] at h
      · simp [peekError] at h
      · simp [peekError] at h
    · simp [peekError] at h

theorem length_nextKey?_le {first more : Bool} (h : cur.nextKey? first = .ok (more, behind)) :
    behind.rest.length ≤ cur.rest.length := by
  have hblanks := length_skipBlanks_le cur
  have hnext := length_next_le cur.skipBlanks
  cases more with
  | false => rwa [(nextKey?_end h).1]
  | true =>
    cases first with
    | true =>
      rw [(nextKey?_first h).1]
      omega
    | false =>
      have hrest := length_skipBlanks_le cur.skipBlanks.next
      have hquote := length_next_le cur.skipBlanks.next.skipBlanks
      rw [(nextKey?_later h).1]
      omega

theorem length_next_of_nextItem?_end {first : Bool}
    (h : cur.nextItem? first = .ok (false, behind)) :
    behind.next.rest.length < cur.rest.length := by
  have hle := length_nextItem?_le h
  obtain ⟨-, more, hrest⟩ := nextItem?_end h
  have hnext := length_next_of_rest hrest
  omega

theorem length_next_of_nextKey?_end {first : Bool}
    (h : cur.nextKey? first = .ok (false, behind)) :
    behind.next.rest.length < cur.rest.length := by
  have hle := length_nextKey?_le h
  obtain ⟨-, more, hrest⟩ := nextKey?_end h
  have hnext := length_next_of_rest hrest
  omega

end SchemaNodes.Json.Cursor
