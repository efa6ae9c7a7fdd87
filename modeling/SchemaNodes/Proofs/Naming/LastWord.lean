import SchemaNodes.Naming.Inflection

/-!
# The last word of a name

`splitFrom` walks a name from its end. Here its result is described without the walk: the last word
begins at the last place of the name where a word can begin.

* **`WordStart`**: the places at which a word begins, by what stands before and behind them.
* **`IsLastWord`**: a word begins between the two parts, or the first is empty; none begins later.
* **`splitLastWord_eq_iff`**: a name splits into two parts just if the second is its last word.
-/

namespace SchemaNodes.Naming

/-! ## Where words begin -/

/-- Whether a word begins with a capital behind `previous`: behind a small letter or a digit, or
between a capital and a small letter. -/
def capitalStarts (previous : Char) : List Char → Bool
  | [] => false
  | c :: rest =>
    Text.isUppercase c &&
      (Text.isLowercase previous || previous.isDigit ||
        (Text.isUppercase previous && (rest.head?.map Text.isLowercase).getD false))

/-- Whether the character parts words wherever it is not the first of a name. -/
def isMark (c : Char) : Bool := c = '_' || c = '-'

/-- A word begins behind `front` when `word` follows. -/
def WordStart (front word : List Char) : Prop :=
  ∃ before previous, front = before ++ [previous] ∧
    (capitalStarts previous word = true ∨ before ≠ [] ∧ isMark previous = true)

/-- `word` is the last word of the name that it makes with `front`. -/
structure IsLastWord (front word : List Char) : Prop where
  /-- It begins behind `front`, unless it is the whole name. -/
  starts : front = [] ∨ WordStart front word
  /-- No word begins inside it or at its end. -/
  undivided : ∀ inner rest, inner ≠ [] → word = inner ++ rest → ¬ WordStart (front ++ inner) rest

@[simp] theorem wordStart_concat_iff {before word : List Char} {previous : Char} :
    WordStart (before ++ [previous]) word ↔
      capitalStarts previous word = true ∨ before ≠ [] ∧ isMark previous = true := by
  constructor
  · rintro ⟨before', previous', heq, h⟩
    obtain ⟨hbefore, hprevious⟩ := List.append_inj' heq rfl
    obtain rfl := List.singleton_inj.1 hprevious
    exact hbefore ▸ h
  · exact fun h => ⟨before, previous, rfl, h⟩

theorem capitalStarts_cons_iff {previous c : Char} {rest : List Char} :
    capitalStarts previous (c :: rest) = true ↔
      Text.isUppercase c = true ∧
        (Text.isLowercase previous = true ∨ previous.isDigit = true ∨
          Text.isUppercase previous = true ∧
            ∃ next, rest.head? = some next ∧ Text.isLowercase next = true) := by
  have hhead : (rest.head?.map Text.isLowercase).getD false = true ↔
      ∃ next, rest.head? = some next ∧ Text.isLowercase next = true := by
    cases rest.head? <;> simp
  simp only [capitalStarts, Bool.and_eq_true, Bool.or_eq_true, hhead, or_assoc]

/-- No mark is a capital. -/
theorem isMark_eq_false_of_isUppercase {c : Char} (h : Text.isUppercase c = true) :
    isMark c = false := by
  simp only [isMark, Bool.or_eq_false_iff, decide_eq_false_iff_not]
  constructor
  · rintro rfl; exact absurd h (by decide)
  · rintro rfl; exact absurd h (by decide)

/-! ## The walk

The walk has come from the end to a place between `rest`, last letter first, and `word`. It has seen
that no word begins behind this place, and that none begins at this place with a capital; whether
one begins here behind a mark is what it looks at next, together with a capital one letter on. -/

theorem splitFrom_cons_cons (c previous : Char) (front word : List Char) :
    splitFrom (c :: previous :: front) word =
      if capitalStarts previous (c :: word) then ((previous :: front).reverse, c :: word)
      else if isMark c then ((c :: previous :: front).reverse, word)
      else splitFrom (previous :: front) (c :: word) := by
  rw [splitFrom, capitalStarts, isMark]
  cases Text.isUppercase c <;> cases Text.isLowercase previous || previous.isDigit <;> simp

/-- If no word begins inside a word or right behind the letter before it, then none begins inside
the word with that letter in front. -/
theorem undivided_cons {front word : List Char} {c : Char}
    (hhere : ¬ WordStart (front ++ [c]) word)
    (hinside : ∀ inner rest, inner ≠ [] → word = inner ++ rest →
      ¬ WordStart ((front ++ [c]) ++ inner) rest) :
    ∀ inner rest, inner ≠ [] → c :: word = inner ++ rest → ¬ WordStart (front ++ inner) rest := by
  intro inner rest hinner heq
  cases inner with
  | nil => exact absurd rfl hinner
  | cons d inner =>
    obtain ⟨rfl, rfl⟩ := List.cons_eq_cons.1 heq
    by_cases hnil : inner = []
    · subst hnil
      exact hhere
    · have h := hinside inner rest hnil rfl
      rwa [List.append_assoc, List.singleton_append] at h

theorem isLastWord_splitFrom (rest word : List Char)
    (hcapital : ∀ previous before, rest = previous :: before → capitalStarts previous word = false)
    (hinside : ∀ inner after, inner ≠ [] → word = inner ++ after →
      ¬ WordStart (rest.reverse ++ inner) after) :
    rest.reverse ++ word = (splitFrom rest word).1 ++ (splitFrom rest word).2 ∧
      IsLastWord (splitFrom rest word).1 (splitFrom rest word).2 := by
  induction rest generalizing word with
  | nil => exact ⟨rfl, .inl rfl, hinside⟩
  | cons c rest ih =>
    rw [List.reverse_cons] at hinside
    have hnocapital : capitalStarts c word = false := hcapital c rest rfl
    cases rest with
    | nil =>
      -- a mark that is the first letter parts nothing
      have hhere : ¬ WordStart [c] word := by
        rw [← List.nil_append [c], wordStart_concat_iff]
        simp [hnocapital]
      exact ⟨rfl, .inl rfl, undivided_cons hhere hinside⟩
    | cons previous front =>
      rw [splitFrom_cons_cons]
      split
      · next hstarts =>
        have hupper : Text.isUppercase c = true := (capitalStarts_cons_iff.1 hstarts).1
        have hhere : ¬ WordStart ((previous :: front).reverse ++ [c]) word := by
          rw [wordStart_concat_iff, hnocapital, isMark_eq_false_of_isUppercase hupper]
          simp
        refine ⟨by simp, .inr ?_, undivided_cons hhere hinside⟩
        rw [List.reverse_cons, wordStart_concat_iff]
        exact .inl hstarts
      · next hstarts =>
        split
        · next hmark =>
          refine ⟨rfl, .inr ?_, by rwa [List.reverse_cons]⟩
          rw [List.reverse_cons, wordStart_concat_iff]
          exact .inr ⟨by simp, hmark⟩
        · next hmark =>
          have hhere : ¬ WordStart ((previous :: front).reverse ++ [c]) word := by
            rw [wordStart_concat_iff, hnocapital]
            simp [hmark]
          have hnext := ih (c :: word)
            (by rintro _ _ ⟨⟩; simpa using hstarts) (undivided_cons hhere hinside)
          refine ⟨?_, hnext.2⟩
          rw [← hnext.1, List.reverse_cons, List.append_assoc, List.singleton_append]

/-! ## The split -/

/-- A name has one last word. -/
theorem IsLastWord.unique {front word front' word' : List Char} (h : IsLastWord front word)
    (h' : IsLastWord front' word') (heq : front ++ word = front' ++ word') :
    front = front' ∧ word = word' := by
  rcases List.append_eq_append_iff.1 heq with ⟨inner, hfront, hword⟩ | ⟨inner, hfront, hword⟩
  · by_cases hnil : inner = []
    · simp_all
    · -- the word behind `front'` begins inside the word behind `front`
      refine absurd (h'.starts.resolve_left ?_) (hfront ▸ h.undivided inner word' hnil hword)
      simp [hfront, hnil]
  · by_cases hnil : inner = []
    · simp_all
    · refine absurd (h.starts.resolve_left ?_) (hfront ▸ h'.undivided inner word hnil hword)
      simp [hfront, hnil]

/-- A name splits into two parts just if the second is its last word. -/
theorem splitLastWord_eq_iff {name front word : List Char} :
    splitLastWord name = (front, word) ↔ name = front ++ word ∧ IsLastWord front word := by
  obtain ⟨happend, hlast⟩ := isLastWord_splitFrom name.reverse []
    (fun _ _ _ => rfl)
    (fun inner after hinner heq => absurd (List.append_eq_nil_iff.1 heq.symm).1 hinner)
  rw [List.reverse_reverse, List.append_nil] at happend
  rw [splitLastWord]
  constructor
  · intro h
    rw [h] at happend hlast
    exact ⟨happend, hlast⟩
  · rintro ⟨hname, hword⟩
    obtain ⟨hfront, hback⟩ := hlast.unique hword (happend.symm.trans hname)
    exact Prod.ext hfront hback

end SchemaNodes.Naming
