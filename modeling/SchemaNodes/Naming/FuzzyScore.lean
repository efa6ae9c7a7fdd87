/-!
# Fuzzy scores

How well a pattern matches a text that contains it as a subsequence, without regard to the case of
ASCII letters. Matched letters score, more so at the beginning of words and in unbroken runs, and
gaps cost. The best alignment is found by dynamic programming over two rows of cells.

The rows live in a scratch array that is passed from one comparison to the next: cells that are not
initialised keep the bonus which an earlier comparison left in them, so the scores of a series of
comparisons depend on their order.

Main statement: `score_isSome_iff` — there is a score exactly if the pattern is a subsequence.
-/

namespace SchemaNodes.Naming

/-- A cell of the alignment table. -/
structure Cell where
  /-- The best score of an alignment that matches the last letter here. -/
  matched : Int
  /-- The best score of an alignment that matched the last letter earlier. -/
  passed : Int
  /-- The bonus of the run of matches that ends here. -/
  bonus : Int
  deriving Repr

namespace Cell

/-- A score below every other. -/
def worst : Int := -32768

/-- A cell before its first use. -/
def fresh : Cell := ⟨worst, worst, 0⟩

end Cell

/-- The cells of two rows, one behind the other, with what earlier comparisons left in them. -/
abbrev Scratch := Array Cell

/-- The kinds of letters that word boundaries are told by. -/
inductive LetterKind where
  | start
  | hardSeparator
  | softSeparator
  | upper
  | digit
  | lower
  deriving DecidableEq, Repr

/-- The kind of a letter as the one before another. -/
def LetterKind.of (c : Char) : LetterKind :=
  let code := c.toNat
  if c = '\x00' then .start
  else if " /\\|()[]\x7b\x7d".toList.contains c then .hardSeparator
  else if (0x21 ≤ code && code ≤ 0x27) || (0x2a ≤ code && code ≤ 0x2e) ||
      (0x3a ≤ code && code ≤ 0x40) || (0x5e ≤ code && code ≤ 0x60) || code == 0x7e then
    .softSeparator
  else if c.isUpper then .upper
  else if c.isDigit then .digit
  else .lower

/-- The bonus for a match behind a letter of one kind. -/
def placeBonus (previous : LetterKind) (c : Char) : Int :=
  match previous with
  | .start => 8
  | .hardSeparator => 8
  | .softSeparator => 7
  | .lower => if c.isUpper then 6 else 0
  | .digit => if c.isUpper then 6 else 0
  | .upper => 0

/-- The bonuses of the letters behind one of the given kind. -/
def placeBonuses (previous : LetterKind) : List Char → List Int
  | [] => []
  | c :: rest => placeBonus previous c :: placeBonuses (.of c) rest

/-- The bonuses by column: none in column zero, and the first letter's counts twice. -/
def columnBonuses (choice : List Char) : Array Int :=
  match placeBonuses .start choice with
  | [] => #[0]
  | first :: rest => #[0, 2 * first] ++ rest.toArray

/-- Whether two letters are the same but for the case of ASCII letters. -/
def sameLetter (a b : Char) : Bool := a.toLower == b.toLower

/-- The earliest places of the pattern's letters in the text, from place `at` on, if it is a
subsequence. -/
def earliestPlaces? (place : Nat) : List Char → List Char → Option (List Nat)
  | [], _ => some []
  | _ :: _, [] => none
  | p :: pattern, c :: choice =>
    if sameLetter c p then (earliestPlaces? (place + 1) pattern choice).map (place :: ·)
    else earliestPlaces? (place + 1) (p :: pattern) choice

/-- The cell at an index. -/
def Scratch.cell (scratch : Scratch) (i : Nat) : Cell := scratch.getD i .fresh

/-- The rows, made to fit the columns: cells that are there stay, and new ones are fresh. -/
def Scratch.resize (scratch : Scratch) (size : Nat) : Scratch :=
  if size ≤ scratch.size then scratch.extract 0 size
  else scratch ++ Array.replicate (size - scratch.size) Cell.fresh

/-- The rows before the first letter is matched, which may happen from column `first` on. -/
def Scratch.prepare (scratch : Scratch) (columns first : Nat) : Scratch :=
  let scratch := (scratch.resize (2 * columns)).setIfInBounds (columns + first) .fresh
  (List.range columns).foldl (fun s j => s.setIfInBounds j ⟨Cell.worst, -1, 0⟩) scratch

/-- Computes the cell in a column of `row` from the one before it and the one diagonally before it
in the row `previous`. -/
def Scratch.advance (columns row previous : Nat) (bonuses : Array Int) (p : Char)
    (scratch : Scratch) (column : Nat) (c : Char) : Scratch :=
  let here := row * columns + column
  let last := scratch.cell (here - 1)
  let diagonal := scratch.cell (previous * columns + column - 1)
  let cell := scratch.cell here
  if sameLetter c p then
    let place := bonuses.getD column 0
    let run := max (max last.bonus place) 4
    let last := { last with bonus := run }
    let scratch := scratch.setIfInBounds (here - 1) last
    let best := max (diagonal.matched + run) (diagonal.passed + place)
    scratch.setIfInBounds here
      { cell with
        matched := best + if c = p then 16 else 14
        passed := max (last.matched - 4) (last.passed - 1) }
  else
    scratch.setIfInBounds here ⟨Cell.worst, max (last.matched - 4) (last.passed - 1), 0⟩

/-- Computes the cells of a row from a column on. -/
def Scratch.fillRow (columns row previous : Nat) (bonuses : Array Int) (p : Char) :
    Scratch → Nat → List Char → Scratch
  | scratch, _, [] => scratch
  | scratch, column, c :: rest =>
    fillRow columns row previous bonuses p
      (scratch.advance columns row previous bonuses p column c) (column + 1) rest

/-- Computes the rows of the pattern's letters in turn; each begins at the letter's earliest place.
-/
def Scratch.fill (columns : Nat) (bonuses : Array Int) (choice : List Char) :
    Scratch → Nat → List (Char × Nat) → Scratch
  | scratch, _, [] => scratch
  | scratch, i, (p, first) :: rest =>
    fill columns bonuses choice
      (scratch.fillRow columns ((i + 1) % 2) (i % 2) bonuses p (first + 1) (choice.drop first))
      (i + 1) rest

/-- The best score in a row from a column on. -/
def Scratch.best (scratch : Scratch) (columns row first : Nat) : Int :=
  (List.range (columns - first)).foldl
    (fun acc k => max acc (scratch.cell (row * columns + first + k)).matched)
    (scratch.cell (row * columns + first)).matched

/-- The score of a pattern whose letters have the given earliest places in the text. -/
def alignmentScore (scratch : Scratch) (choice pattern : List Char) (places : List Nat) :
    Int × Scratch :=
  let columns := choice.length + 1
  let scratch := scratch.prepare columns (places.headD 0)
  let scratch := scratch.fill columns (columnBonuses choice) choice 0 (pattern.zip places)
  (scratch.best columns (pattern.length % 2) (places.getLastD 0), scratch)

/-- The score of a pattern in a text, if it is a subsequence, and the scratch cells behind it. The
empty pattern scores nothing. -/
def fuzzyScore (scratch : Scratch) (choice pattern : List Char) : Option Int × Scratch :=
  if pattern = [] then (some 0, scratch)
  else match earliestPlaces? 0 pattern choice with
    | none => (none, scratch)
    | some places =>
      let (score, scratch) := alignmentScore scratch choice pattern places
      (some score, scratch)

/-- Whether the letters of a pattern stand in a text in their order, but for the case of ASCII
letters. -/
def isSubsequence : List Char → List Char → Bool
  | [], _ => true
  | _ :: _, [] => false
  | p :: pattern, c :: choice =>
    if sameLetter c p then isSubsequence pattern choice else isSubsequence (p :: pattern) choice

theorem earliestPlaces?_isSome (place : Nat) (pattern choice : List Char) :
    (earliestPlaces? place pattern choice).isSome = isSubsequence pattern choice := by
  induction choice generalizing place pattern with
  | nil => cases pattern <;> rfl
  | cons c choice ih =>
    cases pattern with
    | nil => rfl
    | cons p pattern =>
      simp only [earliestPlaces?, isSubsequence]
      split
      · simp [ih]
      · exact ih _ _

/-- There is a score exactly if the pattern is a subsequence of the text. -/
theorem score_isSome_iff (scratch : Scratch) (choice pattern : List Char) :
    (fuzzyScore scratch choice pattern).1.isSome = isSubsequence pattern choice := by
  unfold fuzzyScore
  split
  · next h => subst h; cases choice <;> rfl
  · rw [← earliestPlaces?_isSome 0]
    split <;> simp_all

end SchemaNodes.Naming
