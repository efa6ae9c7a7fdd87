import SchemaNodes.Text.Case

/-!
# Suffix rules

A suffix rule replaces an ending of a name, where the letters in front of the ending satisfy a
condition and stay as they are. Endings are compared without regard to case, and the long s counts
as an s.
-/

namespace SchemaNodes.Naming

/-- The letter that endings are compared by: ASCII letters in lower case, the long s as an s and the
Kelvin sign as a k. -/
def foldLetter (c : Char) : Char :=
  if c = 'ſ' then 's' else if c = '\u212a' then 'k' else c.toLower

/-- Whether a name, given last letter first, ends in a word of lower-case letters, given last letter
first too. -/
def endsWith : List Char → List Char → Bool
  | _, [] => true
  | [], _ :: _ => false
  | c :: name, w :: word => foldLetter c == w && endsWith name word

/-- What has to stand in front of the ending that a rule replaces. -/
inductive Stem where
  /-- Anything, nothing included. -/
  | anything
  /-- One of the words. -/
  | oneOf (words : List String)
  /-- A letter other than a vowel and y, or the letters qu. -/
  | consonant
  /-- Some letter other than s. -/
  | notS

/-- Whether a stem, given last letter first, satisfies the condition. -/
def Stem.accepts (condition : Stem) (stem : List Char) : Bool :=
  match condition with
  | .anything => true
  | .oneOf words => words.any fun word => endsWith stem word.toList.reverse
  | .consonant =>
    match stem with
    | [] => false
    | c :: _ => !("aeiouy".toList.contains (foldLetter c)) || endsWith stem ['u', 'q']
  | .notS =>
    match stem with
    | [] => false
    | c :: _ => foldLetter c != 's'

/-- A rule that replaces an ending. -/
structure SuffixRule where
  /-- The condition on what stays. -/
  stem : Stem
  /-- The endings that are replaced, in lower case. -/
  endings : List String
  /-- What is put in place of the ending. -/
  replacement : String

namespace SuffixRule

/-- The name without the ending, if the rule applies with that ending; names are given last letter
first. -/
def strip? (rule : SuffixRule) (name : List Char) (ending : String) : Option (List Char) :=
  if endsWith name ending.toList.reverse && rule.stem.accepts (name.drop ending.length) then
    some (name.drop ending.length)
  else none

/-- The name with its ending replaced, if the rule applies. -/
def replaced? (rule : SuffixRule) (name : List Char) : Option (List Char) :=
  (rule.endings.findSome? (rule.strip? name.reverse)).map fun stem =>
    stem.reverse ++ rule.replacement.toList

end SuffixRule

/-- The name changed by the first rule that applies. -/
def applyFirst (rules : List SuffixRule) (name : List Char) : List Char :=
  (rules.findSome? fun rule => rule.replaced? name).getD name

/-- The rules that take a plural to its singular. -/
def singularRules : List SuffixRule :=
  [⟨.oneOf ["ss"], [""], ""⟩,
   ⟨.oneOf ["alias", "status", "bus", "address"], ["es"], ""⟩,
   ⟨.oneOf ["ind"], ["ices"], "ex"⟩,
   ⟨.oneOf ["matr", "vert"], ["ices"], "ix"⟩,
   ⟨.consonant, ["ies"], "y"⟩,
   ⟨.oneOf ["x", "ch", "sh", "ss"], ["es"], ""⟩,
   ⟨.notS, ["s"], ""⟩]

/-- The rules that take a singular to its plural; the last one always applies. -/
def pluralRules : List SuffixRule :=
  [⟨.oneOf ["alias", "status", "bus"], [""], "es"⟩,
   ⟨.oneOf ["matr", "vert", "ind"], ["ix", "ex"], "ices"⟩,
   ⟨.consonant, ["y"], "ies"⟩,
   ⟨.oneOf ["x", "ch", "ss", "sh"], [""], "es"⟩,
   ⟨.anything, ["s"], "s"⟩,
   ⟨.anything, [""], "s"⟩]

end SchemaNodes.Naming
