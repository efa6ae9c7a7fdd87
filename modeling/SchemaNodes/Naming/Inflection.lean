import SchemaNodes.Naming.Settings
import SchemaNodes.Naming.Suffix

/-!
# Singular and plural

An `Inflector` knows uncountable words, irregular pairs and the suffix rules. It asks first about
the whole name and then about its last word: an uncountable word and a word that is already in the
wanted form leave the name as it is, an irregular word is exchanged in the case it was written in.
If neither answers, the suffix rules change the end of the name.
-/

namespace SchemaNodes.Naming

/-- Splits a name, of which the letters in front are given last first, before its last word. A word
begins at a capital behind a small letter or a digit, at a capital between a capital and a small
letter, and behind an underscore or a hyphen that is not the first letter. -/
def splitFrom : List Char → List Char → List Char × List Char
  | [], word => ([], word)
  | [c], word => ([], c :: word)
  | c :: previous :: front, word =>
    if Text.isUppercase c && (Text.isLowercase previous || previous.isDigit) then
      ((previous :: front).reverse, c :: word)
    else if Text.isUppercase c && Text.isUppercase previous &&
        (word.head?.map Text.isLowercase).getD false then
      ((previous :: front).reverse, c :: word)
    else if c = '_' || c = '-' then ((c :: previous :: front).reverse, word)
    else splitFrom (previous :: front) (c :: word)

/-- The front of a compound name and its last word (`SecurityGroupIngress` is `SecurityGroup` and
`Ingress`). -/
def splitLastWord (name : List Char) : List Char × List Char := splitFrom name.reverse []

/-- The replacement in the case of the model: all in capitals if the model is longer than one
letter and has no small letter, otherwise only the first letter follows the model. -/
def matchCase (model replacement : List Char) : List Char :=
  if 1 < model.length && model.all fun c => !Text.isLowercase c then
    replacement.flatMap Text.upper
  else match model, replacement with
    | first :: _, r :: rest =>
      (if Text.isUppercase first then Text.upper r else Text.lower r) ++ rest
    | _, _ => replacement

/-- The words and rules of an inflection. -/
structure Inflector where
  /-- Plurals of irregular words, by their singular in lower case. -/
  plurals : Dict String
  /-- Singulars of irregular words, by their plural in lower case. -/
  singulars : Dict String
  /-- Words in lower case whose singular and plural are the same. -/
  uncountable : List String

/-- The two forms of a name. -/
structure Alias where
  singular : String
  plural : String
  deriving DecidableEq, Repr, Inhabited

namespace Inflector

/-- Registers an irregular pair for both directions. -/
def addIrregular (inflector : Inflector) (singular plural : String) : Inflector :=
  { inflector with
    plurals := inflector.plurals.insert (Text.lowercase singular) plural
    singulars := inflector.singulars.insert (Text.lowercase plural) singular }

/-- Registers irregular pairs in turn. -/
def addAll (inflector : Inflector) (pairs : List (String × String)) : Inflector :=
  pairs.foldl (fun acc (singular, plural) => acc.addIrregular singular plural) inflector

/-- The words that are uncountable without further settings. -/
def uncountableWords : List String :=
  ["data", "metadata", "information", "equipment", "series", "species", "news", "ingress",
   "egress", "settings", "status"]

/-- The pairs that are irregular without further settings. -/
def irregularPairs : List (String × String) :=
  [("person", "people"), ("child", "children"), ("man", "men"), ("mouse", "mice")]

/-- The inflector that knows the words above. -/
def standard : Inflector :=
  addAll ⟨.empty, .empty, uncountableWords⟩ irregularPairs

/-- The standard inflector with the words of the settings. -/
def ofSettings (settings : NamingSettings) : Inflector :=
  let inflector := standard.addAll settings.irregular.entries
  { inflector with
    uncountable := inflector.uncountable ++ settings.uncountable.map Text.lowercase }

/-- What the words have to say about a name whose last word, in front of which `front` stands, is
`word`: nothing, or the form of the whole name. -/
def askWords (inflector : Inflector) (table already : Dict String) (name front word : List Char) :
    Option (List Char) :=
  if word = [] then none
  else
    let lower := Text.lowercase (String.ofList word)
    if inflector.uncountable.contains lower || already.contains lower then some name
    else (table.find? lower).map fun target => front ++ matchCase word target.toList

/-- The other form of a name: `table` leads from the given form to the wanted one, and the keys of
`already` are in the wanted form. -/
def inflect (inflector : Inflector) (table already : Dict String) (rules : List SuffixRule)
    (name : List Char) : List Char :=
  if name = [] then []
  else match inflector.askWords table already name [] name with
    | some form => form
    | none =>
      let (front, word) := splitLastWord name
      match inflector.askWords table already name front word with
      | some form => form
      | none => applyFirst rules name

/-- The singular of a name. -/
def singularize (inflector : Inflector) (name : String) : String :=
  String.ofList (inflector.inflect inflector.singulars inflector.plurals singularRules name.toList)

/-- The plural of a name. -/
def pluralize (inflector : Inflector) (name : String) : String :=
  String.ofList (inflector.inflect inflector.plurals inflector.singulars pluralRules name.toList)

/-- Both forms of a name. -/
def forms (inflector : Inflector) (name : String) : Alias :=
  ⟨inflector.singularize name, inflector.pluralize name⟩

end Inflector

end SchemaNodes.Naming
