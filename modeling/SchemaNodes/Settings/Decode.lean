import SchemaNodes.Number.Text
import SchemaNodes.Settings.Basic
import SchemaNodes.Settings.Error
import SchemaNodes.Settings.Tree

/-!
# Settings from trees

Gives the settings of a tree their types. Scalars are taken in a wide sense: a number can stand for
a truth value, and most scalars for a text. A group of settings is a table, of which unknown members
do not count, or a list of the settings in their order, of which further items do not count.
-/

namespace SchemaNodes

namespace Setting

/-- What comes of a setting. -/
abbrev Decode (α : Type) := Setting → Except SettingsError α

/-! ## Scalars -/

/-- The name of a setting without parts in errors about scalars. -/
def foundScalar : Setting → String
  | .leaf _ .nothing => "unit value"
  | .leaf _ (.boolean b) => s!"boolean `{b}`"
  | .leaf _ (.integer n) => s!"integer `{n}`"
  | .leaf _ (.float x) => s!"floating point `{x.pointed}`"
  | .leaf _ (.text text) => s!"string {Text.quoted text}"
  | .list .. => "sequence"
  | .table .. => "map"

/-- The error of a setting that does not stand for a scalar. -/
def wrongType {α : Type} (setting : Setting) (found expected : String) : Except SettingsError α :=
  .error (.wrongType found expected "" setting.origin?)

/-- The error of a setting that is no group. -/
def wrongForm {α : Type} (setting : Setting) (expected : String) : Except SettingsError α :=
  .error (.wrongForm setting.foundScalar expected)

/-- The truth value that a word stands for, in lower case. -/
def truthOf? : String → Option Bool
  | "1" | "true" | "on" | "yes" => some true
  | "0" | "false" | "off" | "no" => some false
  | _ => none

/-- A truth value. -/
def toBool : Decode Bool := fun setting =>
  match setting with
  | .leaf _ (.boolean b) => .ok b
  | .leaf _ (.integer n) => .ok (n != 0)
  | .leaf _ (.float x) => .ok !x.isZero
  | .leaf _ (.text text) =>
    let word := Text.lowercase text
    match truthOf? word with
    | some b => .ok b
    | none => setting.wrongType s!"string {Text.quoted word}" "a boolean"
  | other => other.wrongType other.foundScalar "a boolean"

/-- A text. -/
def toText : Decode String := fun setting =>
  match setting with
  | .leaf _ (.text text) => .ok text
  | .leaf _ (.boolean b) => .ok (String.ofList (Json.boolChars b))
  | .leaf _ (.integer n) => .ok (String.ofList (Json.intChars n))
  | .leaf _ (.float x) => .ok x.plain
  | other => other.wrongType other.foundScalar "a string"

/-- A text, or nothing. -/
def toText? : Decode (Option String) := fun setting =>
  match setting with
  | .leaf _ .nothing => .ok none
  | other => some <$> other.toText

/-! ## Lists, tables and choices -/

/-- The texts of the items of a list, of which the first has an index. -/
def textsFrom (index : Nat) : List Setting → Except SettingsError (List String)
  | [] => .ok []
  | item :: rest => do
    let text ← item.toText.mapError (.inside (SettingsError.itemKey index))
    return text :: (← textsFrom (index + 1) rest)

/-- A list of texts. -/
def toTexts : Decode (List String) := fun setting =>
  match setting with
  | .list _ items => textsFrom 0 items
  | other => other.wrongForm "a sequence"

/-- Puts the text of a member into a dictionary. -/
def insertText (texts : Dict String) (member : String × Setting) :
    Except SettingsError (Dict String) := do
  let text ← member.2.toText.mapError (.inside (SettingsError.memberKey member.1))
  return texts.insert member.1 text

/-- A table of texts. -/
def toTextDict : Decode (Dict String) := fun setting =>
  match setting with
  | .table _ members => members.foldlM insertText .empty
  | other => other.wrongForm "a map"

/-- The name of the choice in errors. -/
def formatChoice : String := "OutputFormat"

/-- The output format of a name, in any case. -/
def formatOf (name : String) : Except SettingsError OutputFormat :=
  match Text.lowercase name with
  | "pretty" => .ok .pretty
  | "compact" => .ok .compact
  | _ => .error (.unknownChoice formatChoice name)

/-- An output format: its name, or a table whose only key is its name. -/
def toFormat : Decode OutputFormat := fun setting =>
  match setting with
  | .leaf _ (.text name) | .table _ [(name, _)] => formatOf name
  | _ => .error (.noChoice formatChoice)

/-! ## Groups -/

/-- Takes a setting of a group into account. -/
abbrev Take (α : Type) := α → String → Decode α

/-- A group of settings, with the names of the settings in the order in which a list gives them. -/
def toGroup {α : Type} (label : String) (names : List String) (take : Take α) (base : α) :
    Decode α := fun setting =>
  match setting with
  | .table _ members => members.foldlM (fun group (name, value) =>
      (take group name value).mapError (.inside (SettingsError.memberKey name))) base
  | .list _ items => (names.zip items).zipIdx.foldlM (fun group ((name, value), index) =>
      (take group name value).mapError (.inside (SettingsError.itemKey index))) base
  | other => other.wrongForm s!"struct {label}"

/-- Takes a setting about the schema into account. -/
def takeSchema : Take SchemaSettings := fun group name setting =>
  match name with
  | "path" => return { group with path? := ← setting.toText? }
  | "namespace" => return { group with label? := ← setting.toText? }
  | _ => .ok group

/-- The settings about the schema. -/
def toSchemaSettings : Decode SchemaSettings :=
  toGroup "SchemaSourceConfig" ["path", "namespace"] takeSchema .default

/-- Takes a setting about callable names into account. -/
def takeNaming : Take NamingSettings := fun group name setting =>
  match name with
  | "case_aliases" => return { group with caseAliases := ← setting.toBool }
  | "uncountable" => return { group with uncountable := ← setting.toTexts }
  | "irregular" => return { group with irregular := ← setting.toTextDict }
  | _ => .ok group

/-- The settings about callable names. -/
def toNamingSettings : Decode NamingSettings :=
  toGroup "NamingConfig" ["case_aliases", "uncountable", "irregular"] takeNaming .default

/-- Takes a setting about linting into account. -/
def takeLint : Take LintSettings := fun group name setting =>
  match name with
  | "enabled" => return { group with enabled := ← setting.toBool }
  | "deny_warnings" => return { group with denyWarnings := ← setting.toBool }
  | _ => .ok group

/-- The settings about linting. -/
def toLintSettings : Decode LintSettings :=
  toGroup "LintConfig" ["enabled", "deny_warnings"] takeLint .default

/-- Takes a setting about the output into account. -/
def takeOutput : Take OutputFormat := fun format name setting =>
  match name with
  | "format" => setting.toFormat
  | _ => .ok format

/-- The settings about the output, of which there is only the format. -/
def toOutputSettings : Decode OutputFormat :=
  toGroup "OutputConfig" ["format"] takeOutput .pretty

/-- Takes a group of settings into account. -/
def takeGroup : Take Settings := fun settings name setting =>
  match name with
  | "schema" => return { settings with schema := ← setting.toSchemaSettings }
  | "naming" => return { settings with naming := ← setting.toNamingSettings }
  | "lint" => return { settings with lint := ← setting.toLintSettings }
  | "output" => return { settings with format := ← setting.toOutputSettings }
  | _ => .ok settings

end Setting

/-- The settings of a tree. -/
def Settings.decode : Setting.Decode Settings :=
  Setting.toGroup "BuilderConfig" ["schema", "naming", "lint", "output"] Setting.takeGroup .default

end SchemaNodes
