import SchemaNodes.Settings.Basic
import SchemaNodes.Toml.Writer

/-!
# Settings as TOML

The text of settings in a file: a table for each group, with what is chosen in it.
-/

namespace SchemaNodes.Settings

/-- The line of a setting. -/
def line (key : String) (value : List Char) : List Char :=
  Toml.keyChars key ++ [' ', '=', ' '] ++ value ++ ['\n']

/-- The line of a setting that is a text. -/
def textLine (key text : String) : List Char := line key (Toml.stringChars text)

/-- The line of a setting that is a truth value. -/
def boolLine (key : String) (b : Bool) : List Char := line key (Json.boolChars b)

/-- A group of settings under its header. -/
def group (header : String) (lines : List (List Char)) : List Char :=
  ('[' :: header.toList ++ [']', '\n']) ++ lines.flatten

/-- The groups of settings, with a blank line between them. -/
def groups (settings : Settings) : List (List Char) := [
  group "schema" (
    (settings.schema.path?.map (textLine "path")).toList ++
    (settings.schema.label?.map (textLine "namespace")).toList),
  group "naming" [
    boolLine "case_aliases" settings.naming.caseAliases,
    line "uncountable" (Toml.stringArrayChars settings.naming.uncountable)],
  group "naming.irregular" (settings.naming.irregular.entries.map fun (key, text) =>
    textLine key text),
  group "lint" [
    boolLine "enabled" settings.lint.enabled,
    boolLine "deny_warnings" settings.lint.denyWarnings],
  group "output" [textLine "format" settings.format.name]]

/-- The text of settings in a file. -/
def toTomlText (settings : Settings) : String :=
  String.ofList (['\n'].intercalate settings.groups)

end SchemaNodes.Settings
