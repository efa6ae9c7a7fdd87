import SchemaNodes.Command.Arguments
import SchemaNodes.Lint.Basic

/-!
# What a command gives

The exit code of a command with all that it writes, and the parts of it that commands share.
-/

namespace SchemaNodes.Command

/-- What a command gives. -/
structure Output where
  code : Nat
  stdout : String
  stderr : String
  deriving DecidableEq, Repr, Inhabited

/-- Lines of text, each with its end. -/
def unlines (lines : List String) : String := String.join (lines.map (· ++ "\n"))

/-- A text in a column: filled with spaces up to the width, and longer where it is longer. -/
def column (width : Nat) (text : String) : String :=
  text ++ String.ofList (List.replicate (width - text.length) ' ')

/-- A warning as commands show it. -/
def warningLine (warning : LintWarning) : String :=
  s!"⚠️  [{warning.finding.code.name}] {warning.path}: {warning.finding.message}"

namespace Output

/-- The output of a command that has failed. -/
def failure (code : Nat) (message : String) : Output := ⟨code, "", s!"Error: {message}\n"⟩

/-- The output of a command whose arguments are refused. -/
def refused (error : ArgumentError) : Output := ⟨2, "", s!"error: {error.message}\n"⟩

end Output

/-! ## Help -/

/-- What the help of a command tells beside its switches. -/
structure Description where
  /-- The name of the command. -/
  name : String
  purpose : String
  /-- What the path is called. -/
  path : String
  pathPurpose : String

/-- The left column of a switch in the help. -/
def Switch.usage (switch : Switch) : String :=
  let letter := match switch.letter? with
    | some letter => s!"-{letter}, "
    | none => "    "
  let value := (switch.value?.map fun value => s!" <{value}>").getD ""
  s!"{letter}--{switch.name}{value}"

/-- The help of a command. -/
def Description.help (description : Description) (switches : List Switch) : String :=
  let switches := switches ++ [helpSwitch]
  let width := (switches.map fun switch => switch.usage.length).foldl max 0
  unlines ([
    description.purpose, "",
    s!"Usage: {description.name} [OPTIONS] [{description.path}]", "",
    "Arguments:",
    s!"  [{description.path}]  {description.pathPurpose}", "",
    "Options:"] ++ switches.map fun switch =>
      s!"  {column width switch.usage}  {switch.purpose}")

end SchemaNodes.Command
