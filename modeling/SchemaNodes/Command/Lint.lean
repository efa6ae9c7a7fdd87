import SchemaNodes.Command.Output
import SchemaNodes.Lint.Directory
import SchemaNodes.Settings.Load

/-!
# Linting schemas

The command that lints a schema file, or all schema files of a directory. Warnings make it fail only
if they are denied.
-/

namespace SchemaNodes.Command.Lint

open Naming (Inflector)

variable {m : Type → Type} [Monad m]

/-! ## Arguments -/

/-- What the command tells about itself. -/
def description : Description where
  name := "schema-lint"
  purpose := "Lint type schemas for unknown references and shadowed aliases"
  path := "PATH"
  pathPurpose := "Schema file or directory; defaults to [schema].path from config"

/-- The switches of the command. -/
def switches : List Switch := [
  ⟨"config", some 'c', some "CONFIG", "Config file layered over the default locations"⟩,
  ⟨"deny-warnings", none, none, "Fail on any warning"⟩]

/-! ## Reports -/

/-- The lines of a result. -/
def resultLines (result : LintResult) : List String :=
  result.id :: result.warnings.map fun warning => "  " ++ warningLine warning

/-- The number of all warnings. -/
def total (results : List LintResult) : Nat := (results.flatMap fun r => r.warnings).length

/-- The lines of results. -/
def reportLines (results : List LintResult) : List String :=
  if results.isEmpty then ["✅ No lint warnings"]
  else results.flatMap resultLines ++
    ["", s!"{total results} warning(s) in {results.length} schema(s)"]

/-- The output on results, which are those with warnings: `deny` says whether these are denied. -/
def report (deny : Bool) (heading : List String) (results : List LintResult) : Output :=
  ⟨if deny && !results.isEmpty then 1 else 0, unlines (heading ++ reportLines results), ""⟩

/-! ## Running -/

/-- The heading above the results of a directory. -/
def directoryHeading (path : String) : List String := [s!"🔍 Linting schemas in {path}"]

/-- Lints what a path leads to. -/
def lintPath (host : Host m) (inflector : Inflector) (deny : Bool) (path : String) : m Output := do
  if (← host.kind path) = .directory then
    return report deny (directoryHeading path) (← lintDirectory host inflector path)
  else
    match ← Document.load host path with
    | .error error => return .failure 2 s!"loading schema {path}: {error.chain}"
    | .ok document =>
      return report deny [] ([document.lint inflector path].filter (·.hasWarnings))

/-- Runs the command on arguments that have been read. -/
def runWith (host : Host m) (arguments : Arguments) : m Output := do
  match ← Settings.load host (arguments.value? "config") with
  | .error error => return .failure 2 s!"loading config: {error.message}"
  | .ok settings =>
    let deny := arguments.has "deny-warnings" || settings.lint.denyWarnings
    match arguments.path?.or (settings.schemaPath? host.directory) with
    | none => return .failure 2 "no path given and [schema].path is not configured"
    | some path => lintPath host (.ofSettings settings.naming) deny path

/-- Runs the command. -/
def run (host : Host m) (texts : List String) : m Output := do
  match readArguments switches texts with
  | .help => return ⟨0, description.help switches, ""⟩
  | .refused error => return .refused error
  | .arguments arguments => runWith host arguments

end SchemaNodes.Command.Lint
