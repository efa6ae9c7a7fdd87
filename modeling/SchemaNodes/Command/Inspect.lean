import SchemaNodes.Command.Output
import SchemaNodes.Naming.Suggestion
import SchemaNodes.Registry.Compile
import SchemaNodes.Schema.Load
import SchemaNodes.Settings.Load

/-!
# Inspecting a schema

The command that compiles a schema and lists its kinds with all callable names, as text or as JSON.
Warnings about the schema go to the error output first, whatever comes of compiling it.
-/

namespace SchemaNodes.Command.Inspect

variable {m : Type → Type} [Monad m]

/-! ## Arguments -/

/-- What the command tells about itself. -/
def description : Description where
  name := "schema-inspect"
  purpose := "Compile a type schema and list its builder accessors"
  path := "SCHEMA"
  pathPurpose := "Schema file (.yaml, .yml or .json); defaults to [schema].path from config"

/-- The switches of the command. -/
def switches : List Switch := [
  ⟨"config", some 'c', some "CONFIG", "Config file layered over the default locations"⟩,
  ⟨"namespace", some 'n', some "NAMESPACE", "Namespace label for the compiled registry"⟩,
  ⟨"type", some 't', some "TYPE_NAME", "Only show this type"⟩,
  ⟨"json", none, none, "Emit JSON instead of text"⟩,
  ⟨"compact", none, none, "Compact JSON output"⟩,
  ⟨"no-lint", none, none, "Skip the lint pass"⟩]

/-- The settings with what the arguments choose in their place. -/
def adjust (arguments : Arguments) (settings : Settings) : Settings :=
  let label? := (arguments.value? "namespace").or settings.schema.label?
  { settings with
    schema := { settings.schema with label? := label? }
    format := if arguments.has "compact" then .compact else settings.format }

/-! ## Reports -/

/-- The shape of the values of an attribute. -/
def shape (registry : Registry) (attr : Attribute) : String :=
  let target := (registry.kind attr.target).name
  if attr.isList then s!"[{target}]" else target

/-- The line of an attribute. -/
def attributeLine (registry : Registry) (kind : Kind) (attr : Attribute) : String :=
  let names := ", ".intercalate (kind.accessors.namesFor attr.name)
  s!"  {column 24 attr.name} {column 24 (shape registry attr)} {names}"

/-- The lines of a kind. -/
def kindLines (registry : Registry) (kind : Kind) : List String :=
  match kind.primitive? with
  | some primitive => [s!"{kind.name} = {primitive}"]
  | none => kind.name :: kind.attributes.map (attributeLine registry kind)

/-- The report on kinds as text. -/
def textReport (registry : Registry) (kinds : List Kind) : String :=
  unlines (
    s!"📦 {registry.size} kinds (fingerprint {registry.fingerprint.short})" ::
    (registry.label?.map fun label => s!"  Namespace: {label}").toList ++
    "" :: kinds.flatMap (kindLines registry))

/-- An attribute as JSON. -/
def attributeJson (registry : Registry) (kind : Kind) (attr : Attribute) : Json :=
  .ofEntries [
    ("type", .string (registry.kind attr.target).name),
    ("list", .bool attr.isList),
    ("accessors", .array ((kind.accessors.namesFor attr.name).map .string))]

/-- A kind as JSON. -/
def kindJson (registry : Registry) (kind : Kind) : Json :=
  match kind.primitive? with
  | some primitive => .ofEntries [("primitive", .string primitive)]
  | none => .ofEntries [("attributes", .ofEntries (kind.attributes.map fun attr =>
      (attr.name, attributeJson registry kind attr)))]

/-- The report on kinds as JSON. -/
def jsonReport (registry : Registry) (kinds : List Kind) : Json :=
  .ofEntries [
    ("namespace", (registry.label?.map Json.string).getD .null),
    ("fingerprint", .string registry.fingerprint.hex),
    ("kinds", .ofEntries (kinds.map fun kind => (kind.name, kindJson registry kind)))]

/-- The kinds that are asked for: one of them, or all. -/
def chosenKinds (registry : Registry) : (type? : Option String) → Except BuildError (List Kind)
  | none => .ok registry.kinds
  | some type => match registry.lookup? type with
    | some kind => .ok [kind]
    | none => .error (.unknownType type (Naming.suggest type (registry.kinds.map (·.name))))

/-- The report that is asked for. -/
def report (arguments : Arguments) (format : OutputFormat) (registry : Registry)
    (kinds : List Kind) : String :=
  if arguments.has "json" then format.render (jsonReport registry kinds) ++ "\n"
  else textReport registry kinds

/-! ## Running -/

/-- The warnings that are shown. -/
def warnings (arguments : Arguments) (settings : Settings) (path : String) (document : Document) :
    List LintWarning :=
  if settings.lint.enabled && !arguments.has "no-lint" then
    (document.lint (.ofSettings settings.naming) path).warnings
  else []

/-- Compiles a document and reports what is asked for. -/
def compile (arguments : Arguments) (settings : Settings) (document : Document) :
    Except BuildError String := do
  let registry ← Registry.compile document.types settings.naming settings.schema.label? 0
  let kinds ← chosenKinds registry (arguments.value? "type")
  return report arguments settings.format registry kinds

/-- Inspects a document that has been loaded from a path. -/
def inspect (arguments : Arguments) (settings : Settings) (path : String) (document : Document) :
    Output :=
  let shown := unlines ((warnings arguments settings path document).map warningLine)
  match compile arguments settings document with
  | .ok text => ⟨0, text, shown⟩
  | .error error =>
    let failed := Output.failure 1 error.message
    { failed with stderr := shown ++ failed.stderr }

/-- Runs the command on arguments that have been read. -/
def runWith (host : Host m) (arguments : Arguments) : m Output := do
  match ← Settings.load host (arguments.value? "config") with
  | .error error => return .failure 1 s!"loading config: {error.message}"
  | .ok settings =>
    let settings := adjust arguments settings
    match arguments.path?.or (settings.schemaPath? host.directory) with
    | none => return .failure 1 "no schema given and [schema].path is not configured"
    | some path =>
      match ← Document.load host path with
      | .error error => return .failure 1 s!"loading schema {path}: {error.chain}"
      | .ok document => return inspect arguments settings path document

/-- Runs the command. -/
def run (host : Host m) (texts : List String) : m Output := do
  match readArguments switches texts with
  | .help => return ⟨0, description.help switches, ""⟩
  | .refused error => return .refused error
  | .arguments arguments => runWith host arguments

end SchemaNodes.Command.Inspect
