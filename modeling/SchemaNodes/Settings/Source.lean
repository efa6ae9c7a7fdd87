import SchemaNodes.Files.Basic
import SchemaNodes.Json.Reader
import SchemaNodes.Number.Text
import SchemaNodes.Settings.Error
import SchemaNodes.Settings.Tree
import SchemaNodes.Text.Utf8
import SchemaNodes.Toml.Reader

/-!
# Sources of settings

Files in TOML or JSON, found by a name with or without its extension, and environment variables.

Settings can also be kept in YAML, INI, RON or JSON5. Those formats are not covered here: no file is
looked for under their extensions, and a file that is named with one of them counts as a file of an
unknown format. So what is said about settings holds where no file in those formats is in the way.
-/

namespace SchemaNodes

/-! ## The environment -/

namespace EnvironmentSource

/-- What the names of environment variables with settings begin with, in lower case. -/
def start : List Char := "schema_builder__".toList

/-- A name with a point for each pair of underscores. -/
def withPoints : List Char → List Char
  | '_' :: '_' :: rest => '.' :: withPoints rest
  | c :: rest => c :: withPoints rest
  | [] => []

/-- The key of the setting that an environment variable holds, if it holds one. -/
def key? (name : String) : Option String :=
  let chars := (Text.lowercase name).toList
  if start.isPrefixOf chars then some (String.ofList (withPoints (chars.drop start.length)))
  else none

/-- The setting of a text: a truth value, an integer or a float where it is written as one. -/
def valueOf (text : String) : SettingValue :=
  match Text.lowercase text with
  | "true" => .boolean true
  | "false" => .boolean false
  | _ => match readSigned? 64 10 text.toList with
    | some n => .integer n
    | none => match Binary64.ofText? text.toList with
      | some x => .float x
      | none => .text text

/-- The settings in environment variables. -/
def settings (environment : List (String × String)) : Entries Setting :=
  Entries.insertAll (environment.filterMap fun (name, text) =>
    (key? name).map fun key => (key, .leaf (some "the environment") (valueOf text))) []

end EnvironmentSource

/-! ## Files -/

/-- The format of a settings file, of the two that are covered. -/
inductive SettingsFormat where
  | toml
  | json
  deriving DecidableEq, Repr, Inhabited

namespace SettingsFormat

/-- The extension of the files in a format. -/
def extension : SettingsFormat → String
  | .toml => "toml"
  | .json => "json"

/-- The formats, in the order in which their extensions are tried. -/
def all : List SettingsFormat := [.toml, .json]

/-- The format that a file has by its extension. -/
def ofPath? (path : String) : Option SettingsFormat :=
  all.find? fun format => FilePath.extension? path = some format.extension

end SettingsFormat

/-- A file with settings, by its name; one that is not required may be missing. -/
structure FileSource where
  name : String
  required : Bool
  deriving DecidableEq, Repr, Inhabited

namespace FileSource

variable {m : Type → Type} [Monad m]

/-- The first of paths in their formats that leads to a file. -/
def firstFile (host : Host m) :
    List (String × SettingsFormat) → m (Option (String × SettingsFormat))
  | [] => return none
  | (path, format) :: rest => do
    if (← host.kind path) = .file then return some (path, format) else firstFile host rest

/-- The file that a source means: that of its name, else that of its name with an extension. -/
def find (host : Host m) (source : FileSource) :
    m (Except SettingsError (String × SettingsFormat)) := do
  let path := host.absolute source.name
  if (← host.kind path) = .file then
    match SettingsFormat.ofPath? path with
    | some format => return .ok (path, format)
    | none => return .error (.unknownFormat path)
  else
    let candidates := SettingsFormat.all.filterMap fun format =>
      (FilePath.appendExtension? path format.extension).map fun path => (path, format)
    match ← firstFile host candidates with
    | some found => return .ok found
    | none => return .error (.fileNotFound source.name)

/-- The settings of a text in a format; `origin` is the name of its file. -/
def parse (format : SettingsFormat) (origin text : String) :
    Except SettingsError (Entries Setting) :=
  match format with
  | .toml => match Toml.read text with
    | some members => .ok (Setting.ofTomlMembers (some origin) members)
    | none => .error (.malformedFile origin)
  | .json => match (Json.read text).map Json.canonical with
    | .ok (.object members) => .ok (Setting.ofJsonMembers (some origin) members)
    | _ => .error (.malformedFile origin)

/-- The settings of a source. -/
def settings (host : Host m) (source : FileSource) :
    m (Except SettingsError (Entries Setting)) := do
  let missing (error : SettingsError) : Except SettingsError (Entries Setting) :=
    if source.required then .error error else .ok []
  match ← source.find host with
  | .error error => return missing error
  | .ok (path, format) =>
    match ← host.read path with
    | .error _ => return missing (.fileNotFound source.name)
    | .ok content =>
      return parse format (FilePath.relativeTo host.directory path) (Text.ofBytes content)

end FileSource

end SchemaNodes
