import SchemaNodes.Files.Basic
import SchemaNodes.Schema.Format
import SchemaNodes.Schema.JsonText
import SchemaNodes.Schema.YamlText

/-!
# Loading schema documents

Reads a schema document from a text in either format, or from the file that a path leads to; the
extension of the path tells the format, before the file is looked at.
-/

namespace SchemaNodes

/-- Why a schema document cannot be loaded. -/
inductive LoadError where
  /-- The extension of the path tells no format. -/
  | unknownFormat (path : String)
  /-- The file cannot be read. -/
  | file (error : FileError)
  /-- The text is no schema in JSON. -/
  | json (error : Json.ReadError)
  /-- The text is no schema in YAML; it may be well formed all the same. -/
  | yaml (error : Yaml.ReadError) (wellFormed : Bool)
  deriving DecidableEq, Repr, Inhabited

namespace LoadError

/-- The words of the cause below an error, if it has one. -/
def cause? : LoadError → Option String
  | .unknownFormat _ => none
  | .file error => some error.message
  | .json error => some error.message
  | .yaml error _ => some error.message

/-- The words of an error. -/
def message : LoadError → String
  | .unknownFormat path =>
    s!"Invalid schema format: {path}: expected a .yaml, .yml or .json schema file"
  | .file error => s!"IO error: {error.message}"
  | .json error => s!"JSON error: {error.message}"
  | .yaml error _ => s!"YAML error: {error.message}"

/-- The words of an error, followed by those of its cause. -/
def chain (error : LoadError) : String :=
  error.message ++ ((error.cause?.map fun cause => ": " ++ cause).getD "")

end LoadError

/-- Reads a document from a text in a format. -/
def Document.ofText (format : SchemaFormat) (text : String) : Except LoadError Document :=
  match format with
  | .yaml => (Document.ofYamlText text).mapError fun error =>
    .yaml error (Yaml.Document.ofText text).isWellFormed
  | .json => (Document.ofJsonText text).mapError .json

/-- Reads a document from the content of a file in a format. -/
def Document.ofBytes (format : SchemaFormat) (content : ByteArray) : Except LoadError Document :=
  match String.fromUTF8? content with
  | none => .error (.file .notText)
  | some text => Document.ofText format text

/-- Loads the document that a path leads to. -/
def Document.load {m : Type → Type} [Monad m] (host : Host m) (path : String) :
    m (Except LoadError Document) := do
  match SchemaFormat.ofPath? path with
  | none => return .error (.unknownFormat path)
  | some format =>
    match ← host.read path with
    | .error error => return .error (.file error)
    | .ok content => return Document.ofBytes format content

end SchemaNodes
