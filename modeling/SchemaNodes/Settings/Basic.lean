import SchemaNodes.FilePath
import SchemaNodes.Json.Writer
import SchemaNodes.Naming.Settings

/-!
# Settings

What can be chosen about a run: the schema, the callable names, linting, and the form of the output.
-/

namespace SchemaNodes

/-- Which schema is meant, and under which label it is compiled. -/
structure SchemaSettings where
  path? : Option String
  label? : Option String
  deriving DecidableEq

/-- How findings about schemas are dealt with. -/
structure LintSettings where
  /-- Whether a schema is linted before it is compiled. -/
  enabled : Bool
  /-- Whether warnings make a lint run fail. -/
  denyWarnings : Bool
  deriving DecidableEq, Repr

/-- The choices about a run. -/
structure Settings where
  schema : SchemaSettings
  naming : NamingSettings
  lint : LintSettings
  format : OutputFormat
  deriving DecidableEq

namespace SchemaSettings

/-- No schema is chosen. -/
def default : SchemaSettings := ⟨none, none⟩

instance : Inhabited SchemaSettings := ⟨default⟩

end SchemaSettings

namespace LintSettings

/-- Schemas are linted, and warnings do no harm. -/
def default : LintSettings := ⟨true, false⟩

instance : Inhabited LintSettings := ⟨default⟩

end LintSettings

namespace Settings

/-- The settings where nothing is chosen. -/
def default : Settings := ⟨.default, .default, .default, .pretty⟩

instance : Inhabited Settings := ⟨default⟩

/-- The path of the schema, seen from a directory. -/
def schemaPath? (settings : Settings) (directory : String) : Option String :=
  settings.schema.path?.map (FilePath.join directory)

end Settings

end SchemaNodes
