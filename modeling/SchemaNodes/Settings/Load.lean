import SchemaNodes.Settings.Decode
import SchemaNodes.Settings.KeyPath
import SchemaNodes.Settings.Source

/-!
# Loading settings

The settings of all sources, one after the other: three files beside the current directory, the file
of the user, a file that is named, and the environment. A later source counts more than an earlier
one.
-/

namespace SchemaNodes.Settings

variable {m : Type → Type} [Monad m]

/-- The name of the files with settings. -/
def fileName : String := "schema-builder.toml"

/-- The directory where the user keeps settings, if it is known. -/
def userDirectory? (host : Host m) : Option String :=
  match (host.env? "XDG_CONFIG_HOME").filter FilePath.isAbsolute with
  | some directory => some directory
  | none => ((host.env? "HOME").filter (· ≠ "")).map (FilePath.join · ".config")

/-- The file of the user, if it is there. -/
def userSource (host : Host m) : m (List FileSource) := do
  match userDirectory? host with
  | none => return []
  | some directory =>
    let path := FilePath.join (FilePath.join directory "schema-builder") fileName
    return if (← host.kind path) = .missing then [] else [⟨path, false⟩]

/-- The files with settings, where one may be named. -/
def fileSources (host : Host m) (named? : Option String) : m (List FileSource) := do
  let beside := [fileName, "." ++ fileName, "config/" ++ fileName].map fun name => ⟨name, false⟩
  let user ← userSource host
  return beside ++ user ++ (named?.map fun name => ⟨name, true⟩).toList

/-- Merges the settings of sources into a tree. -/
def mergeSources (host : Host m) : List FileSource → Setting → m (Except SettingsError Setting)
  | [], tree => return .ok tree
  | source :: rest, tree => do
    match ← source.settings host with
    | .error error => return .error error
    | .ok members => mergeSources host rest (tree.mergeSource members)

/-- Loads the settings, where a file may be named. -/
def load (host : Host m) (named? : Option String) : m (Except SettingsError Settings) := do
  match ← mergeSources host (← fileSources host named?) .emptyTable with
  | .error error => return .error error
  | .ok tree => return decode (tree.mergeSource (EnvironmentSource.settings host.environment))

end SchemaNodes.Settings
