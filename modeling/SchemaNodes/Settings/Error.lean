import SchemaNodes.Text.Quoted

/-!
# Errors in settings
-/

namespace SchemaNodes

/-- Why settings cannot be loaded. -/
inductive SettingsError where
  /-- A setting has a value that does not stand for one of its type. The key leads to the setting.
  -/
  | wrongType (found expected key : String) (origin? : Option String)
  /-- A group of settings is no group. -/
  | wrongForm (found expected : String)
  /-- The name of a choice is unknown. -/
  | unknownChoice (choice name : String)
  /-- A choice is not made by a name. -/
  | noChoice (choice : String)
  /-- There is no file for a name. -/
  | fileNotFound (name : String)
  /-- The extension of a file tells no format. -/
  | unknownFormat (path : String)
  /-- A file is not in its format. -/
  | malformedFile (path : String)
  deriving DecidableEq, Repr, Inhabited

namespace SettingsError

/-- A step of the key puts itself in front of the rest of it. -/
def inside (step : String → String) : SettingsError → SettingsError
  | .wrongType found expected key origin? => .wrongType found expected (step key) origin?
  | error => error

/-- The key of a setting in a group. -/
def memberKey (name rest : String) : String :=
  if rest = "" || rest.toList.head? = some '[' then name ++ rest else name ++ "." ++ rest

/-- The key of an item of a list. -/
def itemKey (index : Nat) (rest : String) : String := s!"[{index}]" ++ rest

/-- The words of an error. -/
def message : SettingsError → String
  | .wrongType found expected key origin? =>
    let place := (origin?.map fun origin => s!" in {origin}").getD ""
    s!"invalid type: {found}, expected {expected} for key `{key}`{place}"
  | .wrongForm found expected => s!"invalid type: {found}, expected {expected}"
  | .unknownChoice choice name => s!"enum {choice} does not have variant constructor {name}"
  | .noChoice choice =>
    s!"value of enum {choice} should be represented by either string or table with exactly one key"
  | .fileNotFound name => s!"configuration file \"{name}\" not found"
  | .unknownFormat path =>
    s!"configuration file \"{path}\" is not of a registered file format"
  | .malformedFile path => s!"malformed settings in {path}"

end SettingsError

end SchemaNodes
