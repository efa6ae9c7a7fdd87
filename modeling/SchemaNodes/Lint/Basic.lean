import SchemaNodes.Naming.Inflection
import SchemaNodes.Schema.Basic

/-!
# Linting schemas

Findings about a document that never stand in the way of compiling it. A type that is used and not
declared is reported for every use, first in the resources and then in the types; a list attribute
is reported when the name of another attribute of its type takes the place of its singular.
-/

namespace SchemaNodes

/-- What a warning is about. -/
inductive LintCode where
  | unknownType
  | shadowedAlias
  deriving DecidableEq, Repr, Inhabited

/-- The name of the code in reports. -/
def LintCode.name : LintCode → String
  | .unknownType => "UNKNOWN_TYPE"
  | .shadowedAlias => "SHADOWED_ALIAS"

/-- A finding. -/
inductive Finding where
  /-- A type is used that is not declared. -/
  | unknownType (type : String)
  /-- The singular of a list attribute is the name of another attribute. -/
  | shadowedAlias (attr singular : String)
  deriving DecidableEq, Repr, Inhabited

namespace Finding

/-- The code of a finding. -/
def code : Finding → LintCode
  | .unknownType _ => .unknownType
  | .shadowedAlias .. => .shadowedAlias

/-- The words of a finding. -/
def message : Finding → String
  | .unknownType type => s!"unknown type {type}"
  | .shadowedAlias attr singular =>
    s!"singular alias '{singular}' of list attribute '{attr}' is shadowed by attribute '{singular}'"

end Finding

/-- A finding with the path to what it is about. -/
structure LintWarning where
  path : String
  finding : Finding
  deriving DecidableEq, Repr, Inhabited

/-- The warnings about a document. -/
structure LintResult where
  /-- The name under which the document is reported. -/
  id : String
  warnings : List LintWarning
  deriving DecidableEq, Repr, Inhabited

namespace LintResult

/-- Whether there is nothing to report. -/
def isClean (result : LintResult) : Bool := result.warnings.isEmpty

/-- Whether there is something to report. -/
def hasWarnings (result : LintResult) : Bool := !result.isClean

/-- The warnings of a code. -/
def withCode (result : LintResult) (code : LintCode) : List LintWarning :=
  result.warnings.filter fun w => w.finding.code = code

end LintResult

namespace Document

/-- The warnings about uses of types under a path. -/
def lintUses (document : Document) (path : String) (types : List String) : List LintWarning :=
  (types.filter fun type => !document.types.contains type).map fun type =>
    ⟨path, .unknownType type⟩

/-- The warnings about the resources. -/
def lintResources (document : Document) : List LintWarning :=
  document.resources.entries.flatMap fun (resource, sections) =>
    sections.entries.flatMap fun (part, uses) =>
      uses.entries.flatMap fun (name, use) =>
        document.lintUses s!"Resources.{resource}.{part}.{name}" use.typeNames

/-- The warnings about the alias of an attribute among the attributes of its type. -/
def lintAlias (inflector : Naming.Inflector) (attributes : Entries AttributeType) (path : String)
    (attr : String × AttributeType) : List LintWarning :=
  let singular := inflector.singularize attr.1
  if attr.2.isList && singular ≠ attr.1 && (attributes.find? singular).isSome then
    [⟨path, .shadowedAlias attr.1 singular⟩]
  else []

/-- The warnings about the types. -/
def lintTypes (inflector : Naming.Inflector) (document : Document) : List LintWarning :=
  document.types.entries.flatMap fun (type, definition) =>
    definition.attributes.flatMap fun attr =>
      let path := s!"Types.{type}.{attr.1}"
      document.lintUses path [attr.2.typeName] ++
        lintAlias inflector definition.attributes path attr

/-- Lints a document, which is reported under a name. -/
def lint (inflector : Naming.Inflector) (id : String) (document : Document) : LintResult :=
  ⟨id, document.lintResources ++ lintTypes inflector document⟩

end Document

end SchemaNodes
