import SchemaNodes.FilePath

/-!
# Schema file formats
-/

namespace SchemaNodes

/-- The format of a schema file. -/
inductive SchemaFormat where
  | yaml
  | json
  deriving DecidableEq, Repr, Inhabited

namespace SchemaFormat

/-- The name of the format. -/
def name : SchemaFormat → String
  | .yaml => "yaml"
  | .json => "json"

/-- The format that a file has by its extension. -/
def ofPath? (path : String) : Option SchemaFormat :=
  match FilePath.extension? path with
  | some "yaml" | some "yml" => some .yaml
  | some "json" => some .json
  | _ => none

end SchemaFormat

end SchemaNodes
