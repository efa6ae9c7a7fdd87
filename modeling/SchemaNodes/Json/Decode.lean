import SchemaNodes.Json.Reader

/-!
# Decoding JSON values

Takes a value to the type that is wanted, or says what it is instead. Objects are decoded in the
order of their keys.
-/

namespace SchemaNodes.Json

/-- Decoding fails with a message. -/
abbrev Decode (α : Type) := Json → Except String α

/-- The message about a value of the wrong kind. -/
def mismatch {α : Type} (found : Json) (expected : String) : Except String α :=
  .error s!"invalid type: {describe found}, expected {expected}"

/-- Decodes a truth value. -/
def decodeBool : Decode Bool
  | .bool value => .ok value
  | other => mismatch other "a boolean"

/-- Decodes a text. -/
def decodeText : Decode String
  | .string value => .ok value
  | other => mismatch other "a string"

/-- Decodes an array of texts. -/
def decodeTexts : Decode (List String)
  | .array items => items.mapM decodeText
  | other => mismatch other "a sequence"

/-- Decodes an object of texts. -/
def decodeTextDict : Decode (Dict String)
  | .object members => do
    let entries ← members.mapM fun (name, value) => do return (name, ← decodeText value)
    return .ofList entries
  | other => mismatch other "a map"

end SchemaNodes.Json

namespace SchemaNodes.OutputFormat

/-- The format of a name. -/
def ofName (name : String) : Except String OutputFormat :=
  match name with
  | "pretty" => .ok .pretty
  | "compact" => .ok .compact
  | _ => .error s!"unknown variant `{name}`, expected `pretty` or `compact`"

/-- Decodes a format: its name, or an object with its name as the only key and nothing under it. -/
def decode : Json.Decode OutputFormat
  | .string name => ofName name
  | .object [(name, value)] => do
    let format ← ofName name
    match value with
    | .null => return format
    | other => Json.mismatch other "unit"
  | .object _ => .error "invalid value: map, expected map with a single key"
  | other => Json.mismatch other "string or map"

end SchemaNodes.OutputFormat
