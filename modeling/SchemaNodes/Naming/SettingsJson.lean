import SchemaNodes.Json.Decode
import SchemaNodes.Naming.Settings

/-!
# Naming settings from JSON

Naming settings are an object, of which only the known keys count, or an array of the settings in
their order. What is missing has its default.
-/

namespace SchemaNodes.NamingSettings

/-- Takes a member of an object of settings into account. -/
def decodeMember (settings : NamingSettings) (member : String × Json) :
    Except String NamingSettings :=
  match member.1 with
  | "case_aliases" => do return { settings with caseAliases := ← Json.decodeBool member.2 }
  | "uncountable" => do return { settings with uncountable := ← Json.decodeTexts member.2 }
  | "irregular" => do return { settings with irregular := ← Json.decodeTextDict member.2 }
  | _ => .ok settings

/-- The names of the settings in the order in which an array gives them. -/
def positions : List String := ["case_aliases", "uncountable", "irregular"]

/-- Decodes naming settings. -/
def decode : Json.Decode NamingSettings
  | .object members => members.foldlM decodeMember .default
  | .array items => do
    let settings ← (positions.zip items).foldlM decodeMember .default
    if positions.length < items.length then
      .error s!"invalid length {items.length}, expected fewer elements in array"
    else return settings
  | other => Json.mismatch other "struct NamingConfig"

end SchemaNodes.NamingSettings
