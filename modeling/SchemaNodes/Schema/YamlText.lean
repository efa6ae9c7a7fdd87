import SchemaNodes.Schema.Basic
import SchemaNodes.Yaml.Reader

/-!
# Schema documents as YAML text

Reads a schema document from the first document of a text, which must be the only one. Names are the
texts of scalars of any kind; type definitions and resource uses are read whole and judged
afterwards. Other keys of the document are passed over.
-/

namespace SchemaNodes.Document

open Yaml (Tree Read ReadError)

/-- The parts of a document that have been read so far. -/
structure YamlParts where
  types? : Option Schema
  resources? : Option Resources

/-- Reads an entry of the root. -/
def yamlEntry (document : Yaml.Document) (depth : Nat) (parts : YamlParts)
    (entry : Tree × Tree) : Read YamlParts := do
  let field ← document.textOf "field identifier" .root entry.1
  let path := Yaml.Document.valuePath .root entry.1
  match field with
  | "Types" =>
    if parts.types?.isSome then Yaml.Document.unfit "duplicate field `Types`"
    else
      let types ←
        document.dict (document.judged "TypeDef" TypeDefinition.ofJson?) depth path entry.2
      return { parts with types? := some types }
  | "Resources" =>
    if parts.resources?.isSome then Yaml.Document.unfit "duplicate field `Resources`"
    else
      let use := document.judged "ResourceRef" ResourceUse.ofJson?
      let resources ← document.dict (document.dict (document.dict use)) depth path entry.2
      return { parts with resources? := some resources }
  | _ => do
    Yaml.Document.skipNode entry.2
    return parts

/-- Reads the root of a YAML document. -/
def ofYamlRoot (document : Yaml.Document) (root : Tree) : Read Document := do
  let node ← document.follow root
  Yaml.Document.placed node.mark .root (match node with
    | .scalar _ _ "" .plain => return ⟨.empty, .empty⟩
    | .mapping _ _ entries => do
      let parts ← entries.foldlM (yamlEntry document (Yaml.depthLimit - 1)) ⟨none, none⟩
      return ⟨parts.types?.getD .empty, parts.resources?.getD .empty⟩
    | other => Yaml.Document.unexpected other "struct SchemaDocument")

/-- Reads a schema document from YAML text; a text without any document is an empty schema. -/
def ofYamlText (text : String) : Except ReadError Document :=
  let document := Yaml.Document.ofText text
  let result : Except ReadError Document := match document.root? with
    | none => .ok ⟨.empty, .empty⟩
    | some root => ((ofYamlRoot document root).run 0).map Prod.fst
  match result with
  | .error error => .error error
  | .ok schema => if document.isWellFormed then .ok schema else .error .malformed

end SchemaNodes.Document
