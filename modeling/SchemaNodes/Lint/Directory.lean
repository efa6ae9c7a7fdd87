import SchemaNodes.Lint.Basic
import SchemaNodes.Schema.Load

/-!
# Linting directories

Lints every schema file of a tree: depth first, and the entries of each directory in the order of
their names. A file that is no schema file, or that cannot be read as a schema, is passed over, and
only results with warnings are reported.
-/

namespace SchemaNodes

open Naming (Inflector)

/-- Lints the content of a schema file, which is reported under a name if there is something to
report. -/
def lintFile? (inflector : Inflector) (path id : String) (content : ByteArray) :
    Option LintResult := do
  let format ← SchemaFormat.ofPath? path
  let document ← (Document.ofBytes format content).toOption
  let result := document.lint inflector id
  if result.hasWarnings then some result else none

/-- The path behind another path along names. -/
def pathAlong (path : String) (names : List String) : String := names.foldl FilePath.join path

/-- Lints the schema files of the tree that a path leads to, each under its path from there. -/
def lintTree (inflector : Inflector) (path : String) (tree : FileTree) : List LintResult :=
  tree.files.filterMap fun (names, content) =>
    lintFile? inflector (pathAlong path names) ("/".intercalate names) content

/-- Lints the schema files below a path; there are none where the path leads nowhere. -/
def lintDirectory {m : Type → Type} [Monad m] (host : Host m) (inflector : Inflector)
    (path : String) : m (List LintResult) := do
  match ← host.tree? path with
  | none => return []
  | some tree => return lintTree inflector path tree

end SchemaNodes
