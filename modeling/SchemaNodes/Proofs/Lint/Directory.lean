import SchemaNodes.Lint.Directory
import SchemaNodes.Proofs.Chain
import SchemaNodes.Proofs.Files.Tree

/-!
# What linting a directory reports

Whether a file is reported depends on that file alone: on the extension of its own name, on its text
and on the findings about the document there. The other entries can neither hide it nor add to it,
and the results come in the order of the walk.

* **`SchemaFormat.HasExtension`**, **`ofPath?_pathAlong`**: which files are schema files.
* **`lintFile?_eq_some_iff`**: when a file is reported.
* **`Reports`**, **`reported`**: what is to be reported of a tree, and what is.
* **`mem_reported_iff`**, **`pairwise_reported`**: the two are the same, in order.
-/

namespace SchemaNodes

open Naming (Inflector)
open FileTree (Precedes)

/-! ## Schema files -/

/-- The extensions that schema files of a format can have. -/
inductive SchemaFormat.HasExtension : SchemaFormat → String → Prop
  | yaml : HasExtension .yaml "yaml"
  | yml : HasExtension .yaml "yml"
  | json : HasExtension .json "json"

theorem SchemaFormat.ofPath?_eq_some_iff {path : String} {format : SchemaFormat} :
    ofPath? path = some format ↔
      ∃ extension, FilePath.extension? path = some extension ∧ format.HasExtension extension := by
  rw [ofPath?]
  constructor
  · intro h
    split at h
    · next hextension => exact ⟨_, hextension, Option.some.inj h ▸ .yaml⟩
    · next hextension => exact ⟨_, hextension, Option.some.inj h ▸ .yml⟩
    · next hextension => exact ⟨_, hextension, Option.some.inj h ▸ .json⟩
    · cases h
  · rintro ⟨extension, hextension, hformat⟩
    rw [hextension]
    cases hformat with
    | yaml => rfl
    | yml => rfl
    | json => rfl

theorem pathAlong_concat (path : String) (front : List String) (name : String) :
    pathAlong path (front ++ [name]) = FilePath.join (pathAlong path front) name := by
  rw [pathAlong, pathAlong, List.foldl_concat]

/-- A file has the format of its own name, wherever it lies. -/
theorem SchemaFormat.ofPath?_pathAlong {name : String} (h : FilePath.IsEntryName name)
    (path : String) (front : List String) :
    ofPath? (pathAlong path (front ++ [name])) = ofPath? name := by
  rw [pathAlong_concat, ofPath?, ofPath?, FilePath.extension?_join h]

/-! ## One file -/

theorem fromUTF8?_eq_some_iff {content : ByteArray} {text : String} :
    String.fromUTF8? content = some text ↔ content = text.toUTF8 := by
  rw [String.fromUTF8?]
  constructor
  · intro h
    split at h
    · exact congrArg String.toUTF8 (Option.some.inj h)
    · cases h
  · rintro rfl
    exact dif_pos text.isValidUTF8

/-- A content that can be read is a text in UTF-8. -/
theorem Document.ofBytes_eq_ok_iff {format : SchemaFormat} {content : ByteArray}
    {document : Document} : ofBytes format content = .ok document ↔
      ∃ text, content = text.toUTF8 ∧ ofText format text = .ok document := by
  rw [ofBytes]
  constructor
  · intro h
    split at h
    · cases h
    · next text htext => exact ⟨text, fromUTF8?_eq_some_iff.1 htext, h⟩
  · rintro ⟨text, htext, h⟩
    rw [fromUTF8?_eq_some_iff.2 htext]
    exact h

variable {inflector : Inflector} {path : String} {result : LintResult}

theorem LintResult.hasWarnings_iff : result.hasWarnings = true ↔ result.warnings ≠ [] := by
  simp [hasWarnings, isClean]

/-- A file is reported if it is a schema file, holds a document, and there are warnings. -/
theorem lintFile?_eq_some_iff {id : String} {content : ByteArray} :
    lintFile? inflector path id content = some result ↔
      ∃ format document, SchemaFormat.ofPath? path = some format ∧
        Document.ofBytes format content = .ok document ∧
        result = document.lint inflector id ∧ result.warnings ≠ [] := by
  simp only [lintFile?, Option.bind_eq_bind, Option.bind_eq_some_iff]
  constructor
  · rintro ⟨format, hformat, document, hdocument, hresult⟩
    split at hresult
    · next hwarnings =>
      obtain rfl := Option.some.inj hresult
      exact ⟨format, document, hformat, toOption_eq_some_iff.1 hdocument, rfl,
        LintResult.hasWarnings_iff.1 hwarnings⟩
    · cases hresult
  · rintro ⟨format, document, hformat, hdocument, rfl, hwarnings⟩
    refine ⟨format, hformat, document, toOption_eq_some_iff.2 hdocument, ?_⟩
    rw [if_pos (LintResult.hasWarnings_iff.2 hwarnings)]

/-! ## A tree -/

/-- Names lead to a schema file of the tree whose text is a document with warnings, and the result
is what linting this document gives under the path of these names. -/
def Reports (inflector : Inflector) (tree : FileTree) (names : List String) (result : LintResult) :
    Prop :=
  ∃ front name extension format text document,
    names = front ++ [name] ∧ FilePath.extension? name = some extension ∧
    SchemaFormat.HasExtension format extension ∧ tree.HasFile names text.toUTF8 ∧
    Document.ofText format text = .ok document ∧
    result = document.lint inflector ("/".intercalate names) ∧ result.warnings ≠ []

/-- The results of linting a tree, each with the names that lead to its file. -/
def reported (inflector : Inflector) (path : String) (tree : FileTree) :
    List (List String × LintResult) :=
  tree.files.filterMap fun (names, content) =>
    (lintFile? inflector (pathAlong path names) ("/".intercalate names) content).map (names, ·)

theorem map_reported (inflector : Inflector) (path : String) (tree : FileTree) :
    (reported inflector path tree).map (·.2) = lintTree inflector path tree := by
  rw [reported, lintTree, List.map_filterMap]
  congr 1
  funext file
  rw [Option.map_map]
  exact Option.map_id'

variable {entries : List (String × FileTree)}

/-- What is reported of a directory is just what is to be reported. -/
theorem mem_reported_iff (hwf : (FileTree.directory entries).WellFormed) {names : List String} :
    (names, result) ∈ reported inflector path (.directory entries) ↔
      Reports inflector (.directory entries) names result := by
  rw [reported, List.mem_filterMap]
  constructor
  · rintro ⟨⟨names, content⟩, hfile, hresult⟩
    obtain ⟨_, hlint, ⟨⟩⟩ := Option.map_eq_some_iff.1 hresult
    obtain ⟨format, document, hformat, hdocument, hlinted, hwarnings⟩ :=
      lintFile?_eq_some_iff.1 hlint
    have hhas := FileTree.mem_files_iff.1 hfile
    -- the way ends in the file's own name, and that has the extension
    obtain ⟨front, name, rfl⟩ := hhas.exists_last
    have hname := hhas.isEntryName hwf name List.mem_concat_self
    rw [SchemaFormat.ofPath?_pathAlong hname] at hformat
    obtain ⟨extension, hextension, hhasExtension⟩ := SchemaFormat.ofPath?_eq_some_iff.1 hformat
    obtain ⟨text, rfl, htext⟩ := Document.ofBytes_eq_ok_iff.1 hdocument
    exact ⟨front, name, extension, format, text, document, rfl, hextension, hhasExtension, hhas,
      htext, hlinted, hwarnings⟩
  · rintro ⟨front, name, extension, format, text, document, rfl, hextension, hhasExtension, hhas,
      htext, hlinted, hwarnings⟩
    have hname := hhas.isEntryName hwf name List.mem_concat_self
    have hformat : SchemaFormat.ofPath? (pathAlong path (front ++ [name])) = some format := by
      rw [SchemaFormat.ofPath?_pathAlong hname]
      exact SchemaFormat.ofPath?_eq_some_iff.2 ⟨extension, hextension, hhasExtension⟩
    have hdocument := Document.ofBytes_eq_ok_iff.2 ⟨text, rfl, htext⟩
    have hlint := lintFile?_eq_some_iff.2 ⟨format, document, hformat, hdocument, hlinted, hwarnings⟩
    exact ⟨_, FileTree.mem_files_iff.2 hhas, Option.map_eq_some_iff.2 ⟨result, hlint, rfl⟩⟩

theorem pairwise_reported {tree : FileTree} (hwf : tree.WellFormed) :
    (reported inflector path tree).Pairwise fun a b => Precedes a.1 b.1 := by
  refine (FileTree.pairwise_files hwf).filterMap _ fun a b h ra hra rb hrb => ?_
  obtain ⟨_, -, rfl⟩ := Option.map_eq_some_iff.1 hra
  obtain ⟨_, -, rfl⟩ := Option.map_eq_some_iff.1 hrb
  exact h

/-- There is something to report if there is a file of which to report it. -/
theorem lintTree_ne_nil_iff (hwf : (FileTree.directory entries).WellFormed) :
    lintTree inflector path (.directory entries) ≠ [] ↔
      ∃ names result, Reports inflector (.directory entries) names result := by
  rw [← map_reported, ne_eq, List.map_eq_nil_iff]
  constructor
  · intro hne
    obtain ⟨⟨names, result⟩, hmem⟩ := List.exists_mem_of_ne_nil _ hne
    exact ⟨names, result, (mem_reported_iff hwf).1 hmem⟩
  · rintro ⟨names, result, h⟩
    exact List.ne_nil_of_mem ((mem_reported_iff hwf).2 h)

end SchemaNodes
