import SchemaNodes.Files.Basic

/-!
# File systems

A whole file system as a value: a tree, and a current directory in it. A path is followed piece by
piece; only a directory can be passed, also by an empty piece or a single point, and the directory
above the root is the root.
-/

namespace SchemaNodes

/-- A tree with the names that lead from its root to the current directory. -/
structure FileSystem where
  root : FileTree
  directory : List String

namespace FileSystem

/-- Where a path has led to: the tree there, behind it the trees passed on the way down. -/
abbrev Trail := List FileTree

/-- Follows a piece of a path. -/
def follow (trail : Trail) (piece : String) : Except FileError Trail :=
  match trail with
  | .directory entries :: above =>
    if piece = "" || piece = "." then .ok trail
    else if piece = ".." then .ok (if above.isEmpty then trail else above)
    else match FileTree.entry? piece entries with
      | none => .error .notFound
      | some tree => .ok (tree :: trail)
  | _ => .error .notADirectory

/-- The trail that a path leads along. -/
def trail (system : FileSystem) (path : String) : Except FileError Trail :=
  if path = "" then .error .notFound
  else do
    let start ← if FilePath.isAbsolute path then .ok [system.root]
      else system.directory.foldlM follow [system.root]
    ((FilePath.pieces path.toList).map String.ofList).foldlM follow start

/-- The tree that a path leads to. -/
def find (system : FileSystem) (path : String) : Except FileError FileTree := do
  match ← system.trail path with
  | tree :: _ => .ok tree
  | [] => .error .notFound

/-- What a path leads to. -/
def kind (system : FileSystem) (path : String) : FileKind :=
  match system.find path with
  | .ok tree => tree.kind
  | .error _ => .missing

/-- The content of the file that a path leads to. -/
def read (system : FileSystem) (path : String) : Except FileError ByteArray := do
  match ← system.find path with
  | .file content => .ok content
  | .directory _ => .error .isDirectory

/-- The file system, with environment variables, as a host. -/
def host (system : FileSystem) (environment : List (String × String)) : Host Id where
  directory := "/" ++ "/".intercalate system.directory
  environment := environment
  kind := system.kind
  read := system.read
  tree? path := (system.find path).toOption

end FileSystem

end SchemaNodes
