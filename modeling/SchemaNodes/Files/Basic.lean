import SchemaNodes.FilePath

/-!
# Files

What a file system holds, what can go wrong on the way to it, and how a computation asks for it: the
trees are plain data, so a computation over files can be run on a tree as well as on a disk.
-/

namespace SchemaNodes

/-- Why a file cannot be read as text. -/
inductive FileError where
  | notFound
  | isDirectory
  | notADirectory
  | notText
  deriving DecidableEq, Repr, Inhabited

/-- The words of a file error. -/
def FileError.message : FileError → String
  | .notFound => "No such file or directory (os error 2)"
  | .isDirectory => "Is a directory (os error 21)"
  | .notADirectory => "Not a directory (os error 20)"
  | .notText => "stream did not contain valid UTF-8"

/-- What a path leads to. -/
inductive FileKind where
  | missing
  | file
  | directory
  deriving DecidableEq, Repr, Inhabited

/-- A file with its content, or a directory with its named entries in no particular order. -/
inductive FileTree where
  | file (content : ByteArray)
  | directory (entries : List (String × FileTree))
  deriving Inhabited

namespace FileTree

/-- What a tree is at its top. -/
def kind : FileTree → FileKind
  | .file _ => .file
  | .directory _ => .directory

/-- The entry of a directory under a name. -/
def entry? (name : String) : List (String × FileTree) → Option FileTree
  | [] => none
  | (other, tree) :: rest => if other = name then some tree else entry? name rest

/-- Values under names in the order of the names. -/
def inNameOrder {α : Type} (named : List (String × α)) : List (String × α) :=
  named.mergeSort fun a b => a.1 ≤ b.1

/-- The names that lead to what lies below an entry, from the entry's own name on. -/
def under {α : Type} (named : String × List (List String × α)) : List (List String × α) :=
  named.2.map fun (names, content) => (named.1 :: names, content)

mutual

/-- The files of a tree, each with the names that lead to it: depth first, and the entries of each
directory in the order of their names. -/
def files : FileTree → List (List String × ByteArray)
  | .file content => [([], content)]
  | .directory entries => (inNameOrder (entryFiles entries)).flatMap under

/-- The files of the entries of a directory, under the names of the entries. -/
def entryFiles : List (String × FileTree) → List (String × List (List String × ByteArray))
  | [] => []
  | (name, tree) :: rest => (name, tree.files) :: entryFiles rest

end

end FileTree

/-- What a computation can learn about the system it runs on. -/
structure Host (m : Type → Type) where
  /-- The absolute path of the current directory. -/
  directory : String
  /-- The environment variables. -/
  environment : List (String × String)
  /-- What a path leads to. -/
  kind : String → m FileKind
  /-- The content of the file that a path leads to. -/
  read : String → m (Except FileError ByteArray)
  /-- The tree that a path leads to, if it leads to one. -/
  tree? : String → m (Option FileTree)

namespace Host

variable {m : Type → Type}

/-- The value of an environment variable. -/
def env? (host : Host m) (name : String) : Option String :=
  (host.environment.find? fun entry => entry.1 = name).map (·.2)

/-- A path as an absolute path. -/
def absolute (host : Host m) (path : String) : String := FilePath.join host.directory path

end Host

end SchemaNodes
