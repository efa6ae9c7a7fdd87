/-!
# File paths

Paths as texts, read the way a POSIX system reads them: components between slashes, where repeated
slashes count once and a component `.` counts only at the very beginning of a relative path.
-/

namespace SchemaNodes.FilePath

/-- A step of a path. -/
inductive Component where
  /-- The root directory, at the beginning of an absolute path. -/
  | root
  /-- The current directory, at the beginning of a relative path. -/
  | current
  /-- The parent directory. -/
  | parent
  /-- An entry of the directory reached so far. -/
  | entry (name : String)
  deriving DecidableEq, Repr, Inhabited

/-- The pieces of a text between slashes. -/
def pieces (path : List Char) : List (List Char) :=
  path.foldr
    (fun c acc => if c = '/' then [] :: acc else match acc with
      | [] => [[c]]
      | first :: rest => (c :: first) :: rest)
    [[]]

/-- Whether the path begins at the root directory. -/
def isAbsolute (path : String) : Bool := path.toList.head? == some '/'

/-- The component of a piece of a path, if it counts; `first` says whether it is the first of a
relative path. -/
def component? (first : Bool) (piece : List Char) : Option Component :=
  if piece = [] then none
  else if piece = ['.'] then if first then some .current else none
  else if piece = ['.', '.'] then some .parent
  else some (.entry (String.ofList piece))

/-- The components of a path. -/
def components (path : String) : List Component :=
  match pieces path.toList with
  | [] => []
  | first :: rest =>
    let tail := rest.filterMap (component? false)
    if isAbsolute path then .root :: tail
    else (component? true first).toList ++ tail

/-- The name of the entry that the path leads to. -/
def fileName? (path : String) : Option String :=
  match (components path).getLast? with
  | some (.entry name) => some name
  | _ => none

/-- The parts of a file name before and behind its last point, unless there is no point or none but
at the very beginning. -/
def splitExtension (name : List Char) : Option (List Char × List Char) :=
  let behind := (name.reverse.takeWhile (· ≠ '.')).reverse
  let before := name.take (name.length - behind.length - 1)
  if behind.length = name.length || before = [] then none else some (before, behind)

/-- The extension of the file name, without the point. -/
def extension? (path : String) : Option String :=
  (fileName? path).bind fun name =>
    (splitExtension name.toList).map fun (_, behind) => String.ofList behind

/-- The path with an extension put behind its file name, unless it has none. -/
def appendExtension? (path extension : String) : Option String :=
  match (pieces path.toList).reverse.dropWhile (fun piece => piece = [] || piece = ['.']) with
  | [] => none
  | last :: before =>
    if last = ['.', '.'] then none
    else
      let parts := (last :: before).reverse.map String.ofList
      some ("/".intercalate parts ++ "." ++ extension)

/-- The path from `base`: an absolute path stands for itself. -/
def join (base path : String) : String :=
  if isAbsolute path then path
  else if base.toList.getLast? = some '/' || base = "" then base ++ path
  else base ++ "/" ++ path

/-- The text of a component. -/
def Component.text : Component → String
  | .root => "/"
  | .current => "."
  | .parent => ".."
  | .entry name => name

/-- The path of components. -/
def ofComponents : List Component → String
  | [] => ""
  | .root :: rest => "/" ++ "/".intercalate (rest.map Component.text)
  | parts => "/".intercalate (parts.map Component.text)

/-- The way from one absolute place to another: what both begin with is dropped, then one step up
for each component of the base that is left. -/
def wayFrom : List Component → List Component → List Component
  | [], rest => rest
  | base, [] => base.map fun _ => .parent
  | b :: base, c :: rest =>
    if b = c then wayFrom base rest else (b :: base).map (fun _ => .parent) ++ c :: rest

/-- A path as seen from an absolute directory. -/
def relativeTo (base path : String) : String :=
  ofComponents (wayFrom (components base) (components path))

end SchemaNodes.FilePath
