import SchemaNodes.Command.Inspect
import SchemaNodes.Command.Lint

/-!
# The program

Runs one of the commands, which the first argument names, on the files and the environment of the
system. All that is decided is decided by the commands; here files are looked up and read, and the
output is written.
-/

namespace SchemaNodes.Program

/-- The environment variables, from the list in which the system keeps them. -/
def environment : IO (List (String × String)) := do
  let content ← try IO.FS.readBinFile "/proc/self/environ" catch _ => return []
  let entries := (Text.ofBytes content).splitOn "\x00"
  return entries.filterMap fun entry =>
    match entry.splitOn "=" with
    | name :: value => if value.isEmpty then none else some (name, "=".intercalate value)
    | [] => none

/-- What the system calls the error of a path. -/
def fileError : IO.Error → FileError
  | .inappropriateType .. => .notADirectory
  | _ => .notFound

/-- What a path leads to. -/
def kind (path : String) : IO FileKind := do
  if path = "" then return .missing
  try
    match (← ((← IO.currentDir) / path).metadata).type with
    | .dir => return .directory
    | .file => return .file
    | _ => return .missing
  catch _ => return .missing

/-- The content of the file that a path leads to. -/
def read (path : String) : IO (Except FileError ByteArray) := do
  if path = "" then return .error .notFound
  if (← kind path) = .directory then return .error .isDirectory
  try return .ok (← IO.FS.readBinFile ((← IO.currentDir) / path))
  catch error => return .error (fileError error)

/-- The tree below a path that leads to a file or a directory. Links below it do not count, nor does
what cannot be read. -/
partial def tree? (path : String) : IO (Option FileTree) := do
  match ← kind path with
  | .missing => return none
  | .file => return (← read path).toOption.map .file
  | .directory =>
    let place := (← IO.currentDir) / path
    let listing ← try place.readDir catch _ => return some (.directory [])
    let mut entries := #[]
    for entry in listing do
      if (← entry.path.symlinkMetadata).type != .symlink then
        match ← tree? entry.path.toString with
        | some tree => entries := entries.push (entry.fileName, tree)
        | none => pure ()
    return some (.directory entries.toList)

/-- The system as a host. -/
def host : IO (Host IO) := do
  let directory ← IO.currentDir
  return ⟨directory.toString, ← environment, kind, read, tree?⟩

/-- Runs the command that the first argument names. -/
def run (args : List String) : IO Command.Output := do
  match args with
  | "inspect" :: rest => Command.Inspect.run (← host) rest
  | "lint" :: rest => Command.Lint.run (← host) rest
  | _ => return ⟨2, "", "error: the command is inspect or lint\n"⟩

end SchemaNodes.Program

/-- Runs a command and writes what it gives. -/
def main (args : List String) : IO UInt32 := do
  let output ← SchemaNodes.Program.run args
  IO.eprint output.stderr
  IO.print output.stdout
  return output.code.toUInt32
