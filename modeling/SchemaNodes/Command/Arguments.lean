/-!
# Command line arguments

Switches with long names, of which some have a letter and some take a value, and at most one path
beside them. A value stands in the argument of its switch or in the next one; after two dashes every
argument is a path. Each switch can be given once.
-/

namespace SchemaNodes.Command

/-- A switch that a command knows. -/
structure Switch where
  /-- The name, behind two dashes. -/
  name : String
  /-- The letter, behind one dash. -/
  letter? : Option Char
  /-- What its value is called, if it takes one. -/
  value? : Option String
  /-- What it is good for. -/
  purpose : String
  deriving DecidableEq, Repr, Inhabited

/-- Why arguments are refused. -/
inductive ArgumentError where
  | unknownSwitch (text : String)
  | missingValue (name : String)
  | needlessValue (name : String)
  | repeatedSwitch (name : String)
  | furtherPath (text : String)
  | emptyPath
  deriving DecidableEq, Repr, Inhabited

/-- The words of an argument error. -/
def ArgumentError.message : ArgumentError → String
  | .unknownSwitch text => s!"unexpected argument '{text}' found"
  | .missingValue name => s!"a value is required for '--{name}' but none was supplied"
  | .needlessValue name => s!"unexpected value for '--{name}' found; no more were expected"
  | .repeatedSwitch name => s!"the argument '--{name}' cannot be used multiple times"
  | .furtherPath text => s!"unexpected argument '{text}' found"
  | .emptyPath => "a value is required for the path but none was supplied"

/-- What arguments say: the path, and the switches with their values, where a switch without one has
an empty value. -/
structure Arguments where
  path? : Option String
  given : List (String × String)
  deriving DecidableEq, Repr, Inhabited

namespace Arguments

/-- The value of a switch. -/
def value? (arguments : Arguments) (name : String) : Option String :=
  (arguments.given.find? fun entry => entry.1 = name).map (·.2)

/-- Whether a switch is given. -/
def has (arguments : Arguments) (name : String) : Bool := (arguments.value? name).isSome

/-- Adds a switch. -/
def addSwitch (arguments : Arguments) (switch : Switch) (value : String) :
    Except ArgumentError Arguments :=
  if arguments.has switch.name then .error (.repeatedSwitch switch.name)
  else .ok { arguments with given := arguments.given ++ [(switch.name, value)] }

/-- Adds a path. -/
def addPath (arguments : Arguments) (text : String) : Except ArgumentError Arguments :=
  if arguments.path?.isSome then .error (.furtherPath text)
  else if text = "" then .error .emptyPath
  else .ok { arguments with path? := some text }

end Arguments

/-! ## Reading -/

/-- What an argument is. -/
inductive Word where
  /-- Two dashes. -/
  | dashes
  /-- No switch. -/
  | plain
  /-- A switch, with the value in the same argument. -/
  | switch (switch : Switch) (attached? : Option String)
  deriving DecidableEq, Repr, Inhabited

/-- What the argument behind two dashes is: a name, and a value behind an equals sign. -/
def longWord (switches : List Switch) (body : List Char) : Except ArgumentError Word :=
  let name := String.ofList (body.takeWhile (· ≠ '='))
  let attached? := match body.dropWhile (· ≠ '=') with
    | [] => none
    | _ :: value => some (String.ofList value)
  match switches.find? fun switch => switch.name = name with
  | some switch => .ok (.switch switch attached?)
  | none => .error (.unknownSwitch ("--" ++ name))

/-- What the argument behind one dash is: a letter, and whatever is behind it is a value. -/
def shortWord (switches : List Switch) (letter : Char) (body : List Char) :
    Except ArgumentError Word :=
  let attached? := match body with
    | [] => none
    | '=' :: value => some (String.ofList value)
    | value => some (String.ofList value)
  match switches.find? fun switch => switch.letter? = some letter with
  | some switch => .ok (.switch switch attached?)
  | none => .error (.unknownSwitch (String.ofList ['-', letter]))

/-- What an argument is. -/
def word (switches : List Switch) (text : String) : Except ArgumentError Word :=
  match text.toList with
  | ['-', '-'] => .ok .dashes
  | '-' :: '-' :: body => longWord switches body
  | '-' :: letter :: body => shortWord switches letter body
  | _ => .ok .plain

/-- Whether an argument can be the value of the switch in front of it. -/
def isValue (text : String) : Bool :=
  match text.toList with
  | '-' :: _ :: _ => false
  | _ => true

/-- What reading arguments comes to. -/
inductive Reading where
  | arguments (arguments : Arguments)
  /-- The help is asked for, before anything is wrong. -/
  | help
  | refused (error : ArgumentError)
  deriving DecidableEq, Repr, Inhabited

/-- The name of the switch that asks for help. -/
def helpName : String := "help"

/-- The switch that asks for help, which every command knows. -/
def helpSwitch : Switch := ⟨helpName, some 'h', none, "Print help"⟩

/-- Reads arguments that are all paths. -/
def readPaths (arguments : Arguments) (texts : List String) : Reading :=
  match texts.foldlM Arguments.addPath arguments with
  | .ok arguments => .arguments arguments
  | .error error => .refused error

/-- Reads arguments behind those already read. -/
def readFrom (switches : List Switch) (arguments : Arguments) : List String → Reading
  | [] => .arguments arguments
  | text :: rest =>
    match word switches text with
    | .error error => .refused error
    | .ok .dashes => readPaths arguments rest
    | .ok .plain =>
      match arguments.addPath text with
      | .ok arguments => readFrom switches arguments rest
      | .error error => .refused error
    | .ok (.switch switch attached?) =>
      match switch.value?, attached?, rest with
      | none, some _, _ => .refused (.needlessValue switch.name)
      | none, none, rest =>
        if switch.name = helpName then .help
        else match arguments.addSwitch switch "" with
          | .ok arguments => readFrom switches arguments rest
          | .error error => .refused error
      | some _, some value, rest =>
        match arguments.addSwitch switch value with
        | .ok arguments => readFrom switches arguments rest
        | .error error => .refused error
      | some _, none, value :: rest =>
        if isValue value then
          match arguments.addSwitch switch value with
          | .ok arguments => readFrom switches arguments rest
          | .error error => .refused error
        else .refused (.missingValue switch.name)
      | some _, none, [] => .refused (.missingValue switch.name)

/-- Reads arguments. -/
def readArguments (switches : List Switch) (texts : List String) : Reading :=
  readFrom (switches ++ [helpSwitch]) ⟨none, []⟩ texts

end SchemaNodes.Command
