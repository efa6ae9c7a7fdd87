import SchemaNodes.Json.Value
import SchemaNodes.Text.Case
import SchemaNodes.Toml.Basic

/-!
# Trees of settings

The settings of all sources, before they are given types. A leaf and whatever has not been changed
since it was read knows the source it is from. Main operation: `Setting.assign`, which merges a
setting into a tree.
-/

namespace SchemaNodes

/-- A setting without parts. -/
inductive SettingValue where
  | nothing
  | boolean (b : Bool)
  | integer (n : Int)
  | float (x : Binary64)
  | text (text : String)
  deriving Repr, Inhabited

/-- A setting, with the source it is from if that is known. -/
inductive Setting where
  | leaf (origin? : Option String) (value : SettingValue)
  | list (origin? : Option String) (items : List Setting)
  /-- Members in ascending order of their keys. -/
  | table (origin? : Option String) (members : List (String × Setting))
  deriving Inhabited

namespace Setting

/-- Nothing, from nowhere. -/
def nothing : Setting := .leaf none .nothing

/-- A table without members. -/
def emptyTable : Setting := .table none []

/-- The source of a setting. -/
def origin? : Setting → Option String
  | .leaf origin? _ | .list origin? _ | .table origin? _ => origin?

/-! ## From documents -/

mutual

/-- The settings of a TOML value. -/
def ofToml (origin? : Option String) : Toml → Setting
  | .string text | .moment text => .leaf origin? (.text text)
  | .integer n => .leaf origin? (.integer n)
  | .float x => .leaf origin? (.float x)
  | .boolean b => .leaf origin? (.boolean b)
  | .array items => .list origin? (ofTomlItems origin? items)
  | .table members => .table origin? (ofTomlMembers origin? members)

/-- The settings of TOML values. -/
def ofTomlItems (origin? : Option String) : List Toml → List Setting
  | [] => []
  | item :: rest => ofToml origin? item :: ofTomlItems origin? rest

/-- The settings of the members of a TOML table. -/
def ofTomlMembers (origin? : Option String) : List (String × Toml) → List (String × Setting)
  | [] => []
  | (name, value) :: rest => (name, ofToml origin? value) :: ofTomlMembers origin? rest

end

/-- The setting of a JSON number: an integer only within 64 bits with sign. -/
def ofNumber : JsonNumber → SettingValue
  | .integer n => if n < twoTo 63 then .integer n else .float (.ofInt n)
  | .double x => .float x

mutual

/-- The settings of a JSON value. -/
def ofJson (origin? : Option String) : Json → Setting
  | .null => .leaf origin? .nothing
  | .bool b => .leaf origin? (.boolean b)
  | .number n => .leaf origin? (ofNumber n)
  | .string text => .leaf origin? (.text text)
  | .array items => .list origin? (ofJsonItems origin? items)
  | .object members => .table origin? (ofJsonMembers origin? members)

/-- The settings of JSON values. -/
def ofJsonItems (origin? : Option String) : List Json → List Setting
  | [] => []
  | item :: rest => ofJson origin? item :: ofJsonItems origin? rest

/-- The settings of the members of a JSON object. -/
def ofJsonMembers (origin? : Option String) : List (String × Json) → List (String × Setting)
  | [] => []
  | (name, value) :: rest => (name, ofJson origin? value) :: ofJsonMembers origin? rest

end

/-! ## Merging -/

/-- A setting as a table, in place of which a new table stands where it is none. -/
def asTable (setting : Setting) : Option String × Entries Setting :=
  match setting with
  | .table origin? members => (origin?, members)
  | _ => (none, [])

/-- Puts a setting under a key of a table. -/
def putMember (base : Setting) (name : String) (value : Setting) : Setting :=
  let (origin?, members) := base.asTable
  .table origin? (members.insert name value)

/-- The setting under a key of a table. -/
def member? (base : Setting) (name : String) : Option Setting := base.asTable.2.find? name

mutual

/-- Merges a setting into a table under a key, in lower case: a table member by member, anything
else in place of what is there. -/
def assign (name : String) : (value base : Setting) → Setting
  | .table _ members, base =>
    let key := Text.lowercase name
    base.putMember key (assignAll members ((base.member? key).getD emptyTable))
  | .list origin? items, base => base.putMember (Text.lowercase name) (.list origin? items)
  | .leaf origin? value, base => base.putMember (Text.lowercase name) (.leaf origin? value)

/-- Merges settings into a table, each under its key. -/
def assignAll : (members : List (String × Setting)) → (base : Setting) → Setting
  | [], base => base
  | (name, value) :: rest, base => assignAll rest (assign name value base)

end

end Setting

end SchemaNodes
