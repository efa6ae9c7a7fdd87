import SchemaNodes.Json.Cursor
import SchemaNodes.Json.Writer
import SchemaNodes.Text.Quoted

/-!
# Reading JSON values

`Cursor.value` reads a value of any kind, `Cursor.skipValue` passes over one. A value that is read
may be nested in at most 127 arrays and objects; a value that is skipped may be nested as deeply as
it likes. The members of an object stay as they are in the text, repeated keys included.
-/

namespace SchemaNodes.Json

/-- How a message names a value. -/
def describe : Json → String
  | .null => "null"
  | .bool true => "boolean `true`"
  | .bool false => "boolean `false`"
  | .number (.integer n) => s!"integer `{n}`"
  | .number (.double x) => s!"floating point `{String.ofList (doubleChars x)}`"
  | .string text => s!"string {Text.quoted text}"
  | .array _ => "sequence"
  | .object _ => "map"

/-- The complaint about a value of the wrong kind. -/
def wrongKind (found : String) (expected : String) : Complaint :=
  .unfit s!"invalid type: {found}, expected {expected}"

/-- The levels of nesting that a text may have, and one more. -/
def depthLimit : Nat := 128

namespace Cursor

/-- A scalar that begins at the cursor, with the cursor behind it. -/
def scalar (cur : Cursor) : Except ReadError (Json × Cursor) :=
  match cur.rest with
  | [] => cur.peekError .valueEnds
  | 'n' :: _ => do return (.null, ← word cur.next ['u', 'l', 'l'])
  | 't' :: _ => do return (.bool true, ← word cur.next ['r', 'u', 'e'])
  | 'f' :: _ => do return (.bool false, ← word cur.next ['a', 'l', 's', 'e'])
  | '"' :: _ => do
    let (text, cur) ← cur.next.readString
    return (.string text, cur)
  | c :: _ =>
    if c == '-' || isDigit c then do
      let (n, cur) ← cur.readNumber
      return (.number n, cur)
    else cur.peekError .expectedValue

/-- Reads the colon between a key and its value. -/
def colon (cur : Cursor) : Except ReadError Cursor :=
  let cur := cur.skipBlanks
  match cur.rest with
  | ':' :: _ => .ok cur.next
  | [] => cur.peekError .objectEnds
  | _ :: _ => cur.peekError .expectedColon

/-- Finds the next item of an array: the cursor at it, or `none` and the cursor at the closing
bracket. -/
def nextItem? (cur : Cursor) (first : Bool) : Except ReadError (Bool × Cursor) :=
  let cur := cur.skipBlanks
  match cur.rest with
  | [] => cur.peekError .listEnds
  | ']' :: _ => .ok (false, cur)
  | ',' :: _ =>
    if first then .ok (true, cur)
    else
      let cur := cur.next.skipBlanks
      match cur.rest with
      | ']' :: _ => cur.peekError .trailingComma
      | [] => cur.peekError .valueEnds
      | _ :: _ => .ok (true, cur)
  | _ :: _ => if first then .ok (true, cur) else cur.peekError .expectedCommaOrBracket

/-- Finds the next key of an object: the cursor behind its opening quote, or `none` and the cursor
at the closing brace. -/
def nextKey? (cur : Cursor) (first : Bool) : Except ReadError (Bool × Cursor) :=
  let cur := cur.skipBlanks
  match cur.rest with
  | [] => cur.peekError .objectEnds
  | '\x7d' :: _ => .ok (false, cur)
  | c :: _ =>
    if first then if c = '"' then .ok (true, cur.next) else cur.peekError .keyNotString
    else if c = ',' then
      let cur := cur.next.skipBlanks
      match cur.rest with
      | '"' :: _ => .ok (true, cur.next)
      | '\x7d' :: _ => cur.peekError .trailingComma
      | [] => cur.peekError .valueEnds
      | _ :: _ => cur.peekError .keyNotString
    else cur.peekError .expectedCommaOrBrace

mutual

/-- Reads a value that may open `depth - 1` levels of nesting, with fuel for the text. -/
def valueWith (fuel depth : Nat) (cur : Cursor) : Except ReadError (Json × Cursor) :=
  match fuel with
  | 0 => cur.peekError .tooDeep
  | fuel + 1 =>
    let cur := cur.skipBlanks
    match cur.rest with
    | '[' :: _ =>
      if depth ≤ 1 then cur.peekError .tooDeep
      else do
        let (items, cur) ← itemsWith fuel (depth - 1) cur.next true []
        return (.array items, cur)
    | '\x7b' :: _ =>
      if depth ≤ 1 then cur.peekError .tooDeep
      else do
        let (members, cur) ← membersWith fuel (depth - 1) cur.next true []
        return (.object members, cur)
    | _ => cur.scalar

/-- Reads the items of an array up to its bracket; `acc` holds those read, last first. -/
def itemsWith (fuel depth : Nat) (cur : Cursor) (first : Bool) (acc : List Json) :
    Except ReadError (List Json × Cursor) :=
  match fuel with
  | 0 => cur.peekError .tooDeep
  | fuel + 1 => do
    let (more, cur) ← cur.nextItem? first
    if more then
      let (item, cur) ← valueWith fuel depth cur
      itemsWith fuel depth cur false (item :: acc)
    else return (acc.reverse, cur.next)

/-- Reads the members of an object up to its brace; `acc` holds those read, last first. -/
def membersWith (fuel depth : Nat) (cur : Cursor) (first : Bool) (acc : List (String × Json)) :
    Except ReadError (List (String × Json) × Cursor) :=
  match fuel with
  | 0 => cur.peekError .tooDeep
  | fuel + 1 => do
    let (more, cur) ← cur.nextKey? first
    if more then
      let (name, cur) ← cur.readString
      let cur ← cur.colon
      let (value, cur) ← valueWith fuel depth cur
      membersWith fuel depth cur false ((name, value) :: acc)
    else return (acc.reverse, cur.next)

end

/-- Fuel for everything that can be read from the cursor on. -/
def fuel (cur : Cursor) : Nat := 2 * cur.rest.length + 2

/-- Reads a value that may open `depth - 1` levels of nesting. -/
def value (depth : Nat) (cur : Cursor) : Except ReadError (Json × Cursor) :=
  valueWith cur.fuel depth cur

mutual

/-- Passes over a value, with fuel for the text. -/
def skipValueWith (fuel : Nat) (cur : Cursor) : Except ReadError Cursor :=
  match fuel with
  | 0 => cur.peekError .tooDeep
  | fuel + 1 =>
    let cur := cur.skipBlanks
    match cur.rest with
    | [] => cur.peekError .valueEnds
    | '[' :: _ => skipItemsWith fuel cur.next true
    | '\x7b' :: _ => skipMembersWith fuel cur.next true
    | '"' :: _ => cur.next.skipString
    | 'n' :: _ => word cur.next ['u', 'l', 'l']
    | 't' :: _ => word cur.next ['r', 'u', 'e']
    | 'f' :: _ => word cur.next ['a', 'l', 's', 'e']
    | c :: _ => if c == '-' || isDigit c then cur.skipNumber else cur.peekError .expectedValue

/-- Passes over the items of an array and its bracket. -/
def skipItemsWith (fuel : Nat) (cur : Cursor) (first : Bool) : Except ReadError Cursor :=
  match fuel with
  | 0 => cur.peekError .tooDeep
  | fuel + 1 =>
    let cur := cur.skipBlanks
    match cur.rest with
    | [] => cur.peekError .listEnds
    | ']' :: _ => .ok cur.next
    | c :: _ =>
      if first then do skipItemsWith fuel (← skipValueWith fuel cur) false
      else if c = ',' then do skipItemsWith fuel (← skipValueWith fuel cur.next) false
      else cur.peekError .expectedCommaOrBracket

/-- Passes over the members of an object and its brace. -/
def skipMembersWith (fuel : Nat) (cur : Cursor) (first : Bool) : Except ReadError Cursor :=
  match fuel with
  | 0 => cur.peekError .tooDeep
  | fuel + 1 =>
    let cur := cur.skipBlanks
    match cur.rest with
    | [] => cur.peekError .objectEnds
    | '\x7d' :: _ => .ok cur.next
    | c :: _ =>
      if first then skipMemberWith fuel cur
      else if c = ',' then skipMemberWith fuel cur.next
      else cur.peekError .expectedCommaOrBrace

/-- Passes over a key with its value, and what is left of the object. -/
def skipMemberWith (fuel : Nat) (cur : Cursor) : Except ReadError Cursor :=
  match fuel with
  | 0 => cur.peekError .tooDeep
  | fuel + 1 =>
    let cur := cur.skipBlanks
    match cur.rest with
    | [] => cur.peekError .objectEnds
    | '"' :: _ => do
      let cur ← cur.next.skipString
      let cur ← skipValueWith fuel (← cur.colon)
      skipMembersWith fuel cur false
    | _ :: _ => cur.peekError .keyNotString

end

/-- Passes over a value. -/
def skipValue (cur : Cursor) : Except ReadError Cursor := skipValueWith (2 * cur.fuel) cur

/-- Checks that only blanks are left. -/
def finish (cur : Cursor) : Except ReadError Unit :=
  let cur := cur.skipBlanks
  match cur.rest with
  | [] => .ok ()
  | _ :: _ => cur.peekError .trailingCharacters

end Cursor

/-- Reads a whole text as one value that may open `depth - 1` levels of nesting. -/
def readWith (depth : Nat) (text : String) : Except ReadError Json := do
  let (value, cur) ← (Cursor.ofString text).value depth
  cur.finish
  return value

/-- Reads a whole text as one value. -/
def read (text : String) : Except ReadError Json := readWith depthLimit text

end SchemaNodes.Json
