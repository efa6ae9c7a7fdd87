import SchemaNodes.Yaml.Source
import SchemaNodes.Number.Text

/-!
# YAML scalars

The three ways to write a scalar: plain, between quotes, and as an indented block. In plain and
quoted scalars a line break reads as a blank and further ones as themselves; block scalars keep or
fold their lines and clip the line breaks at their end.
-/

namespace SchemaNodes.Yaml

/-- How a scalar is written. -/
inductive ScalarStyle where
  | plain
  | quoted
  | block
  deriving DecidableEq, Repr, Inhabited

namespace Source

/-! ## Plain scalars -/

/-- Whether the character sets off something else in a flow collection. -/
def isFlowIndicator (c : Char) : Bool :=
  c == ',' || c == '[' || c == ']' || c == '\x7b' || c == '\x7d'

/-- Whether a plain scalar ends in front of the text: a colon with a blank behind it, and in a flow
collection an indicator. -/
def endsPlain (flow : Bool) : List Char → Bool
  | ':' :: rest => blankOrEnd rest
  | c :: _ => flow && isFlowIndicator c
  | [] => true

/-- A colon in a flow collection with an indicator behind it is refused. -/
def refusesColon (flow : Bool) : List Char → Bool
  | ':' :: c :: _ => flow && (isFlowIndicator c || c == '?')
  | _ => false

/-- Reads a run of a plain scalar, up to a blank or its end. -/
def plainRun (flow : Bool) : List Char → Mark → Option (List Char × Source)
  | [], mark => some ([], ⟨[], mark⟩)
  | c :: rest, mark =>
    if isBlank c || isBreak c then some ([], ⟨c :: rest, mark⟩)
    else if refusesColon flow (c :: rest) then none
    else if endsPlain flow (c :: rest) then some ([], ⟨c :: rest, mark⟩)
    else (plainRun flow rest (mark.after c)).map fun (run, src) => (c :: run, src)

/-- A scalar that has been read. -/
structure ScannedScalar where
  /-- Its text. -/
  text : String
  /-- The source behind it. -/
  behind : Source
  /-- Whether a new line begins behind it. -/
  atNewLine : Bool

/-- Reads the runs of a plain scalar, with fuel for the text; `acc` holds what has been read, last
character first. -/
def plainRuns (flow : Bool) (indent : Int) :
    Nat → Source → List Char → Gap → Option ScannedScalar
  | 0, _, _, _ => none
  | fuel + 1, src, acc, gap =>
    let finish (acc : List Char) (src : Source) (gap : Gap) : Option ScannedScalar :=
      some ⟨String.ofList acc.reverse, src, gap.broken⟩
    if src.atDocumentMarker || src.atChar '#' then finish acc src gap
    else (plainRun flow src.rest src.mark).bind fun (run, src) =>
      if run = [] then finish acc src gap
      else
        let acc := run.reverse ++ gap.chars.reverse ++ acc
        match src.rest with
        | c :: _ =>
          if isBlank c || isBreak c then
            (scanGap indent fuel src .none).bind fun (src, gap) =>
              if !flow && (src.mark.column : Int) < indent then finish acc src gap
              else plainRuns flow indent fuel src acc gap
          else finish acc src .none
        | [] => finish acc src .none

/-- Reads a plain scalar in a block of an indentation. -/
def plainScalar (flow : Bool) (indent : Int) (src : Source) : Option ScannedScalar :=
  plainRuns flow (indent + 1) (src.rest.length + 2) src [] .none

/-! ## Quoted scalars -/

/-- What an escape of one letter stands for. -/
def escapeOf? : Char → Option Char
  | '0' => some '\x00'
  | 'a' => some '\x07'
  | 'b' => some '\x08'
  | 't' | '\t' => some '\t'
  | 'n' => some '\n'
  | 'v' => some '\x0b'
  | 'f' => some '\x0c'
  | 'r' => some '\r'
  | 'e' => some '\x1b'
  | ' ' => some ' '
  | '"' => some '"'
  | '/' => some '/'
  | '\\' => some '\\'
  | 'N' => some '\u0085'
  | '_' => some '\u00a0'
  | 'L' => some '\u2028'
  | 'P' => some '\u2029'
  | _ => none

/-- The number of digits that an escape takes by its letter. -/
def escapeDigits? : Char → Option Nat
  | 'x' => some 2
  | 'u' => some 4
  | 'U' => some 8
  | _ => none

/-- Moves over a number of characters. -/
def nextBy : Nat → Source → Source
  | 0, src => src
  | n + 1, src => nextBy n src.next

/-- Reads an escape behind its backslash. -/
def scanEscape (src : Source) : Option (Char × Source) :=
  match src.rest with
  | [] => none
  | c :: rest =>
    match escapeOf? c, escapeDigits? c with
    | some value, _ => some (value, src.next)
    | none, some count =>
      let digits := rest.take count
      if digits.length = count && digits.all fun d => (digitValue? 16 d).isSome then
        (digitsValue 16 0 digits).bind fun code =>
          if (0xd800 ≤ code && code ≤ 0xdfff) || 0x10ffff < code then none
          else some (Char.ofNat code, nextBy count src.next)
      else none
    | none, none => none

/-- A run of a quoted scalar. -/
structure QuotedRun where
  /-- What has been read of the scalar, last character first. -/
  acc : List Char
  /-- The source behind the run. -/
  behind : Source
  /-- Whether the run ends with an escaped line break. -/
  escapedBreak : Bool

/-- Reads a run of a quoted scalar up to a blank or the closing quote, with fuel for the text. -/
def quotedRun (quote : Char) : Nat → Source → List Char → Option QuotedRun
  | 0, _, _ => none
  | fuel + 1, src, acc =>
    match src.rest with
    | [] => some ⟨acc, src, false⟩
    | c :: rest =>
      if isBlank c || isBreak c then some ⟨acc, src, false⟩
      else if quote = '\x27' && c = quote && rest.head? = some quote then
        quotedRun quote fuel src.next.next (c :: acc)
      else if c = quote then some ⟨acc, src, false⟩
      else if quote = '"' && c = '\\' then
        if (rest.head?.map isBreak).getD false then some ⟨acc, src.next.nextLine.1, true⟩
        else (scanEscape src.next).bind fun (value, src) => quotedRun quote fuel src (value :: acc)
      else quotedRun quote fuel src.next (c :: acc)

/-- Reads the runs of a quoted scalar up to its closing quote, with fuel for the text. -/
def quotedRuns (quote : Char) : Nat → Source → List Char → Option (String × Source)
  | 0, _, _ => none
  | fuel + 1, src, acc =>
    if src.atDocumentMarker || src.rest.isEmpty then none
    else (quotedRun quote (fuel + 1) src acc).bind fun run =>
      if run.behind.atChar quote then some (String.ofList run.acc.reverse, run.behind.next)
      else
        (scanGap (-1) (fuel + 1) run.behind ⟨run.escapedBreak, [], [], []⟩).bind fun (src, gap) =>
          quotedRuns quote fuel src (gap.chars.reverse ++ run.acc)

/-- Reads a quoted scalar at its opening quote. -/
def quotedScalar (quote : Char) (src : Source) : Option (String × Source) :=
  quotedRuns quote (src.rest.length + 2) src.next []

/-! ## Block scalars -/

/-- What becomes of the line breaks at the end of a block scalar. -/
inductive Chomping where
  /-- All are dropped. -/
  | strip
  /-- One is kept. -/
  | clip
  /-- All are kept. -/
  | keep
  deriving DecidableEq, Repr

/-- Reads the chomping indicator, if there is one. -/
def chomping? (src : Source) : Option Chomping × Source :=
  match src.rest with
  | '+' :: _ => (some .keep, src.next)
  | '-' :: _ => (some .strip, src.next)
  | _ => (none, src)

/-- Reads the indentation indicator, if there is one; zero is refused. -/
def increment? (src : Source) : Option (Option Nat × Source) :=
  match src.rest with
  | c :: _ =>
    if c = '0' then none
    else if isDigit c then some (digitValue? 10 c, src.next)
    else some (none, src)
  | [] => some (none, src)

/-- Reads the indicators of a block scalar, which may stand in either order. -/
def blockHeader (src : Source) : Option (Chomping × Option Nat × Source) :=
  match chomping? src with
  | (some chomping, src) =>
    (increment? src).map fun (increment, src) => (chomping, increment, src)
  | (none, src) =>
    (increment? src).map fun (increment, src) =>
      match increment with
      | none => (.clip, none, src)
      | some _ =>
        let (chomping, src) := chomping? src
        (chomping.getD .clip, increment, src)

/-- Reads indentation and empty lines in front of a line of a block scalar, with fuel for the text:
the line breaks, the greatest column reached and the source behind. A tab in place of indentation is
refused. -/
def blockBreaks (indent : Option Nat) : Nat → Source → List Char → Nat →
    Option (List Char × Nat × Source)
  | 0, src, breaks, deepest => some (breaks, deepest, src)
  | fuel + 1, src, breaks, deepest =>
    let within (src : Source) : Bool := match indent with
      | none => true
      | some indent => src.mark.column < indent
    if within src && src.atChar ' ' then blockBreaks indent fuel src.next breaks deepest
    else
      let deepest := max deepest src.mark.column
      if within src && src.atChar '\t' then none
      else match src.rest with
        | c :: _ =>
          if isBreak c then
            let (src, chars) := src.nextLine
            blockBreaks indent fuel src (breaks ++ chars) deepest
          else some (breaks, deepest, src)
        | [] => some (breaks, deepest, src)

/-- The text of a block scalar whose lines are read, last character first, with the breaks behind
them that the chomping leaves. -/
def chomp (chomping : Chomping) (acc leading trailing : List Char) : String :=
  let tail := match chomping with
    | .strip => []
    | .clip => leading
    | .keep => leading ++ trailing
  String.ofList (acc.reverse ++ tail)

/-- Reads the lines of a block scalar, with fuel for the text; `acc` holds what has been read, last
character first, `leading` the break of the last line, `trailing` the breaks of the empty lines
behind it, and `blankBefore` says whether the last line began with a blank. -/
def blockLines (literal : Bool) (chomping : Chomping) (indent : Nat) :
    Nat → Source → List Char → List Char → List Char → Bool → Option (String × Source)
  | 0, _, _, _, _, _ => none
  | fuel + 1, src, acc, leading, trailing, blankBefore =>
    match src.rest with
    | c :: _ =>
      if src.mark.column = indent then
        let blank := isBlank c
        let folded := !literal && leading = ['\n'] && !blankBefore && !blank
        let joint :=
          (if folded then if trailing = [] then [' '] else [] else leading) ++ trailing
        let (line, src) := src.takeWhile fun c => !isBreak c
        let (src, leading) := src.nextLine
        (blockBreaks (some indent) (src.rest.length + 1) src [] 0).bind fun (trailing, _, src) =>
          blockLines literal chomping indent fuel src
            (line.reverse ++ joint.reverse ++ acc) leading trailing blank
      else some (chomp chomping acc leading trailing, src)
    | [] => some (chomp chomping acc leading trailing, src)

/-- Reads a block scalar at its indicator, in a block of an indentation. -/
def blockScalar (literal : Bool) (parent : Int) (src : Source) : Option (String × Source) :=
  (blockHeader src.next).bind fun (chomping, increment, src) =>
    let src := (src.skipWhile isBlank).skipComment
    if !breakOrEnd src.rest then none
    else
      let src := src.nextLine.1
      let given := increment.map fun n => (if 0 ≤ parent then parent + n else n).toNat
      (blockBreaks given (src.rest.length + 1) src [] 0).bind fun (trailing, deepest, src) =>
        let indent := given.getD (max (max deepest (parent + 1).toNat) 1)
        blockLines literal chomping indent (src.rest.length + 2) src [] [] trailing false

end Source

end SchemaNodes.Yaml
