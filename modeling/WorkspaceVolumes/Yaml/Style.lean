import WorkspaceVolumes.Yaml.Chars
import WorkspaceVolumes.Yaml.Plain

/-!
# Writing scalars

A string can be written plain, in single quotes, in double quotes or as a literal block.
The printer takes the plainest style that reads back: quotes appear only where they are
needed.

**Wanted and allowed.**  A string with a line feed wants a literal block; a string that
would be taken for something else wants quotes; any other string wants to be plain.  What
the characters rule out (`Traits`) then moves the choice towards double quotes, which can
write everything.

**Continuation lines.**  The lines of a literal block, and the lines of a quoted scalar
after a line separator, are indented.  An empty line is not.

## Main definitions

* `ScalarStyle`, `Traits.ofText`, `ScalarStyle.ofText`: the styles and the choice.
* `singleQuoted`, `doubleQuoted`, `literalBlock`: the written forms.
* `scalarText`, `scalarLine`: a scalar as written, without and with the end of its line.
-/

namespace WorkspaceVolumes.Yaml

/-- The ways to write a scalar. -/
inductive ScalarStyle
  | plain | singleQuoted | doubleQuoted | literal | folded
  deriving DecidableEq

/-! ### What the characters of a string rule out -/

/-- Whether two neighbouring characters pass a pair of tests. -/
def hasNeighbours (first second : Char → Bool) : List Char → Bool
  | a :: b :: rest => (first a && second b) || hasNeighbours first second (b :: rest)
  | _ => false

/-- Whether the first character of a string would be taken for an indicator. -/
def opensAsIndicator : List Char → Bool
  | [] => false
  | c :: rest =>
    isIndicator c && (!(c = '-' || c = '?' || c = ':') || startsBlankOrEnd rest)

/-- Whether a later character of a string would be taken for an indicator. -/
def holdsIndicator (afterBlank : Bool) : List Char → Bool
  | [] => false
  | c :: rest =>
    (c = ':' && startsBlankOrEnd rest) || (c = '#' && afterBlank) ||
      holdsIndicator (isSpaceOrTab c || isBreak c) rest

/-- Whether a string starts like a document marker. -/
def opensAsMarker : List Char → Bool
  | '-' :: '-' :: '-' :: _ => true
  | '.' :: '.' :: '.' :: _ => true
  | _ => false

/-- What matters about the characters of a string for the way it can be written. -/
structure Traits where
  /-- It has more than one line. -/
  multiline : Bool
  /-- It can stand plain. -/
  plain : Bool
  /-- It can stand in single quotes. -/
  singleQuoted : Bool
  /-- It can stand as a literal block. -/
  literal : Bool

/-- Whether a character is a space. -/
def isSpace (c : Char) : Bool := c = ' '

/-- The traits of a string. -/
def Traits.ofText (text : List Char) : Traits :=
  let multiline := text.any isBreak
  let special := !text.all isPrintable
  let spaceBreak := hasNeighbours isSpace isBreak text
  let breakSpace := hasNeighbours isBreak isSpace text
  let indicators := opensAsMarker text || opensAsIndicator text || holdsIndicator false text.tail
  { multiline
    plain := !(multiline || special || indicators || text.head?.any isSpace || text.getLast?.any isSpace)
    singleQuoted := !(special || spaceBreak || breakSpace)
    literal := !(text.isEmpty || special || spaceBreak || text.getLast?.any isSpace) }

/-- The style in which a string is written, as an implicit key or elsewhere. -/
def ScalarStyle.ofText (asKey : Bool) (text : List Char) : ScalarStyle :=
  let traits := Traits.ofText text
  let quoted := if traits.singleQuoted then .singleQuoted else .doubleQuoted
  if asKey && traits.multiline then .doubleQuoted
  else if text.contains '\n' then if traits.literal && !asKey then .literal else .doubleQuoted
  else if needsQuotes text then quoted
  else if traits.plain then .plain
  else quoted

/-! ### Written forms -/

/-- The inside of a single-quoted scalar: quotes are doubled, and so is the first of a run
of line feeds. -/
def singleQuotedBody (indent : Nat) (afterBreak : Bool) : List Char → List Char
  | [] => if afterBreak then spaces indent else []
  | c :: rest =>
    if isBreak c then
      (if c = '\n' && !afterBreak then ['\n', '\n'] else [c]) ++ singleQuotedBody indent true rest
    else
      (if afterBreak then spaces indent else []) ++ (if c = '\'' then ['\'', '\''] else [c]) ++
        singleQuotedBody indent false rest

/-- A scalar in single quotes. -/
def singleQuoted (indent : Nat) (text : List Char) : List Char :=
  '\'' :: singleQuotedBody indent false text ++ ['\'']

/-- What follows the backslash for a character that is not written as it is. -/
def escapeOf (c : Char) : List Char :=
  match c with
  | '\x00' => ['0']
  | '\x07' => ['a']
  | '\x08' => ['b']
  | '\t' => ['t']
  | '\n' => ['n']
  | '\x0B' => ['v']
  | '\x0C' => ['f']
  | '\r' => ['r']
  | '\x1B' => ['e']
  | '"' => ['"']
  | '\\' => ['\\']
  | '\u0085' => ['N']
  | '\u2028' => ['L']
  | '\u2029' => ['P']
  | c =>
    let code := c.toNat
    if code ≤ 0xFF then 'x' :: Text.fixedDigits Text.capitalHex 2 code
    else if code ≤ 0xFFFF then 'u' :: Text.fixedDigits Text.capitalHex 4 code
    else 'U' :: Text.fixedDigits Text.capitalHex 8 code

/-- Whether a character stands for itself in double quotes. -/
def isUnescaped (c : Char) : Bool := isPrintable c && !isBreak c && c ≠ '"' && c ≠ '\\'

/-- A scalar in double quotes. -/
def doubleQuoted (text : List Char) : List Char :=
  '"' :: text.flatMap (fun c => if isUnescaped c then [c] else '\\' :: escapeOf c) ++ ['"']

/-- The lines of a literal block: an indentation before each line that is not empty. -/
def literalLines (indent : Nat) (afterBreak : Bool) : List Char → List Char
  | [] => []
  | c :: rest =>
    if isBreak c then c :: literalLines indent true rest
    else (if afterBreak then spaces indent else []) ++ c :: literalLines indent false rest

/-- How the end of a literal block is marked: `-` if no break ends it, `+` if it ends in
an empty line. -/
def chompingMark (text : List Char) : List Char :=
  match text.reverse with
  | [] => ['-']
  | [c] => if isBreak c then ['+'] else ['-']
  | c :: d :: _ => if isBreak c then if isBreak d then ['+'] else [] else ['-']

/-- The step by which nested lines are indented. -/
def indentStep : Nat := 2

/-- The indentation of a literal block is announced when its first line does not show
it. -/
def indentMark (text : List Char) : List Char :=
  if text.head?.any fun c => isSpace c || isBreak c then ['2'] else []

/-- A scalar as a literal block. -/
def literalBlock (indent : Nat) (text : List Char) : List Char :=
  '|' :: indentMark text ++ chompingMark text ++ '\n' :: literalLines indent true text

/-- A string as it is written, with its continuation lines at an indentation. -/
def scalarText (asKey : Bool) (indent : Nat) (text : List Char) : List Char :=
  match ScalarStyle.ofText asKey text with
  | .plain => text
  | .singleQuoted => singleQuoted indent text
  | .literal => literalBlock indent text
  | .doubleQuoted | .folded => doubleQuoted text

/-- A string as it is written, with the end of its line.  A literal block may have ended
it already. -/
def scalarLine (indent : Nat) (text : List Char) : List Char :=
  let written := scalarText false indent text
  if ScalarStyle.ofText false text = .literal && text.getLast?.any isBreak then written
  else written ++ ['\n']

end WorkspaceVolumes.Yaml
