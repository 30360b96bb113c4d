import WorkspaceVolumes.Data.Reading
import WorkspaceVolumes.Yaml.Style

/-!
# Reading the scalars of a YAML text

A scalar may run over several lines, and its value is not its spelling: line breaks fold,
quotes are escaped, a literal block loses its indentation.  Each reader of this module
consumes one scalar from a list of characters and returns its value with what is left.

**Breaks.**  The text has been normalised (`normalizeBreaks`): a break is one character,
and it is a line feed unless it is one of the two separators that are kept.

**Gaps.**  Between two pieces of a flow scalar stands a gap of blanks and breaks.  Blanks
within a line are kept.  A single line feed becomes a space, and of several the first is
dropped (`Gap.folded`).

**Recursion.**  All readers walk the characters one at a time, with what has been read
kept in reverse.

## Main definitions

* `Position`, `Cursor`: where the reader is, and what is left.
* `plainScalar`, `singleQuotedScalar`, `doubleQuotedScalar`, `blockScalar`: the readers.
-/

namespace WorkspaceVolumes.Yaml

/-! ### Positions -/

/-- A place in a text. -/
structure Position where
  /-- The number of bytes before it in UTF-8. -/
  index : Nat
  /-- The number of breaks before it. -/
  line : Nat
  /-- The number of characters since the last break. -/
  column : Nat
  deriving DecidableEq

/-- The place behind a character. -/
def Position.after (position : Position) (c : Char) : Position :=
  if isBreak c then ⟨position.index + c.utf8Size, position.line + 1, 0⟩
  else ⟨position.index + c.utf8Size, position.line, position.column + 1⟩

/-- The place behind some characters. -/
def Position.afterAll (position : Position) (passed : List Char) : Position :=
  passed.foldl Position.after position

/-- A place in a text together with the characters that follow it. -/
structure Cursor where
  position : Position
  rest : List Char

/-- The cursor some characters further. -/
def Cursor.drop (cursor : Cursor) (count : Nat) : Cursor :=
  ⟨cursor.position.afterAll (cursor.rest.take count), cursor.rest.drop count⟩

/-- The longest run of characters that pass a test, and the cursor behind it. -/
def Cursor.takeWhile (accept : Char → Bool) (cursor : Cursor) : List Char × Cursor :=
  let run := cursor.rest.takeWhile accept
  (run, cursor.drop run.length)

/-- The text with each line end as one character: a carriage return, a next line and a
carriage return with its line feed all become a line feed. -/
def normalizeBreaks : List Char → List Char
  | '\r' :: '\n' :: rest => '\n' :: normalizeBreaks rest
  | c :: rest => (if c = '\r' || c = '\u0085' then '\n' else c) :: normalizeBreaks rest
  | [] => []

/-- Whether a text opens with three dashes or three dots that stand alone. -/
def startsMarker : List Char → Bool
  | '-' :: '-' :: '-' :: rest => startsBlankOrEnd rest
  | '.' :: '.' :: '.' :: rest => startsBlankOrEnd rest
  | _ => false

/-! ### Gaps -/

/-- What has been passed since the last character of a flow scalar. -/
inductive Gap
  /-- Nothing. -/
  | none
  /-- Blanks, in reverse. -/
  | blanks (reversed : List Char)
  /-- A break and the further breaks, in reverse.  An escaped break is not kept as the
  first. -/
  | lines (first : Option Char) (more : List Char)

/-- What a gap contributes to the value of a scalar, in reverse. -/
def Gap.folded : Gap → List Char
  | .none => []
  | .blanks reversed => reversed
  | .lines (some '\n') [] => [' ']
  | .lines (some '\n') more => more
  | .lines first more => more ++ first.toList

/-- A gap continued by a break. -/
def Gap.addBreak (c : Char) : Gap → Gap
  | .lines first more => .lines first (c :: more)
  | _ => .lines (some c) []

/-- A gap continued by a blank.  Blanks at the start of a line are indentation. -/
def Gap.addBlank (c : Char) : Gap → Gap
  | .none => .blanks [c]
  | .blanks reversed => .blanks (c :: reversed)
  | .lines first more => .lines first more

/-- Whether a gap runs over the end of a line. -/
def Gap.isMultiline : Gap → Bool
  | .lines _ _ => true
  | _ => false

/-- Whether there is something in a gap. -/
def Gap.isOpen : Gap → Bool
  | .none => false
  | _ => true

/-! ### Plain scalars -/

/-- A plain scalar that has been read. -/
structure PlainLexeme where
  text : List Char
  /-- Behind the scalar and the gap that follows it. -/
  cursor : Cursor
  /-- Whether that gap runs over the end of a line. -/
  endsLine : Bool

/-- Whether a character ends a plain scalar, given what follows it. -/
def endsPlain (inFlow : Bool) (c : Char) (rest : List Char) : Bool :=
  (c = ':' && startsBlankOrEnd rest) || (inFlow && isFlowIndicator c)

/-- Whether a colon in a flow collection is followed by an indicator that it cannot be
told from. -/
def isStrayColon (c : Char) (rest : List Char) : Bool :=
  c = ':' && rest.head?.any fun d => isFlowIndicator d || d = '?'

/-- Reads a plain scalar from its second character on.  In block context its lines are
indented by at least `limit`. -/
def plainRest (inFlow : Bool) (limit : Nat) (gap : Gap) (read : List Char) (position : Position) :
    List Char → Except ReadFault PlainLexeme
  | [] => .ok ⟨read.reverse, ⟨position, []⟩, gap.isMultiline⟩
  | c :: rest =>
    if isSpaceOrTab c then
      if c = '\t' && gap.isMultiline && position.column < limit then
        .error (.malformed "found a tab character that violates indentation")
      else plainRest inFlow limit (gap.addBlank c) read (position.after c) rest
    else if isBreak c then
      plainRest inFlow limit (gap.addBreak c) read (position.after c) rest
    else if gap.isOpen && ((!inFlow && position.column < limit) || c = '#' ||
        (position.column = 0 && startsMarker (c :: rest))) then
      .ok ⟨read.reverse, ⟨position, c :: rest⟩, gap.isMultiline⟩
    else if inFlow && isStrayColon c rest then .error (.malformed "found unexpected ':'")
    else if endsPlain inFlow c rest then
      .ok ⟨read.reverse, ⟨position, c :: rest⟩, gap.isMultiline⟩
    else plainRest inFlow limit .none (c :: (gap.folded ++ read)) (position.after c) rest

/-- Reads a plain scalar. -/
def plainScalar (inFlow : Bool) (limit : Nat) (cursor : Cursor) : Except ReadFault PlainLexeme :=
  match cursor.rest with
  | [] => .error (.malformed "did not find a scalar")
  | c :: rest => plainRest inFlow limit .none [c] (cursor.position.after c) rest

/-! ### Quoted scalars -/

/-- Reads a single-quoted scalar from behind its opening quote. -/
def singleQuotedRest (gap : Gap) (read : List Char) (position : Position) :
    List Char → Except ReadFault (List Char × Cursor)
  | [] => .error (.malformed "found unexpected end of stream")
  | c :: rest =>
    if isSpaceOrTab c then singleQuotedRest (gap.addBlank c) read (position.after c) rest
    else if isBreak c then singleQuotedRest (gap.addBreak c) read (position.after c) rest
    else if gap.isOpen && position.column = 0 && startsMarker (c :: rest) then
      .error (.malformed "found unexpected document indicator")
    else if c = '\'' then
      match rest with
      | '\'' :: rest =>
        singleQuotedRest .none ('\'' :: (gap.folded ++ read)) ((position.after c).after '\'') rest
      | rest => .ok ((gap.folded ++ read).reverse, ⟨position.after c, rest⟩)
    else singleQuotedRest .none (c :: (gap.folded ++ read)) (position.after c) rest

/-- Where the reader of a double-quoted scalar is. -/
inductive QuoteState
  /-- Between characters. -/
  | text (gap : Gap)
  /-- Behind a backslash. -/
  | escape
  /-- Within the digits of an escape: those still to come, and the value of those read. -/
  | digits (left value : Nat)

/-- The character that a letter stands for behind a backslash. -/
def escapedChar? (c : Char) : Option Char :=
  match c with
  | '0' => some '\x00'
  | 'a' => some '\x07'
  | 'b' => some '\x08'
  | 't' | '\t' => some '\t'
  | 'n' => some '\n'
  | 'v' => some '\x0B'
  | 'f' => some '\x0C'
  | 'r' => some '\r'
  | 'e' => some '\x1B'
  | ' ' => some ' '
  | '"' => some '"'
  | '/' => some '/'
  | '\\' => some '\\'
  | 'N' => some '\u0085'
  | '_' => some '\u00A0'
  | 'L' => some '\u2028'
  | 'P' => some '\u2029'
  | _ => none

/-- The number of hexadecimal digits that a letter announces behind a backslash. -/
def escapeLength? (c : Char) : Option Nat :=
  match c with
  | 'x' => some 2
  | 'u' => some 4
  | 'U' => some 8
  | _ => none

/-- The character of a code point, surrogates and numbers beyond the last code point
excluded. -/
def charOfCode? (code : Nat) : Option Char :=
  if h : code.isValidChar then some (Char.ofNatAux code h) else none

/-- Reads a double-quoted scalar from behind its opening quote. -/
def doubleQuotedRest (state : QuoteState) (read : List Char) (position : Position) :
    List Char → Except ReadFault (List Char × Cursor)
  | [] => .error (.malformed "found unexpected end of stream")
  | c :: rest =>
    match state with
    | .text gap =>
      if isSpaceOrTab c then doubleQuotedRest (.text (gap.addBlank c)) read (position.after c) rest
      else if isBreak c then doubleQuotedRest (.text (gap.addBreak c)) read (position.after c) rest
      else if gap.isOpen && position.column = 0 && startsMarker (c :: rest) then
        .error (.malformed "found unexpected document indicator")
      else if c = '"' then .ok ((gap.folded ++ read).reverse, ⟨position.after c, rest⟩)
      else if c = '\\' then doubleQuotedRest .escape (gap.folded ++ read) (position.after c) rest
      else doubleQuotedRest (.text .none) (c :: (gap.folded ++ read)) (position.after c) rest
    | .escape =>
      if isBreak c then doubleQuotedRest (.text (.lines none [])) read (position.after c) rest
      else match escapedChar? c, escapeLength? c with
        | some value, _ => doubleQuotedRest (.text .none) (value :: read) (position.after c) rest
        | none, some left => doubleQuotedRest (.digits left 0) read (position.after c) rest
        | none, none => .error (.malformed "found unknown escape character")
    | .digits left value =>
      if Text.digitValue c < 16 then
        let value := 16 * value + Text.digitValue c
        if left ≤ 1 then
          match charOfCode? value with
          | some char => doubleQuotedRest (.text .none) (char :: read) (position.after c) rest
          | none => .error (.malformed "found invalid Unicode character escape code")
        else doubleQuotedRest (.digits (left - 1) value) read (position.after c) rest
      else .error (.malformed "did not find expected hexdecimal number")

/-- Reads a single-quoted scalar. -/
def singleQuotedScalar (cursor : Cursor) : Except ReadFault (List Char × Cursor) :=
  singleQuotedRest .none [] (cursor.drop 1).position (cursor.drop 1).rest

/-- Reads a double-quoted scalar. -/
def doubleQuotedScalar (cursor : Cursor) : Except ReadFault (List Char × Cursor) :=
  doubleQuotedRest (.text .none) [] (cursor.drop 1).position (cursor.drop 1).rest

/-! ### Block scalars -/

/-- What becomes of the breaks at the end of a block scalar. -/
inductive Chomping
  /-- All are dropped. -/
  | strip
  /-- The first is kept. -/
  | clip
  /-- All are kept. -/
  | keep

/-- The header of a block scalar. -/
structure BlockHeader where
  chomping : Chomping
  /-- The announced indentation relative to the enclosing one. -/
  increment : Option Nat

/-- The chomping that a mark announces. -/
def Chomping.ofMark? (c : Char) : Option Chomping :=
  if c = '+' then some .keep else if c = '-' then some .strip else none

/-- The indentation that a digit announces; zero is not one. -/
def incrementOf? (c : Char) : Option Nat := if c.isDigit && c ≠ '0' then some (Text.digitValue c) else none

/-- The marks behind the indicator of a block scalar, in either order, and how many there
are. -/
def BlockHeader.ofText (text : List Char) : Except ReadFault (BlockHeader × Nat) :=
  let zero : Except ReadFault (BlockHeader × Nat) :=
    .error (.malformed "found an indentation indicator equal to 0")
  match text with
  | [] => .ok (⟨.clip, none⟩, 0)
  | a :: more =>
    match Chomping.ofMark? a with
    | some chomping =>
      match more.head? with
      | some '0' => zero
      | some b =>
        match incrementOf? b with
        | some increment => .ok (⟨chomping, some increment⟩, 2)
        | none => .ok (⟨chomping, none⟩, 1)
      | none => .ok (⟨chomping, none⟩, 1)
    | none =>
      if a = '0' then zero
      else match incrementOf? a with
        | none => .ok (⟨.clip, none⟩, 0)
        | some increment =>
          match more.head?.bind Chomping.ofMark? with
          | some chomping => .ok (⟨chomping, some increment⟩, 2)
          | none => .ok (⟨.clip, some increment⟩, 1)

/-- Passes the blanks and the comment that may end a line, up to its break. -/
def lineEnd (comment : Bool) (position : Position) : List Char → Option Cursor
  | [] => some ⟨position, []⟩
  | c :: rest =>
    if isBreak c then some ⟨position, c :: rest⟩
    else if comment || c = '#' then lineEnd true (position.after c) rest
    else if isSpaceOrTab c then lineEnd false (position.after c) rest
    else none

/-- Passes empty lines and the indentation before the first text of a block scalar, whose
indentation is still unknown.  Returns the breaks, in reverse, and the widest indentation
met. -/
def leadingLines (breaks : List Char) (widest : Nat) (position : Position) :
    List Char → Except ReadFault (List Char × Nat × Cursor)
  | [] => .ok (breaks, max widest position.column, ⟨position, []⟩)
  | c :: rest =>
    let widest := max widest position.column
    if c = ' ' then leadingLines breaks widest (position.after c) rest
    else if c = '\t' then
      .error (.malformed "found a tab character where an indentation space is expected")
    else if isBreak c then leadingLines (c :: breaks) widest (position.after c) rest
    else .ok (breaks, widest, ⟨position, c :: rest⟩)

/-- The lines of a block scalar that have been read: the value so far, the break of the
last line, the empty lines behind it, and whether the last line starts with a blank. -/
structure BlockLines where
  read : List Char
  lastBreak : Option Char
  emptyLines : List Char
  startsBlank : Bool

/-- What the lines read so far are when another line begins: its break stays, or folds
into a space. -/
def BlockLines.joined (lines : BlockLines) (isLiteral startsBlank : Bool) : List Char :=
  if !isLiteral && lines.lastBreak = some '\n' && !lines.startsBlank && !startsBlank then
    lines.emptyLines ++ ((if lines.emptyLines.isEmpty then [' '] else []) ++ lines.read)
  else lines.emptyLines ++ (lines.lastBreak.toList ++ lines.read)

/-- The value of a block scalar that ends behind the lines read so far. -/
def BlockLines.value (lines : BlockLines) (chomping : Chomping) : List Char :=
  match chomping with
  | .strip => lines.read.reverse
  | .clip => (lines.lastBreak.toList ++ lines.read).reverse
  | .keep => (lines.emptyLines ++ (lines.lastBreak.toList ++ lines.read)).reverse

/-- Reads the lines of a block scalar of known indentation, either within a line or
between two. -/
def blockLines (isLiteral : Bool) (indent : Nat) (inLine : Bool) (lines : BlockLines)
    (position : Position) : List Char → Except ReadFault (BlockLines × Cursor)
  | [] => .ok (lines, ⟨position, []⟩)
  | c :: rest =>
    if inLine then
      if isBreak c then
        blockLines isLiteral indent false { lines with lastBreak := some c, emptyLines := [] }
          (position.after c) rest
      else
        blockLines isLiteral indent true { lines with read := c :: lines.read }
          (position.after c) rest
    else if c = ' ' && position.column < indent then
      blockLines isLiteral indent false lines (position.after c) rest
    else if c = '\t' && position.column < indent then
      .error (.malformed "found a tab character where an indentation space is expected")
    else if isBreak c then
      blockLines isLiteral indent false { lines with emptyLines := c :: lines.emptyLines }
        (position.after c) rest
    else if position.column = indent then
      let startsBlank := isSpaceOrTab c
      blockLines isLiteral indent true
        { read := c :: lines.joined isLiteral startsBlank, lastBreak := none, emptyLines := [],
          startsBlank }
        (position.after c) rest
    else .ok (lines, ⟨position, c :: rest⟩)

/-- Reads a block scalar, the lines of which are indented more than the enclosing
collection. -/
def blockScalar (isLiteral : Bool) (enclosing : Option Nat) (cursor : Cursor) :
    Except ReadFault (List Char × Cursor) := do
  let marks := cursor.drop 1
  let (header, length) ← BlockHeader.ofText marks.rest
  let body := marks.drop length
  match lineEnd false body.position body.rest with
  | none => throw (.malformed "did not find expected comment or line break")
  | some ⟨position, ending⟩ =>
    let start : Cursor := match ending with
      | [] => ⟨position, []⟩
      | c :: rest => ⟨position.after c, rest⟩
    let none' : BlockLines := ⟨[], none, [], false⟩
    let (lines, cursor) ← match header.increment with
      | some increment =>
        blockLines isLiteral (enclosing.getD 0 + increment) false none' start.position start.rest
      | none => do
        let (breaks, widest, first) ← leadingLines [] 0 start.position start.rest
        let least := max 1 ((enclosing.map (· + 1)).getD 0)
        blockLines isLiteral (max widest least) false { none' with emptyLines := breaks }
          first.position first.rest
    return (lines.value header.chomping, cursor)

end WorkspaceVolumes.Yaml
