import WorkspaceVolumes.Yaml.Tag

/-!
# Tokens of a YAML text

The reader first cuts a text into tokens.  Indentation becomes brackets: a collection in
block style opens where its first entry stands further right than what encloses it, and
closes where a line starts further left.

**Implicit keys.**  Whether a scalar is a key shows only at the colon behind it.  The
scanner therefore remembers where the latest possible key started (`KeyCandidate`) and, at
the colon, puts the key token, and if need be the opening of the mapping, in front of what
it has already produced.  A candidate has to be on one line and at most 1024 bytes away.
Where nothing but a key may stand, a candidate that comes to nothing is a fault.

**Flow collections** suspend indentation; each level has a candidate of its own.

**Byte order marks** are blank where they begin a line.

## Main definitions

* `Token`: the tokens.  The end of the list is the end of the text.
* `TokenLog`: the tokens produced so far.
* `Scanner`, `Scanner.fetch`: the state between two tokens, and the reading of one.
* `Token.scan`: the tokens of a text.
-/

namespace WorkspaceVolumes.Yaml

/-- A token. -/
inductive Token
  | documentStart
  | documentEnd
  | versionDirective (major minor : Nat)
  | tagDirective (handle : List Char) (stem : TagText)
  | blockSequenceStart
  | blockMappingStart
  | blockEnd
  | flowSequenceStart
  | flowSequenceEnd
  | flowMappingStart
  | flowMappingEnd
  | blockEntry
  | flowEntry
  | key
  | value
  | alias (name : List Char)
  | anchor (name : List Char)
  | tag (handle : List Char) (suffix : TagText)
  | scalar (style : ScalarStyle) (text : List Char)
  deriving DecidableEq

/-! ### Produced tokens -/

/-- The tokens produced so far, with their number at hand. -/
structure TokenLog where
  /-- The tokens, latest first. -/
  latest : List Token
  /-- How many there are. -/
  size : Nat
  size_eq : size = latest.length

namespace TokenLog

/-- No tokens. -/
def empty : TokenLog := ⟨[], 0, rfl⟩

/-- The tokens, first to last. -/
def toList (log : TokenLog) : List Token := log.latest.reverse

/-- A further token. -/
def push (log : TokenLog) (token : Token) : TokenLog :=
  ⟨token :: log.latest, log.size + 1, by simp [log.size_eq]⟩

/-- A further token, several times. -/
def pushMany (log : TokenLog) (count : Nat) (token : Token) : TokenLog :=
  ⟨List.replicate count token ++ log.latest, count + log.size, by simp [log.size_eq]⟩

/-- A token put in behind the first `count` ones. -/
def insertAfter (log : TokenLog) (count : Nat) (token : Token) : TokenLog :=
  ⟨log.latest.insertIdx (log.size - count) token, log.size + 1, by
    simp [List.length_insertIdx, log.size_eq]⟩

@[simp] theorem toList_empty : empty.toList = [] := rfl

@[simp] theorem toList_push (log : TokenLog) (token : Token) :
    (log.push token).toList = log.toList ++ [token] := by
  simp [toList, push]

@[simp] theorem toList_pushMany (log : TokenLog) (count : Nat) (token : Token) :
    (log.pushMany count token).toList = log.toList ++ List.replicate count token := by
  simp [toList, pushMany]

end TokenLog

/-! ### Scanners -/

/-- Where the latest node that could be an implicit key started. -/
structure KeyCandidate where
  /-- The number of tokens before it. -/
  tokensBefore : Nat
  /-- Its place in the text. -/
  position : Position
  /-- Whether only a key may stand there. -/
  required : Bool

/-- The state of scanning between two tokens. -/
structure Scanner where
  cursor : Cursor
  /-- The tokens produced so far. -/
  produced : TokenLog
  /-- The indentations of the open block collections, innermost first. -/
  indents : List Nat
  /-- Whether an implicit key may start here. -/
  keyAllowed : Bool
  /-- The candidate at the present level of flow collections. -/
  candidate : Option KeyCandidate
  /-- The candidates of the enclosing levels, innermost first; there is one for each open
  flow collection. -/
  enclosing : List (Option KeyCandidate)

namespace Scanner

/-- The state at the start of a text. -/
def start (text : List Char) : Scanner where
  cursor := ⟨⟨0, 0, 0⟩, text⟩
  produced := .empty
  indents := []
  keyAllowed := true
  candidate := none
  enclosing := []

/-- Whether a flow collection is open. -/
def inFlow (s : Scanner) : Bool := !s.enclosing.isEmpty

/-- The column of the next character. -/
def column (s : Scanner) : Nat := s.cursor.position.column

/-- The characters that are left. -/
def rest (s : Scanner) : List Char := s.cursor.rest

/-- Produces a token. -/
def push (s : Scanner) (token : Token) : Scanner := { s with produced := s.produced.push token }

/-- Produces a token and passes the characters of its spelling. -/
def emit (s : Scanner) (token : Token) (length : Nat) : Scanner :=
  { s.push token with cursor := s.cursor.drop length }

/-- Puts a token in behind the first `count` ones. -/
def insertAfter (s : Scanner) (count : Nat) (token : Token) : Scanner :=
  { s with produced := s.produced.insertAfter count token }

/-! ### Indentation -/

/-- Whether a collection that starts at a column is nested in the innermost open one. -/
def opensBlockAt (s : Scanner) (column : Nat) : Bool :=
  !s.inFlow && match s.indents with
    | [] => true
    | indent :: _ => indent < column

/-- Opens a block collection at the present column, if it is a nested one. -/
def openBlock (s : Scanner) (token : Token) : Scanner :=
  if s.opensBlockAt s.column then { s.push token with indents := s.column :: s.indents } else s

/-- The collections that a line starting at a column closes, as the number of tokens and
what stays open. -/
def closedBy (column : Nat) : List Nat → Nat × List Nat
  | [] => (0, [])
  | indent :: outer =>
    if column < indent then
      let (count, left) := closedBy column outer
      (count + 1, left)
    else (0, indent :: outer)

/-- Closes the block collections that end at the present column. -/
def closeBlocks (s : Scanner) : Scanner :=
  if s.inFlow then s
  else
    let (count, left) := closedBy s.column s.indents
    { s with produced := s.produced.pushMany count .blockEnd, indents := left }

/-- Closes all block collections. -/
def closeAllBlocks (s : Scanner) : Scanner :=
  if s.inFlow then s
  else
    { s with produced := s.produced.pushMany s.indents.length .blockEnd, indents := [] }

/-! ### Implicit keys -/

/-- The greatest distance between the start of an implicit key and its colon, in bytes. -/
def maxKeyDistance : Nat := 1024

/-- Whether a candidate is out of reach of a colon at a position. -/
def isStale (position : Position) (candidate : KeyCandidate) : Bool :=
  candidate.position.line < position.line ||
    candidate.position.index + maxKeyDistance < position.index

/-- Gives up a candidate that is out of reach. -/
def refreshed (position : Position) : Option KeyCandidate → Except ReadFault (Option KeyCandidate)
  | none => .ok none
  | some candidate =>
    if isStale position candidate then
      if candidate.required then .error (.malformed "could not find expected ':'") else .ok none
    else .ok (some candidate)

/-- Gives up all candidates that are out of reach. -/
def refreshCandidates (s : Scanner) : Except ReadFault Scanner := do
  let candidate ← refreshed s.cursor.position s.candidate
  let enclosing ← s.enclosing.mapM (refreshed s.cursor.position)
  return { s with candidate, enclosing }

/-- Gives up the candidate of the present level. -/
def dropCandidate (s : Scanner) : Except ReadFault Scanner :=
  match s.candidate with
  | some candidate =>
    if candidate.required then .error (.malformed "could not find expected ':'")
    else .ok { s with candidate := none }
  | none => .ok s

/-- Remembers the present place as the start of a possible key. -/
def saveCandidate (s : Scanner) : Except ReadFault Scanner := do
  if s.keyAllowed then
    let s ← s.dropCandidate
    let required := !s.inFlow && s.indents.head? = some s.column
    return { s with candidate := some ⟨s.produced.size, s.cursor.position, required⟩ }
  else return s

/-! ### Blanks and comments -/

/-- Passes blanks, comments and empty lines.  In block context a line break makes room for
a key, and tabs may not stand where a key may.  A byte order mark is a blank at the start
of a line. -/
def skipBlanks (inFlow keyAllowed comment : Bool) (position : Position) :
    List Char → Bool × Cursor
  | [] => (keyAllowed, ⟨position, []⟩)
  | c :: rest =>
    if isBreak c then
      skipBlanks inFlow (if inFlow then keyAllowed else true) false (position.after c) rest
    else if comment || (position.column = 0 && c = byteOrderMark) || c = ' ' ||
        ((inFlow || !keyAllowed) && c = '\t') then
      skipBlanks inFlow keyAllowed comment (position.after c) rest
    else if c = '#' then skipBlanks inFlow keyAllowed true (position.after c) rest
    else (keyAllowed, ⟨position, c :: rest⟩)

/-- Passes everything before the next token. -/
def toNextToken (s : Scanner) : Scanner :=
  let (keyAllowed, cursor) := skipBlanks s.inFlow s.keyAllowed false s.cursor.position s.rest
  { s with keyAllowed, cursor }

/-! ### Indicators -/

/-- Opens a flow collection. -/
def openFlow (s : Scanner) (token : Token) : Except ReadFault Scanner := do
  let s ← s.saveCandidate
  return { s.emit token 1 with
    keyAllowed := true, candidate := none, enclosing := s.candidate :: s.enclosing }

/-- Closes a flow collection. -/
def closeFlow (s : Scanner) (token : Token) : Except ReadFault Scanner := do
  let s ← s.dropCandidate
  let s := { s.emit token 1 with keyAllowed := false }
  match s.enclosing with
  | [] => return s
  | candidate :: enclosing => return { s with candidate, enclosing }

/-- Reads the comma between the entries of a flow collection. -/
def flowEntry (s : Scanner) : Except ReadFault Scanner := do
  let s ← s.dropCandidate
  return { s.emit .flowEntry 1 with keyAllowed := true }

/-- Reads the dash of a sequence in block style. -/
def blockEntry (s : Scanner) : Except ReadFault Scanner := do
  if !s.inFlow && !s.keyAllowed then
    throw (.malformed "block sequence entries are not allowed in this context")
  let s ← (s.openBlock .blockSequenceStart).dropCandidate
  return { s.emit .blockEntry 1 with keyAllowed := true }

/-- Reads the question mark that announces a key. -/
def explicitKey (s : Scanner) : Except ReadFault Scanner := do
  if !s.inFlow && !s.keyAllowed then
    throw (.malformed "mapping keys are not allowed in this context")
  let s ← (s.openBlock .blockMappingStart).dropCandidate
  return { s.emit .key 1 with keyAllowed := !s.inFlow }

/-- Reads the colon between a key and its value.  If there is a candidate, it was the
key. -/
def colon (s : Scanner) : Except ReadFault Scanner := do
  match s.candidate with
  | some candidate =>
    let column := candidate.position.column
    let keyed := s.insertAfter candidate.tokensBefore .key
    let opened :=
      if s.opensBlockAt column then
        { keyed.insertAfter candidate.tokensBefore .blockMappingStart with
          indents := column :: s.indents }
      else keyed
    return { opened.emit .value 1 with candidate := none, keyAllowed := false }
  | none =>
    if !s.inFlow && !s.keyAllowed then
      throw (.malformed "mapping values are not allowed in this context")
    let s := s.openBlock .blockMappingStart
    return { s.emit .value 1 with keyAllowed := !s.inFlow }

/-- Reads a document marker. -/
def documentMarker (s : Scanner) (token : Token) : Except ReadFault Scanner := do
  let s ← s.closeAllBlocks.dropCandidate
  return { s.emit token 3 with keyAllowed := false }

/-! ### Anchors and tags -/

/-- Reads an anchor or an alias, whose name may be followed by blanks and by some
indicators. -/
def anchorOrAlias (s : Scanner) (token : List Char → Token) : Except ReadFault Scanner := do
  let s ← s.saveCandidate
  let (name, cursor) := (s.cursor.drop 1).takeWhile isWordChar
  let mayFollow (c : Char) : Bool :=
    c = '?' || c = ':' || c = ',' || c = ']' || c = '}' || c = '%' || c = '@' || c = '\x60'
  if name.isEmpty || !(startsBlankOrEnd cursor.rest || cursor.rest.head?.any mayFollow) then
    throw (.malformed "did not find expected alphabetic or numeric character")
  return { s.push (token name) with cursor, keyAllowed := false }

/-- Reads a tag. -/
def tag (s : Scanner) : Except ReadFault Scanner := do
  let s ← s.saveCandidate
  let (handle, suffix, cursor) ← tagParts s.cursor
  if !(startsBlankOrEnd cursor.rest || (s.inFlow && cursor.rest.head? = some ',')) then
    throw (.malformed "did not find expected whitespace or line break")
  return { s.push (.tag handle suffix) with cursor, keyAllowed := false }

/-! ### Directives -/

/-- Reads a number of at most nine digits. -/
def versionNumber (cursor : Cursor) : Except ReadFault (Nat × Cursor) :=
  let (digits, behind) := cursor.takeWhile Char.isDigit
  match Text.ofDigits? 10 digits with
  | some value =>
    if digits.length ≤ 9 then .ok (value, behind)
    else .error (.malformed "found extremely long version number")
  | none => .error (.malformed "did not find expected version number")

/-- Reads the rest of a directive behind its name. -/
def directiveToken (name : List Char) (cursor : Cursor) : Except ReadFault (Token × Cursor) := do
  let blanks (cursor : Cursor) : List Char × Cursor := cursor.takeWhile isSpaceOrTab
  let start := (blanks cursor).2
  if name = "YAML".toList then
    let (major, behind) ← versionNumber start
    match behind.rest with
    | '.' :: _ =>
      let (minor, behind) ← versionNumber (behind.drop 1)
      return (.versionDirective major minor, behind)
    | _ => throw (.malformed "did not find expected digit or '.' character")
  else if name = "TAG".toList then
    let (handle, behind) ← tagHandle start
    if handle ≠ ['!'] && handle.getLast? ≠ some '!' then
      throw (.malformed "did not find expected '!'")
    let (gap, behind) := blanks behind
    if gap.isEmpty then throw (.malformed "did not find expected whitespace")
    let (stem, behind) ← tagText true 0 [] behind.position behind.rest
    if stem.isEmpty then throw (.malformed "did not find expected tag URI")
    if !startsBlankOrEnd behind.rest then
      throw (.malformed "did not find expected whitespace or line break")
    return (.tagDirective handle stem.beforeZero, behind)
  else throw (.malformed "found unknown directive name")

/-- Reads a directive, which takes up its line. -/
def directive (s : Scanner) : Except ReadFault Scanner := do
  let s ← s.closeAllBlocks.dropCandidate
  let (name, behind) := (s.cursor.drop 1).takeWhile isWordChar
  if name.isEmpty || !startsBlankOrEnd behind.rest then
    throw (.malformed "could not find expected directive name")
  let (token, behind) ← directiveToken name behind
  match lineEnd false behind.position behind.rest with
  | some ⟨position, ending⟩ =>
    let cursor := match ending with
      | [] => ⟨position, []⟩
      | c :: rest => ⟨position.after c, rest⟩
    return { s.push token with cursor, keyAllowed := false }
  | none => throw (.malformed "did not find expected comment or line break")

/-! ### Scalars -/

/-- Reads a scalar in quotes. -/
def quotedScalar (s : Scanner) (style : ScalarStyle) : Except ReadFault Scanner := do
  let s ← s.saveCandidate
  let (text, cursor) ←
    if style = .singleQuoted then singleQuotedScalar s.cursor else doubleQuotedScalar s.cursor
  return { s.push (.scalar style text) with cursor, keyAllowed := false }

/-- Reads a plain scalar.  Behind one that ends its line there may be a key. -/
def plain (s : Scanner) : Except ReadFault Scanner := do
  let s ← s.saveCandidate
  let limit := (s.indents.head?.map (· + 1)).getD 0
  let lexeme ← plainScalar s.inFlow limit s.cursor
  return { s.push (.scalar .plain lexeme.text) with
    cursor := lexeme.cursor, keyAllowed := lexeme.endsLine }

/-- Reads a block scalar. -/
def block (s : Scanner) (style : ScalarStyle) : Except ReadFault Scanner := do
  let s ← s.dropCandidate
  let (text, cursor) ← blockScalar (style = .literal) s.indents.head? s.cursor
  return { s.push (.scalar style text) with cursor, keyAllowed := true }

/-! ### Steps -/

/-- Reads the token that starts at the present character. -/
def fetch (s : Scanner) (c : Char) (rest : List Char) : Except ReadFault Scanner :=
  if s.column = 0 && c = '%' then s.directive
  else if s.column = 0 && startsMarker (c :: rest) then
    s.documentMarker (if c = '-' then .documentStart else .documentEnd)
  else if c = '[' then s.openFlow .flowSequenceStart
  else if c = '{' then s.openFlow .flowMappingStart
  else if c = ']' then s.closeFlow .flowSequenceEnd
  else if c = '}' then s.closeFlow .flowMappingEnd
  else if c = ',' then s.flowEntry
  else if c = '-' && startsBlankOrEnd rest then s.blockEntry
  else if c = '?' && (s.inFlow || startsBlankOrEnd rest) then s.explicitKey
  else if c = ':' && (s.inFlow || startsBlankOrEnd rest) then s.colon
  else if c = '*' then s.anchorOrAlias .alias
  else if c = '&' then s.anchorOrAlias .anchor
  else if c = '!' then s.tag
  else if c = '|' && !s.inFlow then s.block .literal
  else if c = '>' && !s.inFlow then s.block .folded
  else if c = '\'' then s.quotedScalar .singleQuoted
  else if c = '"' then s.quotedScalar .doubleQuoted
  else if !(isIndicator c || isSpaceOrTab c) || c = '-' || c = '?' || c = ':' then s.plain
  else .error (.malformed "found character that cannot start any token")

/-- The tokens of a text that has been read to its end. -/
def finish (s : Scanner) : Except ReadFault (List Token) := do
  let s ← s.closeAllBlocks.dropCandidate
  return s.produced.toList

/-- Comes to the next token, giving up what has ended before it: candidates and block
collections. -/
def ready (s : Scanner) : Except ReadFault Scanner := do
  let s ← s.toNextToken.refreshCandidates
  return s.closeBlocks

/-- Reads tokens to the end of the text.  Every token takes at least one character, so as
many steps as there are characters are enough. -/
def run : Nat → Scanner → Except ReadFault (List Token)
  | 0, _ => .error (.malformed "found more tokens than characters")
  | steps + 1, s => do
    let s ← s.ready
    match s.rest with
    | [] => s.finish
    | c :: rest => run steps (← s.fetch c rest)

end Scanner

/-- The tokens of a text. -/
def Token.scan (text : List Char) : Except ReadFault (List Token) :=
  if text.all isAllowed then
    let text := normalizeBreaks text
    Scanner.run (text.length + 1) (Scanner.start text)
  else .error (.malformed "control characters are not allowed")

end WorkspaceVolumes.Yaml
