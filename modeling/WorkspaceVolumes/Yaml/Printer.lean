import WorkspaceVolumes.Yaml.Style

/-!
# Printing values as YAML

Values are printed in block style, two spaces for each level, one entry for each line.  A
sequence below a key stands at the indentation of the key; empty collections are `[]` and
`{}`.

**Two placements.**  What follows `key:` starts a new line if it is a collection
(`hangingNode`).  What follows `-`, `?` or a `:` that opens a line goes on in that line
(`inlineNode`).

**Keys.**  A key of one line and at most 128 bytes stands before its colon.  Any other key
is announced by `?`, and its colon opens a line of its own.
-/

namespace WorkspaceVolumes.Yaml

/-- The longest key, in bytes, that may stand before its colon. -/
def maxKeyLength : Nat := 128

/-- The text of a value that is not a collection, without quotes. -/
def plainText : Data → List Char
  | .null => "null".toList
  | .flag value => if value then "true".toList else "false".toList
  | .whole value => (toString value).toList
  | .decimal numeral => numeral.toList
  | _ => []

/-- The key of an entry before its colon, if it may stand there. -/
def implicitKey? : Data → Option (List Char)
  | .text key =>
    if key.utf8ByteSize ≤ maxKeyLength && !key.toList.any isBreak then
      some (scalarText true 0 key.toList)
    else none
  | .list [] => some "[]".toList
  | .record [] => some "{}".toList
  | .list _ | .record _ => none
  | value => some (plainText value)

mutual

/-- A value behind an indicator that leaves room in its line; `indent` is where the
indicator stands. -/
def inlineNode (indent : Nat) : Data → List Char
  | .text value => ' ' :: scalarLine (indent + indentStep) value.toList
  | .list [] => " []\n".toList
  | .list items => ' ' :: itemLines (indent + indentStep) true items
  | .record [] => " {}\n".toList
  | .record entries => ' ' :: recordLines (indent + indentStep) true entries
  | .null => ' ' :: plainText .null ++ ['\n']
  | .flag value => ' ' :: plainText (.flag value) ++ ['\n']
  | .whole value => ' ' :: plainText (.whole value) ++ ['\n']
  | .decimal numeral => ' ' :: plainText (.decimal numeral) ++ ['\n']

/-- A value behind a key and its colon; `indent` is where the key stands. -/
def hangingNode (indent : Nat) : Data → List Char
  | .text value => ' ' :: scalarLine (indent + indentStep) value.toList
  | .list [] => " []\n".toList
  | .list items => '\n' :: itemLines indent false items
  | .record [] => " {}\n".toList
  | .record entries => '\n' :: recordLines (indent + indentStep) false entries
  | .null => ' ' :: plainText .null ++ ['\n']
  | .flag value => ' ' :: plainText (.flag value) ++ ['\n']
  | .whole value => ' ' :: plainText (.whole value) ++ ['\n']
  | .decimal numeral => ' ' :: plainText (.decimal numeral) ++ ['\n']

/-- The elements of a sequence, each on lines of its own.  The first is not indented if
the line that it goes on in has already come to its place. -/
def itemLines (indent : Nat) (placed : Bool) : List Data → List Char
  | [] => []
  | item :: rest =>
    (if placed then [] else spaces indent) ++ '-' :: inlineNode indent item ++
      itemLines indent false rest

/-- An entry of a mapping, from its key on. -/
def entryLines (indent : Nat) : Data × Data → List Char
  | (key, value) =>
    match implicitKey? key with
    | some text => text ++ ':' :: hangingNode indent value
    | none => '?' :: inlineNode indent key ++ spaces indent ++ ':' :: inlineNode indent value

/-- The entries of a mapping, each on lines of its own, the first as with sequences. -/
def recordLines (indent : Nat) (placed : Bool) : List (Data × Data) → List Char
  | [] => []
  | entry :: rest =>
    (if placed then [] else spaces indent) ++ entryLines indent entry ++
      recordLines indent false rest

end

/-- A value as a whole document. -/
def documentText : Data → List Char
  | .text value => scalarLine indentStep value.toList
  | .list [] => "[]\n".toList
  | .list items => itemLines 0 true items
  | .record [] => "{}\n".toList
  | .record entries => recordLines 0 true entries
  | value => plainText value ++ ['\n']

/-- A value as YAML text. -/
def print (value : Data) : String := String.ofList (documentText value)

end WorkspaceVolumes.Yaml
