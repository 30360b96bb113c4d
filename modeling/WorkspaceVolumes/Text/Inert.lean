import WorkspaceVolumes.Text.Quoted

/-!
# Text that cannot steer a terminal

A terminal obeys some control characters that stand in what it is given to show.  Inert
text has them spelt out; tabs and line breaks stay.

## Main definitions

* `Text.steersTerminal`, the characters concerned.
* `Text.inert`, the text without them.
-/

namespace WorkspaceVolumes.Text

/-- Whether a character can make a terminal do more than show it: the bell, a backspace, a
form feed, the escape character, the delete character, and the control characters beyond
ASCII. -/
def steersTerminal (c : Char) : Bool :=
  ['\x07', '\x08', '\x0C', '\x1B'].contains c || ('\x7F' ≤ c && c ≤ '\u009F')

/-- A character by its number: in two hexadecimal digits within ASCII, in brackets
beyond. -/
def spelled (c : Char) : List Char :=
  if c.toNat < 0x80 then
    ['\\', 'x', Nat.digitChar (c.toNat / 16), Nat.digitChar (c.toNat % 16)]
  else numberedEscape c

/-- A text with the characters that steer a terminal spelt out. -/
def inert (text : String) : String :=
  String.ofList (text.toList.flatMap fun c => if steersTerminal c then spelled c else [c])

end WorkspaceVolumes.Text
