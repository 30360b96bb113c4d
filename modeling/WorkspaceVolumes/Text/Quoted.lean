import WorkspaceVolumes.Text.Combining

/-!
# Quoted text

The display of a string for inspection: in double quotes, with everything escaped that
cannot be seen by itself.  A character that is drawn onto the one before it cannot,
because it would be drawn onto the quote.

## Main definitions

* `Text.quoted`.
-/

namespace WorkspaceVolumes.Text

/-- A character by its number, in as few hexadecimal digits as possible. -/
def numberedEscape (c : Char) : List Char :=
  ['\\', 'u', '{'] ++ Nat.toDigits 16 c.toNat ++ ['}']

/-- A character as it stands within quotes. -/
def quotedChar (c : Char) : List Char :=
  match c with
  | '"' => ['\\', '"']
  | '\\' => ['\\', '\\']
  | '\n' => ['\\', 'n']
  | '\r' => ['\\', 'r']
  | '\t' => ['\\', 't']
  | '\x00' => ['\\', '0']
  | c => if isVisible c && !isCombining c then [c] else numberedEscape c

/-- A string in double quotes. -/
def quoted (text : String) : String :=
  String.ofList ('"' :: text.toList.flatMap quotedChar ++ ['"'])

end WorkspaceVolumes.Text
