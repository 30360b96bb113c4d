import WorkspaceVolumes.Data.Basic

/-!
# Writing JSON

A value as one line of JSON, without blanks, the entries of a record in the order in which
it holds them.

**Keys** of JSON objects are strings, so only texts stand as themselves.  Any other key
stands as the text that it would be written as.
-/

namespace WorkspaceVolumes.Json

/-- A character as it stands within a string. -/
def escape (c : Char) : List Char :=
  if c = '"' then ['\\', '"']
  else if c = '\\' then ['\\', '\\']
  else if c < ' ' then '\\' :: 'u' :: Text.fixedDigits Text.smallHex 4 c.toNat
  else [c]

/-- A string with its quotes. -/
def stringText (string : List Char) : List Char := '"' :: string.flatMap escape ++ ['"']

mutual

/-- A value as written. -/
def valueText : Data → List Char
  | .null => "null".toList
  | .flag value => if value then "true".toList else "false".toList
  | .whole value => (toString value).toList
  | .decimal numeral => numeral.toList
  | .text string => stringText string.toList
  | .list items => '[' :: itemsText true items ++ [']']
  | .record entries => '{' :: entriesText true entries ++ ['}']

/-- Values with a comma before each but the first. -/
def itemsText (isFirst : Bool) : List Data → List Char
  | [] => []
  | item :: rest => (if isFirst then [] else [',']) ++ valueText item ++ itemsText false rest

/-- Entries with a comma before each but the first. -/
def entriesText (isFirst : Bool) : List (Data × Data) → List Char
  | [] => []
  | entry :: rest => (if isFirst then [] else [',']) ++ entryText entry ++ entriesText false rest

/-- An entry: its key, a colon and its value. -/
def entryText : Data × Data → List Char
  | (.text key, value) => stringText key.toList ++ ':' :: valueText value
  | (key, value) => stringText (valueText key) ++ ':' :: valueText value

end

/-- A value as JSON text. -/
def print (value : Data) : String := String.ofList (valueText value)

end WorkspaceVolumes.Json
