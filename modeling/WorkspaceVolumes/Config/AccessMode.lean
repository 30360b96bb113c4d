import WorkspaceVolumes.Data.Reading
import WorkspaceVolumes.Error

/-!
# Access modes

How a claim may be mounted.  The same three words are used in configuration files, in
environment variables, in documents and on display.
-/

namespace WorkspaceVolumes

/-- How a claim may be mounted. -/
inductive AccessMode
  /-- By one node, for reading and writing. -/
  | readWriteOnce
  /-- By many nodes, for reading. -/
  | readOnlyMany
  /-- By many nodes, for reading and writing. -/
  | readWriteMany
  deriving DecidableEq

namespace AccessMode

/-- The word for an access mode. -/
def text : AccessMode → String
  | readWriteOnce => "ReadWriteOnce"
  | readOnlyMany => "ReadOnlyMany"
  | readWriteMany => "ReadWriteMany"

/-- The access mode of a word. -/
def ofText? (word : String) : Option AccessMode :=
  if word = "ReadWriteOnce" then some readWriteOnce
  else if word = "ReadOnlyMany" then some readOnlyMany
  else if word = "ReadWriteMany" then some readWriteMany
  else none

/-- The access mode of a configured word. -/
def parse (word : String) : Except VolumeError AccessMode :=
  match ofText? word with
  | some mode => .ok mode
  | none => .error (.config (.unknownAccessMode word))

@[simp] theorem ofText?_text (mode : AccessMode) : ofText? mode.text = some mode := by
  cases mode <;> decide

/-- An access mode as a value. -/
def toData (mode : AccessMode) : Data := .text mode.text

/-- Reads an access mode. -/
def read {ν : Type} [DataSource ν] (value : ν) : Reading AccessMode := do
  let word ← DataSource.variant value
  match ofText? word with
  | some mode => return mode
  | none => throw (.unknownVariant word)

end AccessMode

end WorkspaceVolumes
