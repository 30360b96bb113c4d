import WorkspaceVolumes.Draws
import WorkspaceVolumes.Error

/-!
# Names and places

What a provisioned object is called, and where inside its backing storage a machine's
volume lives.

**Names.**  A generated name is a stem, a hyphen and eight random lowercase letters or
digits.

**Sub-paths.**  All machines of a workspace share a volume.  The volume `logs` alone is
divided, one directory for each machine.

## Main definitions

* `suffixChar`, `randomSuffix`, `generateName`.
* `subPath`, `logsVolumeName`.
-/

namespace WorkspaceVolumes

/-- The characters of the random part of a name. -/
def suffixAlphabet : List Char := "abcdefghijklmnopqrstuvwxyz0123456789".toList

/-- The character that a random number selects. -/
def suffixChar (draw : Nat) : Char := suffixAlphabet.getD (draw % suffixAlphabet.length) 'a'

/-- Random characters, one for each number, first to last. -/
def randomSuffix (length : Nat) (draws : DrawStream) : String × DrawStream :=
  (String.ofList ((draws.peek length).map suffixChar), draws.take length)

/-- A name that starts with a stem and is otherwise random. -/
def generateName (stem : String) (draws : DrawStream) : String × DrawStream :=
  let (suffix, draws) := randomSuffix nameSuffixLength draws
  (stem ++ "-" ++ suffix, draws)

/-- A number of names drawn one after another. -/
def generateNames (stem : String) : Nat → DrawStream → List String × DrawStream
  | 0, draws => ([], draws)
  | count + 1, draws =>
    let (name, draws) := generateName stem draws
    let (names, draws) := generateNames stem count draws
    (name :: names, draws)

/-- The volume that each machine has a part of its own in. -/
def logsVolumeName : String := "logs"

/-- The directory of a machine's volume inside its backing storage. -/
def subPath (workspaceId volumeName machineName : String) : String :=
  if volumeName = logsVolumeName then workspaceId ++ "/" ++ volumeName ++ "/" ++ machineName
  else workspaceId ++ "/" ++ volumeName

@[simp] theorem used_randomSuffix (length : Nat) (draws : DrawStream) :
    (randomSuffix length draws).2.used = draws.used + length := rfl

@[simp] theorem used_generateName (stem : String) (draws : DrawStream) :
    (generateName stem draws).2.used = draws.used + nameSuffixLength := rfl

end WorkspaceVolumes
