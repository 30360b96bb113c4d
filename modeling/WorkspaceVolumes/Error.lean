/-!
# What can go wrong

An error is the cause of a refusal.  Its category decides how callers react, and only one
distinction is ever acted on: a record that does not exist (`VolumeError.notFound`) is
different from a collaborator that cannot answer (`VolumeError.infrastructure`).

**Wording.**  The text of every error is given here and nowhere else.  Configuration
faults are a type of their own, because which of them arises is part of what the
configuration rules say.

## Main definitions

* `ConfigFault`, `VolumeError`: the causes.
* `ConfigFault.text`, `VolumeError.text`: their wording; `VolumeError.message` adds the
  category.
-/

namespace WorkspaceVolumes

/-- The number of characters of the random part of a generated name. -/
def nameSuffixLength : Nat := 8

/-- The longest object name a cluster accepts. -/
def maxObjectNameLength : Nat := 63

/-- The longest name stem that leaves room for a hyphen and the random part. -/
def maxNameStemLength : Nat := maxObjectNameLength - nameSuffixLength - 1

/-- Why the contents of a configuration file cannot be had. -/
inductive FileFault
  /-- There is no such file. -/
  | absent
  /-- The bytes are not UTF-8 text. -/
  | notText
  deriving DecidableEq

/-- The wording of a file fault. -/
def FileFault.text : FileFault → String
  | absent => "No such file or directory (os error 2)"
  | notText => "stream did not contain valid UTF-8"

/-- Why a configuration is refused. -/
inductive ConfigFault
  /-- The strategy key is blank. -/
  | missingStrategy
  /-- The stem of generated names is blank. -/
  | missingNameStem
  /-- The stem of generated names is not a lowercase label. -/
  | malformedNameStem (stem : String)
  /-- The stem leaves no room for the random part. -/
  | longNameStem (stem : String)
  /-- The claim capacity is not a quantity. -/
  | malformedQuantity (quantity : String)
  /-- The text names no access mode. -/
  | unknownAccessMode (text : String)
  /-- The value of an environment variable is not a boolean. -/
  | malformedFlag (value setting : String)
  /-- The configuration file cannot be read. -/
  | unreadableFile (path : String) (fault : FileFault)
  /-- The configuration file does not describe a configuration. -/
  | unparsableFile (path fault : String)
  /-- The registry has no strategy under the key; the keys that it has follow. -/
  | unknownStrategy (key : String) (available : List String)
  /-- A fault that somebody else put into words. -/
  | stated (text : String)
  deriving DecidableEq

/-- The wording of a configuration fault. -/
def ConfigFault.text : ConfigFault → String
  | missingStrategy => "Missing required field: strategy"
  | missingNameStem => "Missing required field: claim.name (naming prefix)"
  | malformedNameStem stem =>
    s!"Invalid claim name prefix '{stem}': use lowercase letters, digits and '-'"
  | longNameStem stem =>
    s!"Claim name prefix '{stem}' is {stem.utf8ByteSize} characters; " ++
      s!"at most {maxNameStemLength} are allowed"
  | malformedQuantity quantity => s!"Invalid claim quantity '{quantity}'"
  | unknownAccessMode text =>
    s!"Invalid access mode '{text}'. Use ReadWriteOnce, ReadOnlyMany or ReadWriteMany"
  | malformedFlag value setting => s!"Invalid boolean '{value}' for {setting}"
  | unreadableFile path fault => s!"Failed to read {path}: {fault.text}"
  | unparsableFile path fault => s!"Failed to parse {path}: {fault}"
  | unknownStrategy key available =>
    s!"Unknown volumes strategy: {key} (available: " ++ String.intercalate ", " available ++ ")"
  | stated text => text

/-- The category of an error. -/
inductive ErrorKind
  | config | notFound | infrastructure | io | internal | serialization | other
  deriving DecidableEq

/-- The words that open every message of a category. -/
def ErrorKind.heading : ErrorKind → String
  | config => "Configuration error: "
  | notFound => "Not found: "
  | infrastructure => "Infrastructure error: "
  | io => "I/O error: "
  | internal => "Internal error: "
  | serialization => "Serialization error: "
  | other => "Other error: "

/-- Why an operation of the volume engine or of one of its collaborators failed. -/
inductive VolumeError
  /-- The configuration is refused. -/
  | config (fault : ConfigFault)
  /-- A collaborator has no such record. -/
  | notFound (subject : String)
  /-- A collaborator cannot be asked. -/
  | infrastructure (fault : String)
  /-- Input or output failed. -/
  | io (fault : String)
  /-- The engine contradicts itself. -/
  | internal (fault : String)
  /-- A text or value does not describe what it is read as. -/
  | serialization (fault : String)
  /-- Anything else. -/
  | other (fault : String)
  deriving DecidableEq

namespace VolumeError

/-- The category of an error. -/
def kind : VolumeError → ErrorKind
  | config _ => .config
  | notFound _ => .notFound
  | infrastructure _ => .infrastructure
  | io _ => .io
  | internal _ => .internal
  | serialization _ => .serialization
  | other _ => .other

/-- The wording of an error, without its category. -/
def text : VolumeError → String
  | config fault => fault.text
  | notFound text | infrastructure text | io text | internal text | serialization text
  | other text => text

/-- The whole displayed text of an error. -/
def message (error : VolumeError) : String := error.kind.heading ++ error.text

/-- Whether a collaborator reported that the requested record does not exist. -/
def isNotFound : VolumeError → Bool
  | notFound _ => true
  | _ => false

/-- The error of a category with a given wording. -/
def ofKind : ErrorKind → String → VolumeError
  | .config, text => config (.stated text)
  | .notFound, text => notFound text
  | .infrastructure, text => infrastructure text
  | .io, text => io text
  | .internal, text => internal text
  | .serialization, text => serialization text
  | .other, text => other text

/-- A claim directory that is switched off. -/
def directoryUnavailable : VolumeError := infrastructure "claim directory is unavailable"

/-- A workspace store that is switched off. -/
def storeUnavailable : VolumeError := infrastructure "workspace store is unavailable"

/-- A workspace the store has never heard of. -/
def unknownWorkspace (workspaceId : String) : VolumeError := notFound s!"Workspace {workspaceId}"

/-- The store could not say how a workspace is to be served. -/
def workspaceLookup (workspaceId : String) (cause : VolumeError) : VolumeError :=
  infrastructure s!"Failed to load workspace info for {workspaceId}: {cause.message}"

@[simp] theorem kind_ofKind (kind : ErrorKind) (text : String) : (ofKind kind text).kind = kind := by
  cases kind <;> rfl

@[simp] theorem text_ofKind (kind : ErrorKind) (text : String) : (ofKind kind text).text = text := by
  cases kind <;> rfl

end VolumeError

end WorkspaceVolumes
