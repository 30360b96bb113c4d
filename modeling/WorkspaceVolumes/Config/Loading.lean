import WorkspaceVolumes.Config.Validation
import WorkspaceVolumes.Log.Trace

/-!
# Loading a configuration

A configuration has three layers: the defaults, a file if there is one, and the
environment, each over the one before.  What results is validated.  A value in the file
that the environment replaces is therefore never validated, only read.

## Main definitions

* `Environment`: variables with the bytes of their values.
* `ConfigFile`: a path with what is found there.
* `VolumesConfig.overlay`: the environment over a configuration.
* `VolumesConfig.load`: the three layers, validated; `loadNotice` is what loading reports.
-/

namespace WorkspaceVolumes

/-- The variables of a process. -/
structure Environment where
  bindings : StringMap ByteArray

/-- The text of a variable.  A value that is not UTF-8 counts as not set. -/
def Environment.text? (environment : Environment) (name : String) : Option String :=
  (environment.bindings.get? name).bind String.fromUTF8?

/-- A path that was given, with the bytes of the file if there is one. -/
structure ConfigFile where
  path : String
  contents : Option ByteArray

/-- The text of a file. -/
def ConfigFile.text (file : ConfigFile) : Except FileFault String :=
  match file.contents with
  | none => .error .absent
  | some bytes =>
    match String.fromUTF8? bytes with
    | some text => .ok text
    | none => .error .notText

/-- The boolean that the value of a variable writes, blanks around it and case aside. -/
def parseFlag? (value : String) : Option Bool :=
  let word := Text.lowered (Text.trimmed value)
  if word = "true" || word = "1" || word = "yes" then some true
  else if word = "false" || word = "0" || word = "no" then some false
  else none

/-- The boolean value of a variable, or what it replaces where it is not set. -/
def Environment.flag (environment : Environment) (name : String) (replaced : Bool) :
    Except VolumeError Bool :=
  match environment.text? name with
  | none => .ok replaced
  | some value =>
    match parseFlag? value with
    | some flag => .ok flag
    | none => .error (.config (.malformedFlag value name))

/-- The access mode that a variable names, or what it replaces where it is not set. -/
def Environment.accessMode (environment : Environment) (name : String) (replaced : AccessMode) :
    Except VolumeError AccessMode :=
  match environment.text? name with
  | none => .ok replaced
  | some word => AccessMode.parse word

namespace VolumesConfig

/-- A configuration with the values that the environment sets. -/
def overlay (environment : Environment) (config : VolumesConfig) :
    Except VolumeError VolumesConfig := do
  let strategy := (environment.text? "VOL_STRATEGY").getD config.strategy
  let ephemeralOverride ← environment.flag "VOL_EPHEMERAL_OVERRIDE" config.ephemeralOverride
  let name := (environment.text? "VOL_CLAIM_NAME").getD config.claim.name
  let quantity := (environment.text? "VOL_CLAIM_QUANTITY").getD config.claim.quantity
  let accessMode ← environment.accessMode "VOL_CLAIM_ACCESS_MODE" config.claim.accessMode
  let precreateSubpaths ←
    environment.flag "VOL_PRECREATE_SUBPATHS" config.claim.precreateSubpaths
  return { strategy, ephemeralOverride, claim := { name, quantity, accessMode, precreateSubpaths } }

/-- The configuration that a file describes. -/
def ofFile (file : ConfigFile) : Except VolumeError VolumesConfig :=
  match file.text with
  | .error fault => .error (.config (.unreadableFile file.path fault))
  | .ok text =>
    match ofYaml text with
    | .error fault => .error (.config (.unparsableFile file.path fault.text))
    | .ok config => .ok config

/-- The defaults, the file over them and the environment over both, validated. -/
def load (environment : Environment) (file : Option ConfigFile) :
    Except VolumeError VolumesConfig := do
  let base ← match file with
    | some file => ofFile file
    | none => pure {}
  let config ← base.overlay environment
  config.validate
  return config

/-- What loading reports: that a file is going to be read. -/
def loadNotice (file : Option ConfigFile) : Trace :=
  file.toList.map fun file => .event .debug s!"Loading volumes config from: {file.path}"

end VolumesConfig

end WorkspaceVolumes
