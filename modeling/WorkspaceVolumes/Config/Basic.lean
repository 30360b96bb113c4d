import WorkspaceVolumes.Config.AccessMode
import WorkspaceVolumes.Yaml.Source

/-!
# Configuration

What the engine can be told: which strategy serves the workspaces, whether a workspace has
to ask for durable storage, and how claims are made.  Every setting has a default.

## Main definitions

* `ClaimSettings`, `VolumesConfig`, with their defaults, encodings and readings.
* `VolumesConfig.ofYaml`: the configuration that a YAML text describes.
-/

namespace WorkspaceVolumes

/-- The key of the strategy that provides no storage. -/
def noneKey : String := "none"

/-- The key of the strategy that provides storage for the life of a pod. -/
def emptyDirKey : String := "emptyDir"

/-- The key of the strategy that provides durable storage. -/
def commonKey : String := "common"

/-- How claims, and the names of mounts, are made. -/
structure ClaimSettings where
  /-- The stem of generated names. -/
  name : String := "claim-workspace"
  /-- The capacity of a new claim. -/
  quantity : String := "10Gi"
  /-- How a new claim may be mounted. -/
  accessMode : AccessMode := .readWriteOnce
  /-- Whether the directories inside claims are listed for creation before pods start. -/
  precreateSubpaths : Bool := true
  deriving DecidableEq

/-- The configuration of the engine. -/
structure VolumesConfig where
  /-- The key of the strategy to use. -/
  strategy : String := commonKey
  /-- Whether durable storage is only for the workspaces that ask for it. -/
  ephemeralOverride : Bool := true
  /-- How claims are made. -/
  claim : ClaimSettings := {}
  deriving DecidableEq

namespace ClaimSettings

/-- The names of the fields. -/
def fieldNames : List String := ["name", "quantity", "access_mode", "precreate_subpaths"]

/-- Claim settings as a value. -/
def toData (settings : ClaimSettings) : Data :=
  .object [("name", .text settings.name), ("quantity", .text settings.quantity),
    ("access_mode", settings.accessMode.toData),
    ("precreate_subpaths", .flag settings.precreateSubpaths)]

/-- Reads claim settings. -/
def read {ν : Type} [DataSource ν] (value : ν) : Reading ClaimSettings := do
  let fields ← DataSource.record fieldNames value
  let defaults : ClaimSettings := {}
  return {
    name := ← fields.withDefault "name" defaults.name DataSource.text
    quantity := ← fields.withDefault "quantity" defaults.quantity DataSource.text
    accessMode := ← fields.withDefault "access_mode" defaults.accessMode AccessMode.read
    precreateSubpaths :=
      ← fields.withDefault "precreate_subpaths" defaults.precreateSubpaths DataSource.flag }

end ClaimSettings

namespace VolumesConfig

/-- The names of the fields. -/
def fieldNames : List String := ["strategy", "ephemeral_override", "claim"]

/-- A configuration as a value. -/
def toData (config : VolumesConfig) : Data :=
  .object [("strategy", .text config.strategy),
    ("ephemeral_override", .flag config.ephemeralOverride), ("claim", config.claim.toData)]

/-- Reads a configuration. -/
def read {ν : Type} [DataSource ν] (value : ν) : Reading VolumesConfig := do
  let fields ← DataSource.record fieldNames value
  let defaults : VolumesConfig := {}
  return {
    strategy := ← fields.withDefault "strategy" defaults.strategy DataSource.text
    ephemeralOverride :=
      ← fields.withDefault "ephemeral_override" defaults.ephemeralOverride DataSource.flag
    claim := ← fields.withDefault "claim" defaults.claim ClaimSettings.read }

/-- The configuration with a strategy and defaults elsewhere. -/
def withStrategy (strategy : String) : VolumesConfig := { strategy }

/-- The configuration that a YAML text describes. -/
def ofYaml (text : String) : Except ReadFault VolumesConfig := Yaml.readText read text

end VolumesConfig

end WorkspaceVolumes
