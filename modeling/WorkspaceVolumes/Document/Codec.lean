import WorkspaceVolumes.Document.Basic
import WorkspaceVolumes.Yaml.Printer
import WorkspaceVolumes.Yaml.Source

/-!
# Documents as values

The encoding of each part of a document, and its reading from any notation.

**What is left out.**  Empty tables of labels and notes, empty lists of mounts and of pod
volumes, an empty set of sub-paths, absent options and a `readOnly` that is false are not
written.  All else is.

**Pod volumes.**  A pod volume is one record that holds its name and, under a key that
says what backs it, the source.  Because the source is found among other keys, everything
but the name is read for its own shape first; of several sources the first counts.

## Main definitions

* `toData` and `read` for each part.
* `Document.toYaml`, `Document.ofYaml`.
-/

namespace WorkspaceVolumes

/-- A table as a value. -/
def StringMap.toData {α : Type} (encode : α → Data) (map : StringMap α) : Data :=
  .object (map.entries.map fun entry => (entry.1, encode entry.2))

/-- A list as a value. -/
def listData {α : Type} (encode : α → Data) (items : List α) : Data := .list (items.map encode)

/-- A field that is written unless a condition holds. -/
def fieldUnless (omitted : Bool) (name : String) (value : Data) : List (String × Data) :=
  if omitted then [] else [(name, value)]

/-- A field that is written if there is a value. -/
def optionalField (name : String) (value : Option String) : List (String × Data) :=
  value.toList.map fun text => (name, .text text)

section
variable {ν : Type} [DataSource ν]

namespace Metadata

/-- Metadata as a value. -/
def toData (metadata : Metadata) : Data :=
  .object ([("name", .text metadata.name)] ++
    fieldUnless metadata.labels.isEmpty "labels" (metadata.labels.toData .text) ++
    fieldUnless metadata.annotations.isEmpty "annotations" (metadata.annotations.toData .text))

/-- Reads metadata. -/
def read (value : ν) : Reading Metadata := do
  let fields ← DataSource.record ["name", "labels", "annotations"] value
  return {
    name := ← fields.required "name" DataSource.text
    labels := ← fields.withDefault "labels" .empty (readTable DataSource.text)
    annotations := ← fields.withDefault "annotations" .empty (readTable DataSource.text) }

end Metadata

namespace VolumeMount

/-- A mount as a value. -/
def toData (mount : VolumeMount) : Data :=
  .object ([("name", .text mount.name), ("mountPath", .text mount.mountPath)] ++
    optionalField "subPath" mount.subPath)

/-- Reads a mount. -/
def read (value : ν) : Reading VolumeMount := do
  let fields ← DataSource.record ["name", "mountPath", "subPath"] value
  return {
    name := ← fields.required "name" DataSource.text
    mountPath := ← fields.required "mountPath" DataSource.text
    subPath := ← fields.withDefault "subPath" none readOptionalText }

end VolumeMount

namespace Container

/-- A container as a value. -/
def toData (container : Container) : Data :=
  .object ([("name", .text container.name)] ++
    fieldUnless container.mounts.isEmpty "volumeMounts"
      (listData VolumeMount.toData container.mounts))

/-- Reads a container. -/
def read (value : ν) : Reading Container := do
  let fields ← DataSource.record ["name", "volumeMounts"] value
  return {
    name := ← fields.required "name" DataSource.text
    mounts := ← fields.withDefault "volumeMounts" [] (readList VolumeMount.read) }

end Container

namespace EmptyDirSource

/-- A source for the life of a pod as a value. -/
def toData (source : EmptyDirSource) : Data := .object (optionalField "medium" source.medium)

/-- Reads a source for the life of a pod. -/
def read (value : ν) : Reading EmptyDirSource := do
  let fields ← DataSource.record ["medium"] value
  return { medium := ← fields.withDefault "medium" none readOptionalText }

end EmptyDirSource

namespace ClaimSource

/-- A durable source as a value. -/
def toData (source : ClaimSource) : Data :=
  .object ([("claimName", .text source.claimName)] ++
    fieldUnless (!source.readOnly) "readOnly" (.flag source.readOnly))

/-- Reads a durable source. -/
def read (value : ν) : Reading ClaimSource := do
  let fields ← DataSource.record ["claimName", "readOnly"] value
  return {
    claimName := ← fields.required "claimName" DataSource.text
    readOnly := ← fields.withDefault "readOnly" false DataSource.flag }

end ClaimSource

namespace VolumeSource

/-- The key that says that a volume lives as long as its pod. -/
def emptyDirField : String := "emptyDir"

/-- The key that says that a claim backs a volume. -/
def claimField : String := "persistentVolumeClaim"

/-- What backs a volume, with the key that says so. -/
def toField : VolumeSource → String × Data
  | emptyDir source => (emptyDirField, source.toData)
  | claim source => (claimField, source.toData)

/-- Reads what backs a volume from the first entry whose key says so. -/
def readFirst : List (String × Data) → Reading VolumeSource
  | [] => throw (.missing "source")
  | (key, value) :: rest =>
    if key = emptyDirField then return .emptyDir (← EmptyDirSource.read value)
    else if key = claimField then return .claim (← ClaimSource.read value)
    else readFirst rest

end VolumeSource

namespace PodVolume

/-- A pod volume as a value. -/
def toData (volume : PodVolume) : Data :=
  .object [("name", .text volume.name), volume.source.toField]

/-- Reads a pod volume. -/
def read (value : ν) : Reading PodVolume := do
  let entries ← DataSource.entries value
  let named ← liftM (Fields.pick ["name"] entries)
  let name ← Fields.required named "name" DataSource.text
  let others ← (entries.filter (·.1 ≠ "name")).mapM fun entry => do
    return (entry.1, ← DataSource.content entry.2)
  return { name, source := ← VolumeSource.readFirst others }

end PodVolume

namespace Pod

/-- The containers and volumes of a pod as a value. -/
def specData (pod : Pod) : Data :=
  .object ([("containers", listData Container.toData pod.containers)] ++
    fieldUnless pod.volumes.isEmpty "volumes" (listData PodVolume.toData pod.volumes))

/-- A pod as a value. -/
def toData (pod : Pod) : Data :=
  .object [("metadata", pod.metadata.toData), ("spec", pod.specData)]

/-- Reads the containers and volumes of a pod. -/
def readSpec (value : ν) : Reading (List Container × List PodVolume) := do
  let fields ← DataSource.record ["containers", "volumes"] value
  let containers ← fields.withDefault "containers" [] (readList Container.read)
  return (containers, ← fields.withDefault "volumes" [] (readList PodVolume.read))

/-- Reads a pod. -/
def read (value : ν) : Reading Pod := do
  let fields ← DataSource.record ["metadata", "spec"] value
  let metadata ← fields.required "metadata" Metadata.read
  let (containers, volumes) ← fields.withDefault "spec" ([], []) readSpec
  return { metadata, containers, volumes }

end Pod

namespace Claim

/-- What a claim asks for as a value. -/
def specData (claim : Claim) : Data :=
  .object [("accessModes", listData AccessMode.toData claim.accessModes),
    ("storage", .text claim.storage)]

/-- A claim as a value. -/
def toData (claim : Claim) : Data :=
  .object [("metadata", claim.metadata.toData), ("spec", claim.specData)]

/-- Reads what a claim asks for. -/
def readSpec (value : ν) : Reading (List AccessMode × String) := do
  let fields ← DataSource.record ["accessModes", "storage"] value
  let accessModes ← fields.required "accessModes" (readList AccessMode.read)
  return (accessModes, ← fields.required "storage" DataSource.text)

/-- Reads a claim. -/
def read (value : ν) : Reading Claim := do
  let fields ← DataSource.record ["metadata", "spec"] value
  let metadata ← fields.required "metadata" Metadata.read
  let (accessModes, storage) ← fields.required "spec" readSpec
  return { metadata, accessModes, storage }

end Claim

namespace Machine

/-- A declared volume as a value. -/
def declarationData (path : String) : Data := .object [("path", .text path)]

/-- A machine as a value. -/
def toData (machine : Machine) : Data :=
  .object [("volumes", machine.paths.toData declarationData)]

/-- Reads a declared volume. -/
def readDeclaration (value : ν) : Reading String := do
  let fields ← DataSource.record ["path"] value
  fields.required "path" DataSource.text

/-- Reads a machine. -/
def read (value : ν) : Reading Machine := do
  let fields ← DataSource.record ["volumes"] value
  return { paths := ← fields.withDefault "volumes" .empty (readTable readDeclaration) }

end Machine

namespace Identity

/-- An identity as a value. -/
def toData (identity : Identity) : Data :=
  .object [("workspace_id", .text identity.workspaceId), ("env_name", .text identity.envName),
    ("owner_id", .text identity.ownerId)]

/-- Reads an identity. -/
def read (value : ν) : Reading Identity := do
  let fields ← DataSource.record ["workspace_id", "env_name", "owner_id"] value
  return {
    workspaceId := ← fields.required "workspace_id" DataSource.text
    envName := ← fields.withDefault "env_name" "" DataSource.text
    ownerId := ← fields.withDefault "owner_id" "" DataSource.text }

end Identity

namespace Document

/-- A document as a value. -/
def toData (document : Document) : Data :=
  .object ([("pods", document.pods.toData Pod.toData),
    ("machines", document.machines.toData Machine.toData),
    ("persistentVolumeClaims", document.claims.toData Claim.toData)] ++
    fieldUnless document.subpaths.isEmpty "subpaths" (listData .text document.subpaths.toList))

/-- Reads a document. -/
def read (value : ν) : Reading Document := do
  let fields ←
    DataSource.record ["pods", "machines", "persistentVolumeClaims", "subpaths"] value
  return {
    pods := ← fields.withDefault "pods" .empty (readTable Pod.read)
    machines := ← fields.withDefault "machines" .empty (readTable Machine.read)
    claims := ← fields.withDefault "persistentVolumeClaims" .empty (readTable Claim.read)
    subpaths := ← fields.withDefault "subpaths" StringMap.empty readSet }

/-- A document as YAML text. -/
def toYaml (document : Document) : String := Yaml.print document.toData

/-- The document that a YAML text describes. -/
def ofYaml (text : String) : Except ReadFault Document := Yaml.readText read text

end Document

/-- The claims that a YAML text lists. -/
def claimsOfYaml (text : String) : Except ReadFault (List Claim) :=
  Yaml.readText (readList Claim.read) text

end

end WorkspaceVolumes
