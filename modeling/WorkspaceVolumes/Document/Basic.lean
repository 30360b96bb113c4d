import WorkspaceVolumes.Config.AccessMode

/-!
# Workload documents

A document describes what one workspace is to look like in the cluster: its pods with
their containers, the volumes that each machine declares, and the claims that should
exist.  Strategies extend it; the caller submits the result.

**Machines and containers.**  A container belongs to a machine.  An entry among the notes
on its pod may name the machine; otherwise the machine is called after the pod and the
container.

**Adding is guarded.**  A container binds each path once, and a pod has each volume name
once.  Adding a second one changes nothing.

## Main definitions

* `Document` and its parts: `Pod`, `Container`, `VolumeMount`, `PodVolume`, `Claim`,
  `Machine`.
* `Container.addMount`, `Pod.addVolume`: the guarded additions.
* `Pod.machineName`: the machine of a container.
* `Document.volumeCount`, `Document.mountCount`, `Document.claimNames`: counts.
-/

namespace WorkspaceVolumes

/-- The head of the key under which a pod names the machine of a container. -/
def machineNameKeyStem : String := "volumes.workspace.io/machine-name."

/-- The label of a claim that names its workspace. -/
def workspaceIdLabel : String := "volumes.workspace.io/workspace-id"

/-- The label of a claim that names the volume it backs. -/
def volumeNameLabel : String := "volumes.workspace.io/volume-name"

/-- The name of an object, and what is noted about it. -/
structure Metadata where
  name : String
  labels : StringMap String := .empty
  annotations : StringMap String := .empty
  deriving DecidableEq

/-- A volume made visible to a container at a path. -/
structure VolumeMount where
  /-- The name of the volume of the pod. -/
  name : String
  mountPath : String
  /-- The directory of the volume that is mounted, if it is not the whole. -/
  subPath : Option String := none
  deriving DecidableEq

/-- A container with its mounts, first to last. -/
structure Container where
  name : String
  mounts : List VolumeMount := []
  deriving DecidableEq

/-- Storage for the life of a pod. -/
structure EmptyDirSource where
  medium : Option String := none
  deriving DecidableEq

/-- Storage that a claim stands for. -/
structure ClaimSource where
  claimName : String
  readOnly : Bool := false
  deriving DecidableEq

/-- What backs a volume of a pod. -/
inductive VolumeSource
  | emptyDir (source : EmptyDirSource)
  | claim (source : ClaimSource)
  deriving DecidableEq

/-- A volume of a pod. -/
structure PodVolume where
  name : String
  source : VolumeSource
  deriving DecidableEq

/-- A pod with its containers and volumes, first to last. -/
structure Pod where
  metadata : Metadata
  containers : List Container := []
  volumes : List PodVolume := []
  deriving DecidableEq

/-- A claim to durable storage. -/
structure Claim where
  metadata : Metadata
  accessModes : List AccessMode
  storage : String
  deriving DecidableEq

/-- A machine with the volumes it declares: where each is to be mounted. -/
structure Machine where
  paths : StringMap String := .empty
  deriving DecidableEq

/-- Who a run is for. -/
structure Identity where
  workspaceId : String
  envName : String := ""
  ownerId : String := ""
  deriving DecidableEq

/-- What one workspace is to look like. -/
structure Document where
  pods : StringMap Pod := .empty
  machines : StringMap Machine := .empty
  claims : StringMap Claim := .empty
  /-- The directories to create inside durable claims before pods start. -/
  subpaths : StringSet := StringMap.empty
  deriving DecidableEq

/-! ### Containers and pods -/

namespace Container

/-- Whether some mount binds a path. -/
def hasMountPath (container : Container) (path : String) : Bool :=
  container.mounts.any (·.mountPath = path)

/-- Adds a mount, unless its path is bound. -/
def addMount (container : Container) (mount : VolumeMount) : Container :=
  if container.hasMountPath mount.mountPath then container
  else { container with mounts := container.mounts ++ [mount] }

@[simp] theorem name_addMount (container : Container) (mount : VolumeMount) :
    (container.addMount mount).name = container.name := by
  unfold addMount
  split <;> rfl

theorem mounts_addMount (container : Container) (mount : VolumeMount) :
    (container.addMount mount).mounts =
      if container.hasMountPath mount.mountPath then container.mounts
      else container.mounts ++ [mount] := by
  unfold addMount
  split <;> rfl

/-- A path is bound after an addition if it was bound before or is the path of the
mount. -/
theorem hasMountPath_addMount (container : Container) (mount : VolumeMount) (path : String) :
    (container.addMount mount).hasMountPath path =
      (container.hasMountPath path || decide (mount.mountPath = path)) := by
  unfold addMount
  split
  case isTrue bound =>
    by_cases same : mount.mountPath = path
    · subst same
      simp [bound]
    · simp [same]
  case isFalse => simp [hasMountPath]

end Container

namespace PodVolume

/-- A volume for the life of a pod. -/
def emptyDir (name : String) : PodVolume := ⟨name, .emptyDir {}⟩

/-- A volume named after the claim that backs it. -/
def claim (claimName : String) : PodVolume := ⟨claimName, .claim { claimName }⟩

/-- Whether a volume lives as long as its pod. -/
def isEmptyDir (volume : PodVolume) : Bool :=
  match volume.source with
  | .emptyDir _ => true
  | .claim _ => false

/-- The claim that backs a volume. -/
def claimName? (volume : PodVolume) : Option String :=
  match volume.source with
  | .emptyDir _ => none
  | .claim source => some source.claimName

end PodVolume

namespace Pod

/-- A pod with bare containers. -/
def named (name : String) (containers : List String) : Pod where
  metadata := { name }
  containers := containers.map fun container => { name := container }

/-- Whether a volume has a name. -/
def hasVolume (pod : Pod) (name : String) : Bool := pod.volumes.any (·.name = name)

/-- Adds a volume, unless its name is taken. -/
def addVolume (pod : Pod) (volume : PodVolume) : Pod :=
  if pod.hasVolume volume.name then pod else { pod with volumes := pod.volumes ++ [volume] }

@[simp] theorem metadata_addVolume (pod : Pod) (volume : PodVolume) :
    (pod.addVolume volume).metadata = pod.metadata := by
  unfold addVolume
  split <;> rfl

@[simp] theorem containers_addVolume (pod : Pod) (volume : PodVolume) :
    (pod.addVolume volume).containers = pod.containers := by
  unfold addVolume
  split <;> rfl

theorem volumes_addVolume (pod : Pod) (volume : PodVolume) :
    (pod.addVolume volume).volumes =
      if pod.hasVolume volume.name then pod.volumes else pod.volumes ++ [volume] := by
  unfold addVolume
  split <;> rfl

/-- Whether a container of a pod binds a path.  Containers are counted from zero. -/
def binds (pod : Pod) (index : Nat) (path : String) : Bool :=
  pod.containers[index]?.any (·.hasMountPath path)

/-- Adds a mount to a container of a pod, unless its path is bound. -/
def addMount (pod : Pod) (index : Nat) (mount : VolumeMount) : Pod :=
  { pod with containers := pod.containers.modify index (·.addMount mount) }

@[simp] theorem metadata_addMount (pod : Pod) (index : Nat) (mount : VolumeMount) :
    (pod.addMount index mount).metadata = pod.metadata := rfl

@[simp] theorem volumes_addMount (pod : Pod) (index : Nat) (mount : VolumeMount) :
    (pod.addMount index mount).volumes = pod.volumes := rfl

@[simp] theorem length_containers_addMount (pod : Pod) (index : Nat) (mount : VolumeMount) :
    (pod.addMount index mount).containers.length = pod.containers.length := by
  simp [addMount]

/-- Names the machine of a container. -/
def withMachineName (pod : Pod) (container machineName : String) : Pod :=
  { pod with metadata := { pod.metadata with
      annotations := pod.metadata.annotations.insert (machineNameKeyStem ++ container) machineName } }

/-- The machine of a container: the one named for it, or one called after the pod and the
container. -/
def machineName (pod : Pod) (container : String) : String :=
  (pod.metadata.annotations.get? (machineNameKeyStem ++ container)).getD
    (pod.metadata.name ++ "/" ++ container)

@[simp] theorem machineName_addMount (pod : Pod) (index : Nat) (mount : VolumeMount)
    (container : String) :
    (pod.addMount index mount).machineName container = pod.machineName container := rfl

@[simp] theorem machineName_addVolume (pod : Pod) (volume : PodVolume) (container : String) :
    (pod.addVolume volume).machineName container = pod.machineName container := by
  simp [machineName]

end Pod

/-! ### Claims -/

namespace Claim

/-- A claim without labels. -/
def named (name : String) (accessMode : AccessMode) (quantity : String) : Claim where
  metadata := { name }
  accessModes := [accessMode]
  storage := quantity

/-- The name of a claim. -/
def name (claim : Claim) : String := claim.metadata.name

/-- The value of a label of a claim. -/
def label? (claim : Claim) (key : String) : Option String := claim.metadata.labels.get? key

/-- Sets a label of a claim. -/
def withLabel (claim : Claim) (key value : String) : Claim :=
  { claim with metadata := { claim.metadata with
      labels := claim.metadata.labels.insert key value } }

@[simp] theorem name_withLabel (claim : Claim) (key value : String) :
    (claim.withLabel key value).name = claim.name := rfl

theorem label?_withLabel (claim : Claim) (key value other : String) :
    (claim.withLabel key value).label? other =
      if key = other then some value else claim.label? other :=
  StringMap.get?_insert claim.metadata.labels key other value

end Claim

/-- A machine that declares one more volume. -/
def Machine.withVolume (machine : Machine) (name path : String) : Machine :=
  { paths := machine.paths.insert name path }

/-! ### Documents -/

namespace Document

/-- The document that describes nothing. -/
def empty : Document := {}

/-- Adds a pod under its name. -/
def addPod (document : Document) (pod : Pod) : Document :=
  { document with pods := document.pods.insert pod.metadata.name pod }

/-- Adds a machine. -/
def addMachine (document : Document) (name : String) (machine : Machine) : Document :=
  { document with machines := document.machines.insert name machine }

/-- A count of each of some things, added up. -/
def countAll {α : Type} (count : α → Nat) (things : List α) : Nat :=
  things.foldr (fun thing total => count thing + total) 0

/-- The number of volumes of all pods. -/
def volumeCount (document : Document) : Nat :=
  countAll (·.volumes.length) document.pods.values

/-- The number of mounts of all containers. -/
def mountCount (document : Document) : Nat :=
  countAll (fun pod => countAll (·.mounts.length) pod.containers) document.pods.values

/-- The keys of the claims. -/
def claimNames (document : Document) : List String := document.claims.keys

/-- The mounts of the first container with a name in a pod. -/
def containerMounts? (document : Document) (pod container : String) : Option (List VolumeMount) := do
  let pod ← document.pods.get? pod
  let container ← pod.containers.find? (·.name = container)
  return container.mounts

/-- The volumes of a pod. -/
def podVolumes? (document : Document) (pod : String) : Option (List PodVolume) :=
  (document.pods.get? pod).map (·.volumes)

end Document

end WorkspaceVolumes
