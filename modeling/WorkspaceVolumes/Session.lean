import WorkspaceVolumes.Reconciler

/-!
# Sessions

A session plans the volumes of workspaces without a cluster: it holds a document, a
configuration with its registry and the strategy in use, and collaborators that live in
memory.  Commands change any of them and tell what came of it.

A command that fails leaves what the failing operation has left; replacing the
configuration is all or nothing.

## Main definitions

* `Session`, `Session.start`.
* `Command`, `Reply`, `Session.perform`.
-/

namespace WorkspaceVolumes

/-- What a session holds. -/
structure Session where
  config : VolumesConfig
  registry : Registry
  strategy : Strategy
  cluster : Cluster ClaimTable WorkspaceTable
  plan : Plan

/-- What an override is put around. -/
inductive OverrideBase
  | none | emptyDir | override | durable

/-- What a session can be told to do. -/
inductive Command
  | reconcile (identity : Identity)
  | release (workspaceId : String)
  | reconcilerName
  | selectedName (config : VolumesConfig)
  | prepare (workspaceId : String)
  | provision (identity : Identity)
  | cleanup (workspaceId : String)
  | resolve (workspaceId : String)
  | name
  | isEphemeral (workspaceId : String)
  | configure (config : VolumesConfig)
  | useOverride (base : OverrideBase)
  | keys
  | register (key source : String)
  | select (key : String)
  | freshRegistry
  | insertClaim (claim : Claim)
  | buildClaim (name accessMode quantity : String) (labels : List (String × String))
  | applyClaims
  | listByLabel (key value : String)
  | deleteByLabel (key value : String)
  | setDirectoryAvailable (available : Bool)
  | directorySize
  | addWorkspace (workspaceId : String)
  | setAttribute (workspaceId key value : String)
  | getAttribute (workspaceId key : String)
  | setStoreAvailable (available : Bool)
  | setDocument (document : Document)
  | addPod (name : String) (containers : List String) (machineNames : List (String × String))
  | addMachine (name : String) (paths : List (String × String))
  | addMount (pod : String) (index : Nat) (mount : VolumeMount)
  | addVolume (pod : String) (volume : PodVolume)
  | counts
  | containerMounts (pod container : String)
  | podVolumes (pod : String)
  | toYaml
  | reloadYaml

/-- What a command answers. -/
inductive Reply
  | done
  | flag (value : Bool)
  | text (value : String)
  | optionalText (value : Option String)
  | names (names : List String)
  | report (report : ReconcileReport)
  | claim (claim : Claim)
  | claims (claims : List Claim)
  | size (count : Nat)
  | counts (volumes mounts : Nat) (claimNames : List String)
  /-- Whether something was there before. -/
  | guarded (present : Bool)
  /-- What was asked about does not exist. -/
  | absent
  | mounts (mounts : List VolumeMount)
  | volumes (volumes : List PodVolume)

namespace Session

/-- A step of a session. -/
abbrev Step (α : Type) := Run Session α

/-- A run on the plan of a session. -/
def onPlan {α : Type} (run : Run Plan α) : Step α :=
  Run.onPart Session.plan (fun plan session => { session with plan }) run

/-- A run on the claim directory of a session. -/
def onDirectory {α : Type} (run : Run ClaimTable α) : Step α :=
  Run.onPart (·.cluster.directory)
    (fun directory session => { session with cluster := { session.cluster with directory } }) run

/-- A run on the registry of a session. -/
def onRegistry {α : Type} (run : Run Registry α) : Step α :=
  Run.onPart Session.registry (fun registry session => { session with registry }) run

/-- Changes the claim directory. -/
def changeDirectory (change : ClaimTable → ClaimTable) : Step Reply := do
  onDirectory do Run.setSubject (change (← Run.subject))
  return .done

/-- Changes the workspace store. -/
def changeStore (change : WorkspaceTable → WorkspaceTable) : Step Reply := do
  let session ← Run.subject
  Run.setSubject
    { session with cluster := { session.cluster with store := change session.cluster.store } }
  return .done

/-- Changes the document. -/
def changeDocument (change : Document → Document) : Step Reply := do
  onPlan do
    let plan ← Run.subject
    Run.setSubject { plan with document := change plan.document }
  return .done

/-- Takes a strategy into use. -/
def useStrategy (strategy : Strategy) : Step Reply := do
  Run.setSubject { (← Run.subject) with strategy }
  return .text strategy.name

/-- The durable strategy of the configuration with an override around it. -/
def overrideAround (config : VolumesConfig) (base : OverrideBase) : Except VolumeError Strategy := do
  let transient ← EmptyDirStrategy.ofStem config.claim.name
  match base with
  | .none => return .override .none transient
  | .emptyDir => return .override (.emptyDir transient) transient
  | .durable =>
    return .override (.durable (← DurableStrategy.ofSettings config.claim)) transient
  | .override =>
    let durable ← DurableStrategy.ofSettings config.claim
    return .override (.override (.durable durable) transient) transient

/-- Adds a volume to a pod, and tells whether its name was taken. -/
def addVolume (pod : String) (volume : PodVolume) : Step Reply := do
  let document := (← Run.subject).plan.document
  match document.pods.get? pod with
  | none => return .absent
  | some found =>
    discard <| changeDocument fun document =>
      { document with pods := document.pods.insert pod (found.addVolume volume) }
    return .guarded (found.hasVolume volume.name)

/-- Adds a mount to a container, and tells whether its path was bound. -/
def addMount (pod : String) (index : Nat) (mount : VolumeMount) : Step Reply := do
  let document := (← Run.subject).plan.document
  match document.pods.get? pod with
  | none => return .absent
  | some found =>
    match found.containers[index]? with
    | none => return .absent
    | some container =>
      discard <| changeDocument fun document =>
        { document with pods := document.pods.insert pod (found.addMount index mount) }
      return .guarded (container.hasMountPath mount.mountPath)

/-- Writes the document as YAML and reads it back, and tells whether it has stayed the
same. -/
def reloadYaml : Step Reply := do
  let document := (← Run.subject).plan.document
  match Document.ofYaml document.toYaml with
  | .error fault => throw (.serialization fault.text)
  | .ok read =>
    discard <| changeDocument fun _ => read
    return .flag (read = document)

/-- Replaces the configuration, its registry and the strategy in use, if all of them can
be had. -/
def configure (config : VolumesConfig) : Step Reply := do
  let registry ← Run.ofReported (Registry.withDefaults config)
  let strategy ← Run.ofExcept (registry.get config.strategy)
  Run.setSubject { (← Run.subject) with config, registry, strategy }
  return .text strategy.name

/-- Does what a command says. -/
def perform (command : Command) : Step Reply := do
  let session ← Run.subject
  let cluster := session.cluster
  let document := session.plan.document
  match command with
  | .reconcile identity =>
    return .report (← onPlan (WorkspaceVolumes.reconcile cluster session.strategy identity))
  | .release workspaceId =>
    onDirectory (WorkspaceVolumes.release cluster.store session.strategy workspaceId)
    return .done
  | .reconcilerName => return .text (← Run.ofReported (strategyOf session.config)).name
  | .selectedName config => return .text (← Run.ofReported (strategyOf config)).name
  | .prepare workspaceId =>
    onPlan (session.strategy.prepare cluster.store workspaceId)
    return .done
  | .provision identity =>
    onPlan (session.strategy.provision cluster identity)
    return .done
  | .cleanup workspaceId =>
    onDirectory (session.strategy.cleanup cluster.store workspaceId)
    return .done
  | .resolve workspaceId =>
    return .optionalText ((← session.strategy.resolve cluster.store workspaceId).map Strategy.name)
  | .name => return .text session.strategy.name
  | .isEphemeral workspaceId =>
    return .flag (← WorkspaceVolumes.isEphemeral cluster.store workspaceId)
  | .configure config => configure config
  | .useOverride base => useStrategy (← Run.ofExcept (overrideAround session.config base))
  | .keys => return .names session.registry.keys
  | .register key source =>
    let strategy ← Run.ofExcept (session.registry.get source)
    onRegistry (Registry.register key strategy)
    return .names (← Run.subject).registry.keys
  | .select key => useStrategy (← Run.ofExcept (session.registry.get key))
  | .freshRegistry =>
    Run.setSubject { session with registry := {} }
    return .names []
  | .insertClaim claim => changeDirectory (·.insert claim)
  | .buildClaim name accessMode quantity labels =>
    let mode ← Run.ofExcept (AccessMode.parse accessMode)
    let claim := labels.foldl (fun claim label => claim.withLabel label.1 label.2)
      (Claim.named name mode quantity)
    discard <| changeDirectory (·.insert claim)
    return .claim claim
  | .applyClaims =>
    changeDirectory fun table => document.claims.values.foldl ClaimTable.insert table
  | .listByLabel key value =>
    return .claims (← Run.ofExcept (ClaimDirectory.listByLabel cluster.directory key value))
  | .deleteByLabel key value =>
    onDirectory do
      let (names, table) := ClaimDirectory.deleteByLabel (← Run.subject) key value
      Run.setSubject table
      return .names (← Run.ofExcept names)
  | .setDirectoryAvailable available => changeDirectory ({ · with available })
  | .directorySize => return .size cluster.directory.claims.size
  | .addWorkspace workspaceId => changeStore (·.addWorkspace workspaceId)
  | .setAttribute workspaceId key value => changeStore (·.setAttribute workspaceId key value)
  | .getAttribute workspaceId key =>
    return .optionalText (← Run.ofExcept (cluster.store.getAttribute workspaceId key))
  | .setStoreAvailable available => changeStore ({ · with available })
  | .setDocument document => changeDocument fun _ => document
  | .addPod name containers machineNames =>
    let pod := machineNames.foldl (fun pod named => pod.withMachineName named.1 named.2)
      (Pod.named name containers)
    changeDocument (·.addPod pod)
  | .addMachine name paths =>
    let machine := paths.foldl (fun machine path => machine.withVolume path.1 path.2) {}
    changeDocument (·.addMachine name machine)
  | .addMount pod index mount => addMount pod index mount
  | .addVolume pod volume => addVolume pod volume
  | .counts => return .counts document.volumeCount document.mountCount document.claimNames
  | .containerMounts pod container =>
    return match document.containerMounts? pod container with
      | some mounts => .mounts mounts
      | none => .absent
  | .podVolumes pod =>
    return match document.podVolumes? pod with
      | some volumes => .volumes volumes
      | none => .absent
  | .toYaml => return .text document.toYaml
  | .reloadYaml => reloadYaml

/-- A session with a configuration, collaborators and a document, with what setting it up
reports. -/
def start (config : VolumesConfig) (cluster : Cluster ClaimTable WorkspaceTable) (plan : Plan) :
    Except VolumeError Session × Trace :=
  let (registry, trace) := Registry.withDefaults config
  let session := do
    let registry ← registry
    let strategy ← registry.get config.strategy
    return { config, registry, strategy, cluster, plan }
  (session, trace)

/-- What comes of a command: the answer, the session afterwards, and what has happened. -/
def step (session : Session) (command : Command) : Run.Ending Session Reply :=
  (perform command).start session

end Session

end WorkspaceVolumes
