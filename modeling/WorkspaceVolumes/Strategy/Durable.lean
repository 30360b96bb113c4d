import WorkspaceVolumes.Cluster.Basic
import WorkspaceVolumes.Config.Validation
import WorkspaceVolumes.Strategy.Binding
import WorkspaceVolumes.Text.Quoted

/-!
# Durable storage

Each volume name of a workspace is backed by one claim, which outlives the pods and is
found again by its labels.

**Which claim.**  A claim that the directory lists for the workspace comes first, then one
that the document plans already, and only then a new one.  Of several claims for one
volume the last counts, in the order of the list and of the document's keys.

**Listing first.**  The directory is asked once, before anything is bound, so a pass that
fails has changed nothing.

## Main definitions

* `DurableStrategy`, with `prepare`, `provision` and `cleanup`.
* `claimsByVolume`: claims by the volume that they are labelled with.
-/

namespace WorkspaceVolumes

/-- Storage that outlives the pods. -/
structure DurableStrategy where
  /-- The stem of the names of new claims. -/
  stem : String
  /-- The capacity of new claims. -/
  quantity : String
  /-- How new claims may be mounted. -/
  accessMode : AccessMode
  /-- Whether sub-paths are listed for creation. -/
  precreateSubpaths : Bool
  deriving DecidableEq

/-- The names of claims by the volume that they are labelled with.  Claims without the
label are left out, and of several for one volume the last counts. -/
def claimsByVolume (claims : List Claim) : StringMap String :=
  .ofList (claims.filterMap fun claim => (claim.label? volumeNameLabel).map (·, claim.name))

namespace DurableStrategy

/-- The strategy that makes claims by some settings, if they are valid. -/
def ofSettings (settings : ClaimSettings) : Except VolumeError DurableStrategy := do
  settings.validate
  return {
    stem := settings.name
    quantity := settings.quantity
    accessMode := settings.accessMode
    precreateSubpaths := settings.precreateSubpaths }

/-- The display of a strategy for inspection. -/
def debugText (strategy : DurableStrategy) : String :=
  "DurableClaimStrategy \x7b claim_name_prefix: " ++ Text.quoted strategy.stem ++
    ", quantity: " ++ Text.quoted strategy.quantity ++
    ", access_mode: " ++ strategy.accessMode.text ++
    ", precreate_subpaths: " ++ (if strategy.precreateSubpaths then "true" else "false") ++
    ", .. \x7d"

/-- A claim for a volume of a workspace under a name. -/
def newClaim (strategy : DurableStrategy) (workspaceId volumeName name : String) : Claim :=
  ((Claim.named name strategy.accessMode strategy.quantity).withLabel
    workspaceIdLabel workspaceId).withLabel volumeNameLabel volumeName

/-- Picks the claim of a volume: one that exists, one that is planned, or a new one. -/
def choose (strategy : DurableStrategy) (workspaceId : String) (existing : StringMap String) :
    Chooser := fun volumeName supplies =>
  match existing.get? volumeName with
  | some name => (name, supplies)
  | none =>
    match (claimsByVolume supplies.claims.values).get? volumeName with
    | some name => (name, supplies)
    | none =>
      let (name, draws) := generateName strategy.stem supplies.draws
      let claim := strategy.newClaim workspaceId volumeName name
      let supplies := supplies.note s!"New claim {name} for volume {volumeName}"
      (name, { supplies with draws, claims := supplies.claims.insert name claim })

/-- The claims of a listing that belong to a workspace, by volume. -/
def existingClaims (workspaceId : String) (listed : List Claim) : StringMap String :=
  claimsByVolume (listed.filter (·.label? workspaceIdLabel = some workspaceId))

/-- Binds the declared volumes of a document. -/
def provision {δ : Type} [ClaimDirectory δ] (directory : δ) (strategy : DurableStrategy)
    (identity : Identity) : Run Plan Unit := do
  let workspaceId := identity.workspaceId
  let listed ←
    Run.ofExcept (ClaimDirectory.listByLabel directory workspaceIdLabel workspaceId)
  bindAll workspaceId (strategy.choose workspaceId (existingClaims workspaceId listed))
    PodVolume.claim

/-- Adds the sub-path of a declared volume to a set. -/
def queueSubpath (workspaceId : String) : Visitor Empty (StringSet × Trace) :=
  fun _ declaration pod (subpaths, trace) =>
    let path := subPath workspaceId declaration.volumeName declaration.machineName
    ⟨.ok (), pod, (subpaths.add path, trace)⟩

/-- Lists the sub-paths of all declared volumes for creation, if that is wanted. -/
def prepare (strategy : DurableStrategy) (workspaceId : String) : Run Plan Unit := do
  if strategy.precreateSubpaths then
    let plan ← Run.subject
    let document := plan.document
    let walked := walkDeclarations (queueSubpath workspaceId)
      (fun machineName (subpaths, trace) =>
        (subpaths, trace ++ [.event .debug (unmatchedNotice machineName)]))
      document.machines document.pods (document.subpaths, [])
    let (subpaths, trace) := walked.state
    Run.setSubject { plan with document := { document with subpaths } }
    Run.report trace
    Run.note .debug s!"{subpaths.size} sub-paths queued for workspace {workspaceId}"

/-- Deletes the claims of a workspace. -/
def cleanup {δ : Type} [ClaimDirectory δ] (_strategy : DurableStrategy) (workspaceId : String) :
    Run δ Unit := do
  let (released, directory) :=
    ClaimDirectory.deleteByLabel (← Run.subject) workspaceIdLabel workspaceId
  Run.setSubject directory
  let names ← Run.ofExcept released
  Run.note .info <| s!"Released {names.length} claim(s) of workspace {workspaceId}: " ++
    String.intercalate ", " names

end DurableStrategy

end WorkspaceVolumes
