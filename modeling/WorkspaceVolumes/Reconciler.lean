import WorkspaceVolumes.Strategy.Registry
import WorkspaceVolumes.Document.Codec

/-!
# Reconciling and releasing

A workspace is reconciled by resolving its strategy once, preparing, and binding its
volumes; what this has added to the document is reported.  It is released by deleting its
durable storage.

## Main definitions

* `ReconcileReport`, `ReconcileReport.isNoop`.
* `reconcile`, `release`.
-/

namespace WorkspaceVolumes

/-- What reconciling has added to a document. -/
structure ReconcileReport where
  workspaceId : String
  /-- The key of the strategy that served the workspace. -/
  strategy : String
  claimsAdded : Nat
  volumesAdded : Nat
  mountsAdded : Nat
  /-- The sub-paths that were not listed before. -/
  subpaths : List String
  deriving DecidableEq

namespace ReconcileReport

/-- Whether nothing was added. -/
def isNoop (report : ReconcileReport) : Bool :=
  report.claimsAdded = 0 && report.volumesAdded = 0 && report.mountsAdded = 0 &&
    report.subpaths.isEmpty

/-- A report as a value. -/
def toData (report : ReconcileReport) : Data :=
  .object [("workspace_id", .text report.workspaceId), ("strategy", .text report.strategy),
    ("claims_added", .whole report.claimsAdded), ("volumes_added", .whole report.volumesAdded),
    ("mounts_added", .whole report.mountsAdded), ("subpaths", listData .text report.subpaths)]

/-- Reads a report. -/
def read {ν : Type} [DataSource ν] (value : ν) : Reading ReconcileReport := do
  let fields ← DataSource.record
    ["workspace_id", "strategy", "claims_added", "volumes_added", "mounts_added", "subpaths"] value
  return {
    workspaceId := ← fields.required "workspace_id" DataSource.text
    strategy := ← fields.required "strategy" DataSource.text
    claimsAdded := ← fields.required "claims_added" DataSource.count
    volumesAdded := ← fields.required "volumes_added" DataSource.count
    mountsAdded := ← fields.required "mounts_added" DataSource.count
    subpaths := ← fields.required "subpaths" (readList DataSource.text) }

/-- What a document has gained over an earlier state of it. -/
def between (workspaceId strategy : String) (earlier later : Document) : ReconcileReport where
  workspaceId
  strategy
  claimsAdded := later.claims.size - earlier.claims.size
  volumesAdded := later.volumeCount - earlier.volumeCount
  mountsAdded := later.mountCount - earlier.mountCount
  subpaths := later.subpaths.difference earlier.subpaths

/-- The event that tells of a report. -/
def notice (report : ReconcileReport) : TraceStep :=
  if report.isNoop then .event .debug "Workspace volumes already reconciled"
  else .event .info <| s!"Reconciled volumes: {report.claimsAdded} claim(s), " ++
    s!"{report.volumesAdded} volume(s), {report.mountsAdded} mount(s)"

end ReconcileReport

section
variable {δ ω : Type} [ClaimDirectory δ] [WorkspaceStore ω]

/-- The strategy that serves a workspace, which becomes known on the open span. -/
def effectiveStrategy {σ : Type} (store : ω) (strategy : Strategy) (workspaceId : String) :
    Run σ Strategy := do
  let effective := (← strategy.resolve store workspaceId).getD strategy
  Run.report [.record [("strategy", .text effective.name)]]
  return effective

/-- Prepares a document for a workspace and binds its volumes. -/
def reconcile (cluster : Cluster δ ω) (strategy : Strategy) (identity : Identity) :
    Run Plan ReconcileReport :=
  let workspaceId := identity.workspaceId
  Run.within .info "reconcile" [("workspace_id", .text workspaceId)] do
    let effective ← effectiveStrategy cluster.store strategy workspaceId
    let earlier ← Run.subject
    effective.prepare cluster.store workspaceId
    effective.provision cluster identity
    let later ← Run.subject
    let report :=
      ReconcileReport.between workspaceId effective.name earlier.document later.document
    Run.report [report.notice]
    return report

/-- Deletes the durable storage of a workspace; the subject is the claim directory. -/
def release (store : ω) (strategy : Strategy) (workspaceId : String) : Run δ Unit :=
  Run.within .info "release" [("workspace_id", .text workspaceId)] do
    let effective ← effectiveStrategy store strategy workspaceId
    effective.cleanup store workspaceId

end

end WorkspaceVolumes
