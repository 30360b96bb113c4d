import WorkspaceVolumes.Document.Walk
import WorkspaceVolumes.Naming
import WorkspaceVolumes.Run

/-!
# Binding declared volumes

Storage for the life of a pod and durable storage bind the same volumes at the same paths;
they differ in what they bind them to.  This module holds what they share: the visit that
binds one declared volume, and the pass over a document that is made of such visits.

**Idempotence.**  A path that its container binds already is left alone, and then nothing
is chosen: no name is drawn and no claim is made.

## Main definitions

* `Plan`: what planning changes, a document and the random numbers.
* `Supplies`: what a pass may use up besides the pods.
* `bindVolume`, `bindAll`: one visit, and the pass.
-/

namespace WorkspaceVolumes

/-- The subject of planning: a document, and the random numbers for its names. -/
structure Plan where
  document : Document
  draws : DrawStream

/-- What a pass over the pods of a document may change besides them. -/
structure Supplies where
  claims : StringMap Claim
  draws : DrawStream
  trace : Trace

/-- Reports an event. -/
def Supplies.note (supplies : Supplies) (message : String) : Supplies :=
  { supplies with trace := supplies.trace ++ [.event .debug message] }

/-- What is reported of a container whose machine declares nothing. -/
def unmatchedNotice (machineName : String) : String :=
  s!"No machine config for {machineName}; nothing to mount"

/-- Picks the backing object of a volume by name, perhaps a new one. -/
abbrev Chooser := String → Supplies → String × Supplies

/-- Binds a declared volume of a container to the object that is chosen for it, and gives
its pod a volume for that object. -/
def bindVolume (workspaceId : String) (choose : Chooser) (volumeOf : String → PodVolume) :
    Visitor Empty Supplies := fun index declaration pod supplies =>
  if pod.binds index declaration.path then
    ⟨.ok (), pod,
      supplies.note s!"{declaration.path} already mounted in {declaration.machineName}; skipping"⟩
  else
    let (name, supplies) := choose declaration.volumeName supplies
    let mount : VolumeMount := {
      name
      mountPath := declaration.path
      subPath := some (subPath workspaceId declaration.volumeName declaration.machineName) }
    ⟨.ok (), (pod.addMount index mount).addVolume (volumeOf name), supplies⟩

/-- Binds all declared volumes of a document. -/
def bindAll (workspaceId : String) (choose : Chooser) (volumeOf : String → PodVolume) :
    Run Plan Unit := do
  let plan ← Run.subject
  let document := plan.document
  let bound := walkDeclarations (bindVolume workspaceId choose volumeOf)
    (fun machineName supplies => supplies.note (unmatchedNotice machineName))
    document.machines document.pods ⟨document.claims, plan.draws, []⟩
  Run.setSubject {
    document := { document with pods := bound.value, claims := bound.state.claims }
    draws := bound.state.draws }
  Run.report bound.state.trace

end WorkspaceVolumes
