import WorkspaceVolumes.Strategy.Durable
import WorkspaceVolumes.Strategy.EmptyDir

/-!
# Strategies

How the declared volumes of a workspace get storage: not at all, for the life of a pod,
durably, or as the workspace has asked.  The last is an override.  It serves a workspace
durably only if the store says so, and may itself be overridden.

**Routing.**  A workspace is ephemeral unless its attribute `mountSources` is the word
true.  A missing attribute, any other value and an unknown workspace all count as
ephemeral.  A store that cannot answer is an error, because guessing would put the data in
the wrong place.

## Main definitions

* `Strategy`, with `name`, `prepare`, `provision`, `cleanup` and `resolve`.
* `isEphemeral`: the routing decision.
-/

namespace WorkspaceVolumes

/-- A way to provide storage. -/
inductive Strategy
  /-- No storage. -/
  | none
  /-- Storage for the life of a pod. -/
  | emptyDir (strategy : EmptyDirStrategy)
  /-- Storage that outlives the pods. -/
  | durable (strategy : DurableStrategy)
  /-- Durable storage for the workspaces that ask for it, transient storage for the
  others. -/
  | override (persistent : Strategy) (transient : EmptyDirStrategy)
  deriving DecidableEq

/-- Whether the value of the attribute asks for durable storage. -/
def asksForDurable (value : Option String) : Bool :=
  value.any fun word => Text.lowered word = "true"

/-- Whether a workspace is to get transient storage. -/
def isEphemeral {ω σ : Type} [WorkspaceStore ω] (store : ω) (workspaceId : String) : Run σ Bool := do
  match WorkspaceStore.getAttribute store workspaceId mountSourcesAttribute with
  | .ok value => return !asksForDurable value
  | .error fault =>
    if fault.isNotFound then
      Run.note .debug s!"Workspace {workspaceId} not found; treating as ephemeral"
      return true
    else throw (.workspaceLookup workspaceId fault)

namespace Strategy

/-- The key of a strategy.  An override has the key of what it overrides. -/
def name : Strategy → String
  | none => noneKey
  | emptyDir _ => emptyDirKey
  | durable _ => commonKey
  | override persistent _ => persistent.name

section
variable {ω σ : Type} [WorkspaceStore ω]

/-- The strategy that an override serves a workspace with; other strategies serve it
themselves. -/
def resolve (store : ω) (workspaceId : String) : Strategy → Run σ (Option Strategy)
  | override persistent transient => do
    if ← isEphemeral store workspaceId then return some (emptyDir transient)
    else return some persistent
  | _ => return Option.none

/-- What is done before the volumes of a workspace are bound. -/
def prepare (store : ω) (workspaceId : String) : Strategy → Run Plan Unit
  | durable strategy => strategy.prepare workspaceId
  | override persistent _ => do
    if ← isEphemeral store workspaceId then return () else persistent.prepare store workspaceId
  | _ => return ()

variable {δ : Type} [ClaimDirectory δ]

/-- Binds the declared volumes of a document. -/
def provision (cluster : Cluster δ ω) (identity : Identity) : Strategy → Run Plan Unit
  | none => return ()
  | emptyDir strategy => strategy.provision identity
  | durable strategy => strategy.provision cluster.directory identity
  | override persistent transient => do
    if ← isEphemeral cluster.store identity.workspaceId then transient.provision identity
    else persistent.provision cluster identity

/-- Releases the durable storage of a workspace; the subject is the claim directory. -/
def cleanup (store : ω) (workspaceId : String) : Strategy → Run δ Unit
  | durable strategy => strategy.cleanup workspaceId
  | override persistent _ => do
    if ← isEphemeral store workspaceId then return () else persistent.cleanup store workspaceId
  | _ => return ()

end

end Strategy

end WorkspaceVolumes
