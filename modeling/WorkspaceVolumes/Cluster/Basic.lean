import WorkspaceVolumes.Document.Basic

/-!
# Collaborators

The engine asks two others: the directory of the claims that already exist, and the store
of what is known about workspaces.  It relies on nothing but their answers, so both are
interfaces.  The pair that lives in memory stands beside them.

## Main definitions

* `ClaimDirectory`, `WorkspaceStore`: the questions.
* `Cluster`: a directory and a store.
* `ClaimTable`, `WorkspaceTable`: the collaborators in memory, which can be switched off.
-/

namespace WorkspaceVolumes

/-- A directory of existing claims, in a state of type `δ`. -/
class ClaimDirectory (δ : Type) where
  /-- The claims on which a label has a value. -/
  listByLabel : δ → (key value : String) → Except VolumeError (List Claim)
  /-- Deletes the claims on which a label has a value, and tells their names. -/
  deleteByLabel : δ → (key value : String) → Except VolumeError (List String) × δ

/-- A store of what is known about workspaces, in a state of type `ω`. -/
class WorkspaceStore (ω : Type) where
  /-- The value of an attribute of a workspace, if it has one.  A workspace that the store
  does not know is not found; any other failure means that the store cannot be asked. -/
  getAttribute : ω → (workspaceId key : String) → Except VolumeError (Option String)

/-- The attribute by which a workspace asks for durable storage. -/
def mountSourcesAttribute : String := "mountSources"

/-- The collaborators of the engine. -/
structure Cluster (δ ω : Type) where
  directory : δ
  store : ω

/-! ### Claims in memory -/

/-- A directory of claims kept in a table by name. -/
structure ClaimTable where
  claims : StringMap Claim := .empty
  /-- Whether it answers. -/
  available : Bool := true

namespace ClaimTable

/-- Adds a claim under its name. -/
def insert (table : ClaimTable) (claim : Claim) : ClaimTable :=
  { table with claims := table.claims.insert claim.name claim }

/-- A directory that holds some claims. -/
def ofClaims (claims : List Claim) : ClaimTable := claims.foldl insert {}

/-- The names of the claims. -/
def names (table : ClaimTable) : List String := table.claims.keys

/-- The claims on which a label has a value, in name order. -/
def labelled (table : ClaimTable) (key value : String) : List Claim :=
  table.claims.values.filter (·.label? key = some value)

theorem mem_labelled {table : ClaimTable} {key value : String} {claim : Claim} :
    claim ∈ table.labelled key value ↔
      claim ∈ table.claims.values ∧ claim.label? key = some value := by
  simp [labelled]

/-- The claims on which a label has a value, if the directory answers. -/
def list (table : ClaimTable) (key value : String) : Except VolumeError (List Claim) :=
  if table.available then .ok (table.labelled key value) else .error .directoryUnavailable

/-- Deletes the claims on which a label has a value, if the directory answers. -/
def delete (table : ClaimTable) (key value : String) :
    Except VolumeError (List String) × ClaimTable :=
  if table.available then
    let doomed := (table.labelled key value).map Claim.name
    (.ok doomed, { table with claims := doomed.foldl StringMap.erase table.claims })
  else (.error .directoryUnavailable, table)

instance : ClaimDirectory ClaimTable where
  listByLabel := list
  deleteByLabel := delete

end ClaimTable

/-! ### Workspaces in memory -/

/-- A store of workspaces kept in a table by workspace, each with its attributes. -/
structure WorkspaceTable where
  workspaces : StringMap (StringMap String) := .empty
  /-- Whether it answers. -/
  available : Bool := true

namespace WorkspaceTable

/-- The attributes of a workspace; there are none if it is not known. -/
def attributes (table : WorkspaceTable) (workspaceId : String) : StringMap String :=
  (table.workspaces.get? workspaceId).getD .empty

/-- Makes a workspace known. -/
def addWorkspace (table : WorkspaceTable) (workspaceId : String) : WorkspaceTable :=
  { table with
    workspaces := table.workspaces.insert workspaceId (table.attributes workspaceId) }

/-- Sets an attribute of a workspace, which becomes known by it. -/
def setAttribute (table : WorkspaceTable) (workspaceId key value : String) : WorkspaceTable :=
  { table with
    workspaces :=
      table.workspaces.insert workspaceId ((table.attributes workspaceId).insert key value) }

theorem attributes_addWorkspace (table : WorkspaceTable) (workspaceId other : String) :
    (table.addWorkspace workspaceId).attributes other = table.attributes other := by
  rw [attributes, addWorkspace, StringMap.get?_insert]
  split
  case isTrue same => simp [same]
  case isFalse => rfl

theorem attributes_setAttribute (table : WorkspaceTable) (workspaceId other key value : String) :
    (table.setAttribute workspaceId key value).attributes other =
      if workspaceId = other then (table.attributes other).insert key value
      else table.attributes other := by
  rw [attributes, setAttribute, StringMap.get?_insert]
  split
  case isTrue same => simp [same]
  case isFalse => rfl

/-- The value of an attribute of a workspace, if the store answers. -/
def getAttribute (table : WorkspaceTable) (workspaceId key : String) :
    Except VolumeError (Option String) :=
  if table.available then
    match table.workspaces.get? workspaceId with
    | some attributes => .ok (attributes.get? key)
    | none => .error (.unknownWorkspace workspaceId)
  else .error .storeUnavailable

instance : WorkspaceStore WorkspaceTable where
  getAttribute := getAttribute

end WorkspaceTable

end WorkspaceVolumes
