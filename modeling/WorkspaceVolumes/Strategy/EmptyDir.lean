import WorkspaceVolumes.Config.Validation
import WorkspaceVolumes.Strategy.Binding

/-!
# Storage for the life of a pod

Every declared volume gets a directory of its own that goes with its pod.  Nothing durable
is made, so there is nothing to prepare and nothing to release.
-/

namespace WorkspaceVolumes

/-- Storage that lives as long as the pod. -/
structure EmptyDirStrategy where
  /-- The stem of the names of its volumes. -/
  stem : String
  deriving DecidableEq

namespace EmptyDirStrategy

/-- The strategy whose volumes have names with a stem, if the stem is valid. -/
def ofStem (stem : String) : Except VolumeError EmptyDirStrategy := do
  validateNameStem stem
  return ⟨stem⟩

/-- Every volume gets a new name. -/
def choose (strategy : EmptyDirStrategy) : Chooser := fun _ supplies =>
  let (name, draws) := generateName strategy.stem supplies.draws
  (name, { supplies with draws })

/-- Binds the declared volumes of a document. -/
def provision (strategy : EmptyDirStrategy) (identity : Identity) : Run Plan Unit :=
  bindAll identity.workspaceId strategy.choose PodVolume.emptyDir

end EmptyDirStrategy

end WorkspaceVolumes
