import WorkspaceVolumes.Document.Basic

/-!
# Walking the declared volumes

Both ways of providing storage, and the listing of sub-paths, go through the volumes that
the machines of a document declare: pod by pod in key order, container by container, and
for each container through the volumes of its machine in name order.  A container whose
machine declares nothing is passed over.

**What a visit may do.**  A visit changes the pod that it is in and a state of its own.
It may fail, and then it is the last.  The machine of a container is looked up when its
turn comes.

## Main definitions

* `Declaration`, `Visitor`: what is visited, and by what.
* `Pod.walk`, `walkDeclarations`: the walk through one pod and through all.
-/

namespace WorkspaceVolumes

open StringMap (Visit)

/-- A volume declared by the machine of a container. -/
structure Declaration where
  machineName : String
  volumeName : String
  /-- Where the volume is to be mounted. -/
  path : String
  deriving DecidableEq

/-- What is done at a declared volume of a container, which is given by its pod and its
place in it. -/
abbrev Visitor (ε σ : Type) := Nat → Declaration → Pod → σ → Visit ε Pod σ

variable {ε σ : Type}

namespace Pod

/-- Visits the volumes of one machine for a container. -/
def walkVolumes (visit : Visitor ε σ) (index : Nat) (machineName : String) :
    List (String × String) → Pod → σ → Visit ε Pod σ
  | [], pod, state => ⟨.ok (), pod, state⟩
  | (volumeName, path) :: rest, pod, state =>
    (visit index ⟨machineName, volumeName, path⟩ pod state).andThen
      (walkVolumes visit index machineName rest)

/-- Visits the volumes of a container; `unmatched` is told of a machine that is not
there. -/
def walkContainer (visit : Visitor ε σ) (unmatched : String → σ → σ) (machines : StringMap Machine)
    (index : Nat) (pod : Pod) (state : σ) : Visit ε Pod σ :=
  match pod.containers[index]? with
  | none => ⟨.ok (), pod, state⟩
  | some container =>
    let machineName := pod.machineName container.name
    match machines.get? machineName with
    | none => ⟨.ok (), pod, unmatched machineName state⟩
    | some machine => walkVolumes visit index machineName machine.paths.entries pod state

/-- Visits the volumes of some containers. -/
def walkContainers (visit : Visitor ε σ) (unmatched : String → σ → σ)
    (machines : StringMap Machine) : List Nat → Pod → σ → Visit ε Pod σ
  | [], pod, state => ⟨.ok (), pod, state⟩
  | index :: rest, pod, state =>
    (walkContainer visit unmatched machines index pod state).andThen
      (walkContainers visit unmatched machines rest)

/-- Visits the volumes of all containers of a pod. -/
def walk (visit : Visitor ε σ) (unmatched : String → σ → σ) (machines : StringMap Machine)
    (pod : Pod) (state : σ) : Visit ε Pod σ :=
  walkContainers visit unmatched machines (List.range pod.containers.length) pod state

end Pod

/-- Visits the declared volumes of all pods. -/
def walkDeclarations (visit : Visitor ε σ) (unmatched : String → σ → σ)
    (machines : StringMap Machine) (pods : StringMap Pod) (state : σ) :
    Visit ε (StringMap Pod) σ :=
  pods.sweep (Pod.walk visit unmatched machines) state

end WorkspaceVolumes
