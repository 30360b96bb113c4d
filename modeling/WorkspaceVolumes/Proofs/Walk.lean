import Mathlib.Data.List.Basic
import WorkspaceVolumes.Document.Walk

/-!
# A walk is fixed in advance

A walk looks up the machine of a container when the turn of the container comes, in a pod
that earlier visits may have changed.  As long as the visits keep the layout of the pod,
which is its metadata and the number, order and names of its containers, that makes no
difference: where the walk stops can be listed before it starts, and the walk is one visit
after the other along that list.

**Layout.**  Nothing but the layout decides where a walk stops
(`Pod.SameLayout.stops_eq`), so a list of stops that was made before a walk is also the
list that would be made after it.

## Main definitions

* `Stop`, `Pod.stops`: where a walk through a pod stops, in order.
* `Pod.SameLayout`, `KeepsLayout`: pods, and visitors, that agree on where to stop.
* `visitStops`: one visit after the other, up to the first that fails.

## Main statements

* `Pod.walk_eq_visitStops`: a walk through a pod visits the stops of the pod.
-/

namespace WorkspaceVolumes

open StringMap (Visit)

namespace StringMap.Visit

variable {ε α σ : Type}

theorem andThen_assoc (visit : Visit ε α σ) (second third : α → σ → Visit ε α σ) :
    (visit.andThen second).andThen third =
      visit.andThen fun value state => (second value state).andThen third := by
  obtain ⟨outcome, value, state⟩ := visit
  cases outcome <;> rfl

/-- What follows a visit matters only where the visit has succeeded. -/
theorem andThen_congr {visit : Visit ε α σ} {second third : α → σ → Visit ε α σ}
    (same : visit.outcome = .ok () →
      second visit.value visit.state = third visit.value visit.state) :
    visit.andThen second = visit.andThen third := by
  obtain ⟨outcome, value, state⟩ := visit
  cases outcome with
  | ok => exact same rfl
  | error => rfl

/-- A visit that cannot fail is always followed by the next. -/
theorem andThen_of_total (visit : Visit Empty α σ) (next : α → σ → Visit Empty α σ) :
    visit.andThen next = next visit.value visit.state := by
  obtain ⟨outcome, value, state⟩ := visit
  cases outcome with
  | ok => rfl
  | error fault => exact fault.elim

end StringMap.Visit

/-- A sweep whose visits cannot fail reaches every entry. -/
theorem StringMap.sweepEntries_cons_of_total {α σ : Type} (visit : α → σ → Visit Empty α σ)
    (key : String) (value : α) (rest : List (String × α)) (state : σ) :
    sweepEntries visit ((key, value) :: rest) state =
      ⟨(sweepEntries visit rest (visit value state).state).outcome,
        (key, (visit value state).value) ::
          (sweepEntries visit rest (visit value state).state).value,
        (sweepEntries visit rest (visit value state).state).state⟩ := by
  rw [sweepEntries]
  obtain ⟨outcome, visited, left⟩ := visit value state
  cases outcome with
  | ok => rfl
  | error fault => exact fault.elim

/-! ## Stops -/

/-- A place where a walk through a pod stops: a volume that the machine of a container
declares, or a container whose machine is not there. -/
inductive Stop
  | declared (index : Nat) (declaration : Declaration)
  | unmatched (machineName : String)
  deriving DecidableEq

/-- Two pods have the same metadata, and containers of the same names in the same
order. -/
structure Pod.SameLayout (pod other : Pod) : Prop where
  metadata : other.metadata = pod.metadata
  names : other.containers.map (·.name) = pod.containers.map (·.name)

namespace Pod

/-- Where a walk stops in one container of a pod. -/
def stopsAt (machines : StringMap Machine) (pod : Pod) (index : Nat) : List Stop :=
  match pod.containers[index]? with
  | none => []
  | some container =>
    let machineName := pod.machineName container.name
    match machines.get? machineName with
    | none => [.unmatched machineName]
    | some machine =>
      machine.paths.entries.map fun entry => .declared index ⟨machineName, entry.1, entry.2⟩

/-- Where a walk stops in a pod. -/
def stops (machines : StringMap Machine) (pod : Pod) : List Stop :=
  (List.range pod.containers.length).flatMap (pod.stopsAt machines)

/-- A stop at a declared volume, in terms of the container and the machine that declares
it. -/
theorem declared_mem_stopsAt_iff {machines : StringMap Machine} {pod : Pod} {place index : Nat}
    {declaration : Declaration} :
    .declared index declaration ∈ pod.stopsAt machines place ↔
      index = place ∧ ∃ container machine, pod.containers[place]? = some container ∧
        declaration.machineName = pod.machineName container.name ∧
        machines.get? declaration.machineName = some machine ∧
        machine.paths.get? declaration.volumeName = some declaration.path := by
  obtain ⟨machineName, volumeName, path⟩ := declaration
  rw [stopsAt]
  cases here : pod.containers[place]? with
  | none => simp
  | some container =>
    cases found : machines.get? (pod.machineName container.name) with
    | none =>
      -- The walk stops once at the container, but not at a declared volume.
      simp only [found]
      constructor
      · intro member
        simp at member
      · rintro ⟨-, _, machine, same, named, present, -⟩
        obtain rfl := Option.some.inj same
        rw [named, found] at present
        cases present
    | some machine =>
      simp only [found, List.mem_map, Stop.declared.injEq, Declaration.mk.injEq]
      constructor
      · rintro ⟨entry, member, rfl, rfl, rfl, rfl⟩
        exact ⟨rfl, container, machine, rfl, rfl, found, StringMap.get?_eq_some_iff.2 member⟩
      · rintro ⟨rfl, _, other, same, rfl, present, path⟩
        obtain rfl := Option.some.inj same
        obtain rfl := Option.some.inj (found.symm.trans present)
        exact ⟨_, StringMap.get?_eq_some_iff.1 path, rfl, rfl, rfl, rfl⟩

theorem declared_mem_stops_iff {machines : StringMap Machine} {pod : Pod} {index : Nat}
    {declaration : Declaration} :
    .declared index declaration ∈ pod.stops machines ↔
      ∃ container machine, pod.containers[index]? = some container ∧
        declaration.machineName = pod.machineName container.name ∧
        machines.get? declaration.machineName = some machine ∧
        machine.paths.get? declaration.volumeName = some declaration.path := by
  rw [stops, List.mem_flatMap]
  constructor
  · rintro ⟨place, -, member⟩
    obtain ⟨rfl, declares⟩ := declared_mem_stopsAt_iff.1 member
    exact declares
  · intro declares
    have ⟨container, _, here, _⟩ := declares
    have inside : index < pod.containers.length := (List.getElem?_eq_some_iff.1 here).1
    exact ⟨index, List.mem_range.2 inside, declared_mem_stopsAt_iff.2 ⟨rfl, declares⟩⟩

/-- A walk stops at declared volumes of containers that are there. -/
theorem lt_length_of_declared_mem_stops {machines : StringMap Machine} {pod : Pod} {index : Nat}
    {declaration : Declaration} (member : .declared index declaration ∈ pod.stops machines) :
    index < pod.containers.length := by
  obtain ⟨container, _, here, -⟩ := declared_mem_stops_iff.1 member
  exact (List.getElem?_eq_some_iff.1 here).1

namespace SameLayout

variable {pod other third : Pod}

@[refl] theorem refl (pod : Pod) : pod.SameLayout pod := ⟨rfl, rfl⟩

theorem trans (first : pod.SameLayout other) (second : other.SameLayout third) :
    pod.SameLayout third :=
  ⟨second.metadata.trans first.metadata, second.names.trans first.names⟩

theorem length_eq (same : pod.SameLayout other) :
    other.containers.length = pod.containers.length := by
  simpa using congrArg List.length same.names

theorem machineName_eq (same : pod.SameLayout other) (container : String) :
    other.machineName container = pod.machineName container := by
  rw [machineName, machineName, same.metadata]

theorem stopsAt_eq (same : pod.SameLayout other) (machines : StringMap Machine) (index : Nat) :
    other.stopsAt machines index = pod.stopsAt machines index := by
  have name : (other.containers[index]?).map (·.name) =
      (pod.containers[index]?).map (·.name) := by
    rw [← List.getElem?_map, ← List.getElem?_map, same.names]
  rw [stopsAt, stopsAt]
  cases here : pod.containers[index]? with
  | none =>
    rw [here, Option.map_none, Option.map_eq_none_iff] at name
    rw [name]
  | some container =>
    rw [here, Option.map_some, Option.map_eq_some_iff] at name
    obtain ⟨renamed, there, equal⟩ := name
    simp only [there, equal, same.machineName_eq]

/-- Where a walk stops depends on the layout of a pod alone. -/
theorem stops_eq (same : pod.SameLayout other) (machines : StringMap Machine) :
    other.stops machines = pod.stops machines := by
  rw [stops, stops, same.length_eq]
  exact List.flatMap_congr fun index _ => same.stopsAt_eq machines index

end SameLayout

theorem sameLayout_addMount (pod : Pod) (index : Nat) (mount : VolumeMount) :
    pod.SameLayout (pod.addMount index mount) where
  metadata := rfl
  names := by
    refine List.ext_getElem? fun place => ?_
    rw [addMount, List.getElem?_map, List.getElem?_map, List.getElem?_modify]
    cases pod.containers[place]? with
    | none => rfl
    | some container =>
      simp only [Option.map_some, Option.map_eq_map]
      split
      · rw [Container.name_addMount]
      · rfl

theorem sameLayout_addVolume (pod : Pod) (volume : PodVolume) :
    pod.SameLayout (pod.addVolume volume) :=
  ⟨metadata_addVolume pod volume, by rw [containers_addVolume]⟩

end Pod

/-! ## Visiting the stops -/

section

variable {ε σ : Type}

/-- A visitor that leaves the layout of the pods it visits alone. -/
def KeepsLayout (visit : Visitor ε σ) : Prop :=
  ∀ (index : Nat) (declaration : Declaration) (pod : Pod) (state : σ),
    pod.SameLayout (visit index declaration pod state).value

variable (visit : Visitor ε σ) (unmatched : String → σ → σ)

/-- What is done at a stop. -/
def visitStop : Stop → Pod → σ → Visit ε Pod σ
  | .declared index declaration, pod, state => visit index declaration pod state
  | .unmatched machineName, pod, state => ⟨.ok (), pod, unmatched machineName state⟩

/-- One stop after the other, up to the first visit that fails. -/
def visitStops : List Stop → Pod → σ → Visit ε Pod σ
  | [], pod, state => ⟨.ok (), pod, state⟩
  | stop :: rest, pod, state =>
    (visitStop visit unmatched stop pod state).andThen (visitStops rest)

theorem visitStops_append (front back : List Stop) (pod : Pod) (state : σ) :
    visitStops visit unmatched (front ++ back) pod state =
      (visitStops visit unmatched front pod state).andThen
        (visitStops visit unmatched back) := by
  induction front generalizing pod state with
  | nil => rfl
  | cons stop rest ih =>
    rw [List.cons_append, visitStops, visitStops, StringMap.Visit.andThen_assoc]
    exact congrArg _ (funext fun pod => funext fun state => ih pod state)

variable {visit} in
theorem sameLayout_visitStop (keeps : KeepsLayout visit) (stop : Stop) (pod : Pod) (state : σ) :
    pod.SameLayout (visitStop visit unmatched stop pod state).value := by
  cases stop with
  | declared index declaration => exact keeps index declaration pod state
  | unmatched machineName => exact .refl pod

variable {visit} in
theorem sameLayout_visitStops (keeps : KeepsLayout visit) (stops : List Stop) (pod : Pod)
    (state : σ) :
    pod.SameLayout (visitStops visit unmatched stops pod state).value := by
  induction stops generalizing pod state with
  | nil => exact .refl pod
  | cons stop rest ih =>
    have here := sameLayout_visitStop unmatched keeps stop pod state
    rw [visitStops, StringMap.Visit.andThen]
    split
    · exact here.trans (ih _ _)
    · exact here

namespace Pod

theorem walkVolumes_eq_visitStops (index : Nat) (machineName : String)
    (declared : List (String × String)) (pod : Pod) (state : σ) :
    walkVolumes visit index machineName declared pod state =
      visitStops visit unmatched
        (declared.map fun entry => .declared index ⟨machineName, entry.1, entry.2⟩) pod
          state := by
  induction declared generalizing pod state with
  | nil => rfl
  | cons entry rest ih =>
    rw [walkVolumes, List.map_cons, visitStops]
    exact congrArg _ (funext fun pod => funext fun state => ih pod state)

theorem walkContainer_eq_visitStops (machines : StringMap Machine) (index : Nat) (pod : Pod)
    (state : σ) :
    walkContainer visit unmatched machines index pod state =
      visitStops visit unmatched (pod.stopsAt machines index) pod state := by
  rw [walkContainer, stopsAt]
  cases pod.containers[index]? with
  | none => rfl
  | some container =>
    cases found : machines.get? (pod.machineName container.name) with
    | none =>
      simp only [found]
      rfl
    | some machine =>
      simp only [found]
      exact walkVolumes_eq_visitStops visit unmatched index _ _ pod state

variable {visit} in
/-- Containers visited one by one, each by what the pod is like when its turn comes, are
visited as the pod was at first. -/
theorem walkContainers_eq_visitStops (keeps : KeepsLayout visit) (machines : StringMap Machine)
    (places : List Nat) (pod : Pod) (state : σ) :
    walkContainers visit unmatched machines places pod state =
      visitStops visit unmatched (places.flatMap (pod.stopsAt machines)) pod state := by
  induction places generalizing pod state with
  | nil => rfl
  | cons place rest ih =>
    rw [walkContainers, List.flatMap_cons, visitStops_append, walkContainer_eq_visitStops]
    refine StringMap.Visit.andThen_congr fun _ => ?_
    -- The hypothesis lists the stops of the pod as the first container has left it.
    rw [ih]
    have same := sameLayout_visitStops unmatched keeps (pod.stopsAt machines place) pod state
    congr 1
    exact List.flatMap_congr fun index _ => same.stopsAt_eq machines index

variable {visit} in
/-- **A walk is fixed in advance.**  A visitor that keeps the layout of the pod visits
exactly the stops that the pod has before the walk, in their order, up to the first visit
that fails. -/
theorem walk_eq_visitStops (keeps : KeepsLayout visit) (machines : StringMap Machine)
    (pod : Pod) (state : σ) :
    pod.walk visit unmatched machines state =
      visitStops visit unmatched (pod.stops machines) pod state :=
  walkContainers_eq_visitStops unmatched keeps machines _ pod state

end Pod

end

end WorkspaceVolumes
