import WorkspaceVolumes.Proofs.Action
import WorkspaceVolumes.Proofs.Walk
import WorkspaceVolumes.Proofs.StringMap
import WorkspaceVolumes.Strategy.Durable

/-!
# Which sub-paths are queued

Preparing runs through the same walk as a pass, but it only reads: it collects one
sub-path for every volume that the machine of some container declares, bound or not, and
leaves the pods alone.

## Main definitions

* `Document.declarations`: the declared volumes, in the order of a walk.
* `Plan.queued`: the plan after preparing.

## Main statements

* `Document.mem_declarations_iff`: what is declared, without walking.
* `DurableStrategy.prepare_actsAs`: preparing is `Plan.queued` or nothing, and it never
  fails.
-/

namespace WorkspaceVolumes

/-- The volume that is declared at a stop. -/
def Stop.declaration? : Stop → Option Declaration
  | .declared _ declaration => some declaration
  | .unmatched _ => none

/-- Where the volume of a machine lives inside the storage of a workspace. -/
def Declaration.subPath (workspaceId : String) (declaration : Declaration) : String :=
  WorkspaceVolumes.subPath workspaceId declaration.volumeName declaration.machineName

/-- The volumes that the machines of the containers of a pod declare. -/
def Pod.declarations (machines : StringMap Machine) (pod : Pod) : List Declaration :=
  (pod.stops machines).filterMap Stop.declaration?

/-- The declared volumes of a document, in the order of a walk. -/
def Document.declarations (document : Document) : List Declaration :=
  document.pods.entries.flatMap fun entry => entry.2.declarations document.machines

theorem Pod.mem_declarations_iff {machines : StringMap Machine} {pod : Pod}
    {declaration : Declaration} :
    declaration ∈ pod.declarations machines ↔ ∃ container ∈ pod.containers,
      declaration.machineName = pod.machineName container.name ∧
        ∃ machine, machines.get? declaration.machineName = some machine ∧
          machine.paths.get? declaration.volumeName = some declaration.path := by
  rw [declarations, List.mem_filterMap]
  constructor
  · rintro ⟨stop, isStop, here⟩
    cases stop with
    | unmatched machineName => cases here
    | declared index found =>
      obtain rfl := Option.some.inj here
      obtain ⟨container, machine, place, named, present, path⟩ :=
        declared_mem_stops_iff.1 isStop
      exact ⟨container, List.mem_of_getElem? place, named, machine, present, path⟩
  · rintro ⟨container, member, named, machine, present, path⟩
    obtain ⟨index, place⟩ := List.getElem?_of_mem member
    exact ⟨.declared index declaration,
      declared_mem_stops_iff.2 ⟨container, machine, place, named, present, path⟩, rfl⟩

theorem Document.mem_declarations {document : Document} {declaration : Declaration} :
    declaration ∈ document.declarations ↔
      ∃ key pod, document.pods.get? key = some pod ∧
        declaration ∈ pod.declarations document.machines := by
  rw [declarations, List.mem_flatMap]
  constructor
  · rintro ⟨⟨key, pod⟩, member, declared⟩
    exact ⟨key, pod, StringMap.get?_eq_some_iff.2 member, declared⟩
  · rintro ⟨key, pod, found, declared⟩
    exact ⟨(key, pod), StringMap.get?_eq_some_iff.1 found, declared⟩

/-- A volume is declared if some container of some pod has a machine that declares it. -/
theorem Document.mem_declarations_iff {document : Document} {declaration : Declaration} :
    declaration ∈ document.declarations ↔
      ∃ key pod, document.pods.get? key = some pod ∧ ∃ container ∈ pod.containers,
        declaration.machineName = pod.machineName container.name ∧
          ∃ machine, document.machines.get? declaration.machineName = some machine ∧
            machine.paths.get? declaration.volumeName = some declaration.path := by
  simp only [mem_declarations, Pod.mem_declarations_iff]

/-- A set of sub-paths with those of some declared volumes. -/
def queueAll (workspaceId : String) (declared : List Declaration) (subpaths : StringSet) :
    StringSet :=
  (declared.map (·.subPath workspaceId)).foldl StringSet.add subpaths

theorem queueAll_append (workspaceId : String) (front back : List Declaration)
    (subpaths : StringSet) :
    queueAll workspaceId (front ++ back) subpaths =
      queueAll workspaceId back (queueAll workspaceId front subpaths) := by
  rw [queueAll, List.map_append, List.foldl_append]
  rfl

/-- A sub-path is queued if it was queued before or is that of one of the volumes. -/
theorem mem_queueAll {workspaceId : String} {declared : List Declaration} {subpaths : StringSet}
    {path : String} :
    path ∈ (queueAll workspaceId declared subpaths).toList ↔
      path ∈ subpaths.toList ∨
        ∃ declaration ∈ declared, declaration.subPath workspaceId = path := by
  rw [queueAll, StringSet.mem_toList_foldl_add, List.mem_map, or_comm]

/-- What is reported at a container without a machine. -/
def reportUnmatched (machineName : String) : StringSet × Trace → StringSet × Trace
  | (subpaths, trace) => (subpaths, trace ++ [.event .debug (unmatchedNotice machineName)])

section

variable (workspaceId : String)

theorem keepsLayout_queueSubpath : KeepsLayout (DurableStrategy.queueSubpath workspaceId) :=
  fun _ _ pod _ => .refl pod

/-- Along the stops of a pod the declared volumes are queued, and nothing happens to the
pod. -/
theorem visitStops_queueSubpath (stops : List Stop) (pod : Pod) (state : StringSet × Trace) :
    (visitStops (DurableStrategy.queueSubpath workspaceId) reportUnmatched stops pod
      state).state.1 =
      queueAll workspaceId (stops.filterMap Stop.declaration?) state.1 := by
  induction stops generalizing pod state with
  | nil => rfl
  | cons stop rest ih =>
    rw [visitStops, StringMap.Visit.andThen_of_total, ih]
    cases stop with
    | declared index declaration => rfl
    | unmatched machineName => rfl

theorem sweepEntries_queueSubpath (machines : StringMap Machine) (entries : List (String × Pod))
    (state : StringSet × Trace) :
    (StringMap.sweepEntries
        (Pod.walk (DurableStrategy.queueSubpath workspaceId) reportUnmatched machines) entries
        state).state.1 =
      queueAll workspaceId (entries.flatMap fun entry => entry.2.declarations machines)
        state.1 := by
  induction entries generalizing state with
  | nil => rfl
  | cons entry rest ih =>
    obtain ⟨key, pod⟩ := entry
    rw [StringMap.sweepEntries_cons_of_total, List.flatMap_cons, queueAll_append]
    refine (ih _).trans ?_
    rw [Pod.walk_eq_visitStops reportUnmatched (keepsLayout_queueSubpath workspaceId),
      visitStops_queueSubpath]
    rfl

/-- A plan in which the sub-paths of all declared volumes are queued. -/
def Plan.queued (plan : Plan) : Plan :=
  { plan with document := { plan.document with
      subpaths := queueAll workspaceId plan.document.declarations plan.document.subpaths } }

/-- A plan as a durable strategy prepares it. -/
def DurableStrategy.prepared (strategy : DurableStrategy) (plan : Plan) : Plan :=
  if strategy.precreateSubpaths then plan.queued workspaceId else plan

theorem DurableStrategy.declarations_prepared (strategy : DurableStrategy) (plan : Plan) :
    (strategy.prepared workspaceId plan).document.declarations =
      plan.document.declarations := by
  rw [prepared]
  split <;> rfl

/-- The sub-paths that a strategy creates in advance are queued once it has prepared the
plan. -/
theorem DurableStrategy.subPath_mem_prepared {strategy : DurableStrategy} {plan : Plan}
    {declaration : Declaration} (creates : strategy.precreateSubpaths = true)
    (declared : declaration ∈ plan.document.declarations) :
    declaration.subPath workspaceId ∈
      (strategy.prepared workspaceId plan).document.subpaths.toList := by
  rw [prepared, if_pos creates]
  exact mem_queueAll.2 (.inr ⟨declaration, declared, rfl⟩)

/-- **Preparing is collecting.**  It never fails, and it changes nothing but the queue of
sub-paths. -/
theorem DurableStrategy.prepare_actsAs (strategy : DurableStrategy) :
    (strategy.prepare workspaceId).ActsAs fun plan =>
      (.ok (), strategy.prepared workspaceId plan) := by
  intro state
  obtain ⟨⟨document, draws⟩, trace⟩ := state
  show _ = (Except.ok (), strategy.prepared workspaceId ⟨document, draws⟩)
  rw [prepare, prepared]
  cases strategy.precreateSubpaths with
  | false => rfl
  | true =>
    have swept := sweepEntries_queueSubpath workspaceId document.machines document.pods.entries
      (document.subpaths, [])
    exact congrArg (fun subpaths =>
      ((.ok (), ⟨{ document with subpaths }, draws⟩) : Except VolumeError Unit × Plan)) swept

end

end WorkspaceVolumes
