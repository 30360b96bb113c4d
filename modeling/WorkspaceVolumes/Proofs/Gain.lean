import WorkspaceVolumes.Proofs.Pass

/-!
# What a pass adds

A pass puts the mounts of its bindings behind the mounts that a container has, one for
every open site of the container, and binds every declared path by that.

**Gains.**  What a container has gained between two states of a document is read off the
documents alone: whatever stands behind as many mounts as there were before.
`Plan.mem_gained_bound` says what that is for a pass.

**Absorption.**  After a pass nothing is open, so another pass, whoever makes it, finds
nothing to do.

## Main definitions

* `Document.mountsAt`, `gained`: the mounts of a container, and those it has gained.
* `GainedFor`: what a gained mount is for.
* `Document.volumesAt`, `gainedVolumes`: the same for the volumes of a pod.
* `Pod.Admits`: bindings that can be attached to a pod without one of them being in the
  way of another.

## Main statements

* `Plan.mem_gained_bound`: the mounts gained in a pass are those of its bindings.
* `Plan.exists_volumesAt_bound`: the volumes gained in a pass are for its bindings.
* `Plan.openings_bound`, `Plan.bound_of_closed`: a pass leaves nothing open, and where
  nothing is open a pass does nothing.
-/

namespace WorkspaceVolumes

/-! ## Gained mounts -/

/-- The mounts of a container, which is given by the key of its pod and its place in it; a
container that is not there has none. -/
def Document.mountsAt (document : Document) (key : String) (index : Nat) : List VolumeMount :=
  (((document.pods.get? key).bind (·.containers[index]?)).map (·.mounts)).getD []

/-- The mounts that a container has gained: those behind the ones that it had. -/
def gained (earlier later : Document) (key : String) (index : Nat) : List VolumeMount :=
  (later.mountsAt key index).drop (earlier.mountsAt key index).length

/-- Whether a container of a machine has gained a mount for a volume. -/
def GainedFor (earlier later : Document) (volumeName machineName : String)
    (mount : VolumeMount) : Prop :=
  ∃ key index, mount ∈ gained earlier later key index ∧
    earlier.volumeAt? key index mount.mountPath = some volumeName ∧
    earlier.machineNameAt? key index = some machineName

theorem Document.mountsAt_eq {document : Document} {key : String} {pod : Pod}
    (found : document.pods.get? key = some pod) (index : Nat) :
    document.mountsAt key index = (pod.containers[index]?.map (·.mounts)).getD [] := by
  rw [mountsAt, found, Option.bind_some]

theorem Document.mountsAt_of_absent {document : Document} {key : String}
    (absent : document.pods.get? key = none) (index : Nat) :
    document.mountsAt key index = [] := by
  rw [mountsAt, absent, Option.bind_none, Option.map_none, Option.getD_none]

/-- The mounts of a container depend on the pods of a document alone. -/
theorem Document.mountsAt_congr {document other : Document} (same : other.pods = document.pods) :
    other.mountsAt = document.mountsAt := by
  funext key index
  rw [mountsAt, mountsAt, same]

theorem gained_of_append {earlier later : Document} {key : String} {index : Nat}
    {added : List VolumeMount}
    (behind : later.mountsAt key index = earlier.mountsAt key index ++ added) :
    gained earlier later key index = added := by
  rw [gained, behind, List.drop_left]

/-! ## Gained volumes -/

/-- The volumes of a pod, which is given by its key; a pod that is not there has none. -/
def Document.volumesAt (document : Document) (key : String) : List PodVolume :=
  (document.podVolumes? key).getD []

/-- The volumes that a pod has gained: those behind the ones that it had. -/
def gainedVolumes (earlier later : Document) (key : String) : List PodVolume :=
  (later.volumesAt key).drop (earlier.volumesAt key).length

theorem Document.volumesAt_eq {document : Document} {key : String} {pod : Pod}
    (found : document.pods.get? key = some pod) : document.volumesAt key = pod.volumes := by
  rw [volumesAt, podVolumes?, found, Option.map_some, Option.getD_some]

theorem Document.volumesAt_of_absent {document : Document} {key : String}
    (absent : document.pods.get? key = none) : document.volumesAt key = [] := by
  rw [volumesAt, podVolumes?, absent, Option.map_none, Option.getD_none]

/-- The volumes of a pod depend on the pods of a document alone. -/
theorem Document.volumesAt_congr {document other : Document}
    (same : other.pods = document.pods) : other.volumesAt = document.volumesAt := by
  funext key
  rw [volumesAt, volumesAt, podVolumes?, podVolumes?, same]

theorem gainedVolumes_of_append {earlier later : Document} {key : String}
    {added : List PodVolume}
    (behind : later.volumesAt key = earlier.volumesAt key ++ added) :
    gainedVolumes earlier later key = added := by
  rw [gainedVolumes, behind, List.drop_left]

section

variable {earlier other later : Document}

/-- What a container has gained over a document is told by the pods of the document. -/
theorem gained_congr (same : other.pods = earlier.pods) (later : Document) :
    gained other later = gained earlier later := by
  funext key index
  rw [gained, gained, Document.mountsAt_congr same]

theorem gainedVolumes_congr (same : other.pods = earlier.pods) (later : Document) :
    gainedVolumes other later = gainedVolumes earlier later := by
  funext key
  rw [gainedVolumes, gainedVolumes, Document.volumesAt_congr same]

/-- Where the pods are as they were, nothing has been gained. -/
theorem gained_of_pods_eq (same : later.pods = earlier.pods) (key : String) (index : Nat) :
    gained earlier later key index = [] := by
  rw [gained, Document.mountsAt_congr same, List.drop_length]

theorem gainedVolumes_of_pods_eq (same : later.pods = earlier.pods) (key : String) :
    gainedVolumes earlier later key = [] := by
  rw [gainedVolumes, Document.volumesAt_congr same, List.drop_length]

end

/-! ## One pod -/

/-- Bindings that can be attached to a pod: their containers are there, and each finds its
path unbound. -/
structure Pod.Admits (pod : Pod) (bindings : List Binding) : Prop where
  inside : ∀ binding ∈ bindings, binding.site.index < pod.containers.length
  free : ∀ binding ∈ bindings,
    pod.binds binding.site.index binding.site.declaration.path = false
  apart : bindings.Pairwise fun earlier later => earlier.site.index = later.site.index →
    earlier.site.declaration.path ≠ later.site.declaration.path

section

variable (workspaceId : String) (volumeOf : String → PodVolume)

namespace Pod

/-- Attaching the first of some bindings makes room for the others. -/
theorem Admits.attach {pod : Pod} {binding : Binding} {rest : List Binding}
    (admits : pod.Admits (binding :: rest)) :
    (binding.attach workspaceId volumeOf pod).Admits rest := by
  obtain ⟨inside, free, apart⟩ := admits
  have ⟨others, tail⟩ := List.pairwise_cons.1 apart
  refine ⟨fun other member => ?_, fun other member => ?_, tail⟩
  · rw [(binding.sameLayout_attach workspaceId volumeOf pod).length_eq]
    exact inside other (List.mem_cons_of_mem _ member)
  · have before := free other (List.mem_cons_of_mem _ member)
    have different := others other member
    rw [binds_attach workspaceId volumeOf (inside binding List.mem_cons_self), before,
      Bool.false_or, ← Bool.decide_and]
    exact decide_eq_false fun same => different same.1.symm same.2.symm

/-- The container of a binding that finds its path unbound gets the mount behind those it
has, and the other containers of the pod get nothing. -/
theorem getElem?_containers_attach {pod : Pod} {binding : Binding}
    (free : pod.binds binding.site.index binding.site.declaration.path = false) (index : Nat) :
    (binding.attach workspaceId volumeOf pod).containers[index]? =
      pod.containers[index]?.map fun container =>
        { container with mounts := container.mounts ++
            if binding.site.index = index then [binding.mount workspaceId] else [] } := by
  rw [Binding.attach, containers_addVolume, addMount, List.getElem?_modify]
  cases here : pod.containers[index]? with
  | none => rfl
  | some container =>
    by_cases same : binding.site.index = index
    · have unbound : container.hasMountPath (binding.mount workspaceId).mountPath = false := by
        rw [binds, same, here] at free
        exact free
      simp [same, Container.addMount, unbound]
    · simp [same]

/-- A container has its mounts and, behind them, those of the bindings that are attached
to it. -/
theorem getElem?_containers_attachAll {pod : Pod} {bindings : List Binding}
    (admits : pod.Admits bindings) (index : Nat) :
    (pod.attachAll workspaceId volumeOf bindings).containers[index]? =
      pod.containers[index]?.map fun container =>
        { container with mounts := container.mounts ++
            (bindings.filter (·.site.index = index)).map (·.mount workspaceId) } := by
  induction bindings generalizing pod with
  | nil => simp [attachAll]
  | cons binding rest ih =>
    have free := admits.free binding List.mem_cons_self
    rw [attachAll, List.foldl_cons, ← attachAll, ih (admits.attach workspaceId volumeOf),
      getElem?_containers_attach workspaceId volumeOf free, Option.map_map]
    refine congrArg (Option.map · _) (funext fun container => ?_)
    by_cases same : binding.site.index = index <;> simp [same]

/-- A pod has its volumes and, behind them, those for some of the bindings that are
attached to it. -/
theorem exists_volumes_attachAll (bindings : List Binding) (pod : Pod) :
    ∃ added, added.Sublist (bindings.map fun binding => volumeOf binding.name) ∧
      (pod.attachAll workspaceId volumeOf bindings).volumes = pod.volumes ++ added := by
  induction bindings generalizing pod with
  | nil => exact ⟨[], List.Sublist.refl [], (List.append_nil _).symm⟩
  | cons binding rest ih =>
    obtain ⟨added, within, volumes⟩ := ih (binding.attach workspaceId volumeOf pod)
    rw [attachAll, List.foldl_cons, ← attachAll, volumes, Binding.attach, volumes_addVolume,
      volumes_addMount, List.map_cons]
    split
    · exact ⟨added, within.cons _, rfl⟩
    · exact ⟨volumeOf binding.name :: added, within.cons_cons _,
        List.append_assoc pod.volumes [volumeOf binding.name] added⟩

end Pod

/-! ## The whole document -/

/-- No two open sites are for the same path of the same container. -/
theorem Document.pairwise_openings (document : Document) :
    document.openings.Pairwise fun earlier later => earlier.pod = later.pod →
      earlier.index = later.index → earlier.declaration.path ≠ later.declaration.path := by
  rw [openings, List.pairwise_flatMap]
  constructor
  · -- Within a pod the places and paths differ, and between pods the keys do.
    intro entry _
    have apart : (entry.2.openings document.machines entry.1).Pairwise fun earlier later =>
        earlier.index = later.index → earlier.declaration.path ≠ later.declaration.path :=
      WorkspaceVolumes.pairwise_openings _ _
    refine List.Pairwise.imp ?_ apart
    exact fun different _ => different
  · refine document.pods.increasing.imp
      fun {earlier later} before first isFirst second isSecond same => ?_
    rw [pod_of_mem_openings isFirst, pod_of_mem_openings isSecond] at same
    exact absurd before (same ▸ String.lt_irrefl _)

/-- The open sites of one pod. -/
theorem Document.filter_openings (document : Document) (key : String) :
    document.openings.filter (·.pod = key) =
      ((document.pods.get? key).map (·.openings document.machines key)).getD [] := by
  have one (entry : String × Pod) :
      (entry.2.openings document.machines entry.1).filter (·.pod = key) =
        if entry.1 = key then entry.2.openings document.machines entry.1 else [] := by
    split
    case isTrue same =>
      exact List.filter_eq_self.2 fun site isOpen =>
        decide_eq_true ((pod_of_mem_openings isOpen).trans same)
    case isFalse different =>
      refine List.filter_eq_nil_iff.2 fun site isOpen => ?_
      rw [pod_of_mem_openings isOpen]
      simpa using different
  rw [openings, List.filter_flatMap]
  simp only [one]
  rw [StringMap.flatMap_entries_of_key fun entry _ different => if_neg different]
  simp

namespace Plan

variable {choose : Chooser} {plan : Plan}

theorem site_mem_openings {binding : Binding} (member : binding ∈ plan.bindings choose) :
    binding.site ∈ plan.document.openings :=
  Chooser.site_mem_of_mem_allot member

/-- The sites that are bound in a pod are the open ones. -/
theorem map_site_bindingsIn (choose : Chooser) (plan : Plan) (key : String) :
    (bindingsIn key (plan.bindings choose)).map (·.site) =
      plan.document.openings.filter (·.pod = key) := by
  rw [← map_site_bindings choose, List.filter_map]
  rfl

/-- A pass binds no path of a container twice. -/
theorem pairwise_bindings (choose : Chooser) (plan : Plan) :
    (plan.bindings choose).Pairwise fun earlier later =>
      earlier.site.pod = later.site.pod → earlier.site.index = later.site.index →
        earlier.site.declaration.path ≠ later.site.declaration.path := by
  have sites := plan.document.pairwise_openings
  rw [← map_site_bindings choose, List.pairwise_map] at sites
  exact sites

/-- A pod admits what a pass binds in it. -/
theorem admits_bindings (choose : Chooser) {key : String} {pod : Pod}
    (found : plan.document.pods.get? key = some pod) :
    pod.Admits (bindingsIn key (plan.bindings choose)) where
  inside binding member := by
    obtain ⟨bound, rfl⟩ := mem_bindingsIn.1 member
    obtain ⟨_, same, _, first⟩ := Document.mem_openings_iff.1 (site_mem_openings bound)
    obtain rfl := Option.some.inj (found.symm.trans same)
    exact Pod.lt_length_of_declared_mem_stops (List.mem_of_find?_eq_some first)
  free binding member := by
    obtain ⟨bound, rfl⟩ := mem_bindingsIn.1 member
    obtain ⟨_, same, free, _⟩ := Document.mem_openings_iff.1 (site_mem_openings bound)
    obtain rfl := Option.some.inj (found.symm.trans same)
    exact free
  apart := by
    refine ((pairwise_bindings choose plan).filter _).imp_of_mem
      fun {earlier later} isEarlier isLater different => ?_
    exact different ((mem_bindingsIn.1 isEarlier).2.trans (mem_bindingsIn.1 isLater).2.symm)

theorem get?_pods_bound (choose : Chooser) (plan : Plan) (key : String) :
    (plan.bound workspaceId choose volumeOf).document.pods.get? key =
      (plan.document.pods.get? key).map
        (Pod.attachAll workspaceId volumeOf (bindingsIn key (plan.bindings choose))) :=
  StringMap.get?_mapWithKey _ _ key

/-- After a pass a container has its mounts and, behind them, those of the bindings at
it. -/
theorem mountsAt_bound (key : String) (index : Nat) :
    (plan.bound workspaceId choose volumeOf).document.mountsAt key index =
      plan.document.mountsAt key index ++
        ((bindingsIn key (plan.bindings choose)).filter (·.site.index = index)).map
          (·.mount workspaceId) := by
  have after := get?_pods_bound workspaceId volumeOf choose plan key
  cases found : plan.document.pods.get? key with
  | none =>
    have nobody : bindingsIn key (plan.bindings choose) = [] := by
      refine bindingsIn_eq_nil fun binding member same => ?_
      obtain ⟨_, there, _⟩ := Document.mem_openings_iff.1 (site_mem_openings member)
      rw [same, found] at there
      cases there
    rw [found, Option.map_none] at after
    rw [Document.mountsAt_of_absent after, Document.mountsAt_of_absent found, nobody]
    rfl
  | some pod =>
    rw [found, Option.map_some] at after
    have admits := admits_bindings choose found
    rw [Document.mountsAt_eq after, Document.mountsAt_eq found,
      Pod.getElem?_containers_attachAll workspaceId volumeOf admits]
    cases here : pod.containers[index]? with
    | some container => rfl
    | none =>
      have outside :
          (bindingsIn key (plan.bindings choose)).filter (·.site.index = index) = [] := by
        refine List.filter_eq_nil_iff.2 fun binding member => ?_
        have inside := admits.inside binding member
        have length := List.getElem?_eq_none_iff.1 here
        simp
        omega
      rw [outside]
      rfl

/-- **The mounts that a container gains in a pass are those of its bindings.** -/
theorem mem_gained_bound {key : String} {index : Nat} {mount : VolumeMount} :
    mount ∈ gained plan.document (plan.bound workspaceId choose volumeOf).document key index ↔
      ∃ binding ∈ plan.bindings choose, binding.site.pod = key ∧ binding.site.index = index ∧
        binding.mount workspaceId = mount := by
  rw [gained_of_append (mountsAt_bound workspaceId volumeOf key index), List.mem_map]
  constructor
  · rintro ⟨binding, member, rfl⟩
    obtain ⟨atKey, atIndex⟩ := List.mem_filter.1 member
    obtain ⟨isBinding, key⟩ := mem_bindingsIn.1 atKey
    exact ⟨binding, isBinding, key, of_decide_eq_true atIndex, rfl⟩
  · rintro ⟨binding, isBinding, key, index, rfl⟩
    exact ⟨binding, List.mem_filter.2
      ⟨mem_bindingsIn.2 ⟨isBinding, key⟩, decide_eq_true index⟩, rfl⟩

/-- After a pass a pod has its volumes and, behind them, those for some of its bindings. -/
theorem exists_volumesAt_bound (choose : Chooser) (plan : Plan) (key : String) :
    ∃ added,
      added.Sublist ((bindingsIn key (plan.bindings choose)).map fun binding =>
        volumeOf binding.name) ∧
      (plan.bound workspaceId choose volumeOf).document.volumesAt key =
        plan.document.volumesAt key ++ added := by
  have after := get?_pods_bound workspaceId volumeOf choose plan key
  cases found : plan.document.pods.get? key with
  | none =>
    rw [found, Option.map_none] at after
    rw [Document.volumesAt_of_absent after, Document.volumesAt_of_absent found]
    exact ⟨[], List.nil_sublist _, rfl⟩
  | some pod =>
    rw [found, Option.map_some] at after
    rw [Document.volumesAt_eq after, Document.volumesAt_eq found]
    exact Pod.exists_volumes_attachAll workspaceId volumeOf _ pod

/-- A volume that a pod gains in a pass is for one of its bindings. -/
theorem exists_of_mem_gainedVolumes_bound {key : String} {volume : PodVolume}
    (member : volume ∈
      gainedVolumes plan.document (plan.bound workspaceId choose volumeOf).document key) :
    ∃ binding ∈ plan.bindings choose, volumeOf binding.name = volume := by
  obtain ⟨added, within, behind⟩ := exists_volumesAt_bound workspaceId volumeOf choose plan key
  rw [gainedVolumes_of_append behind] at member
  obtain ⟨binding, isBinding, same⟩ := List.mem_map.1 (within.subset member)
  exact ⟨binding, (mem_bindingsIn.1 isBinding).1, same⟩

/-- A gained mount is for the volume that its path is for. -/
theorem volumeAt?_of_mem_bindings {binding : Binding}
    (member : binding ∈ plan.bindings choose) :
    plan.document.volumeAt? binding.site.pod binding.site.index
        (binding.mount workspaceId).mountPath =
      some binding.site.declaration.volumeName :=
  Document.volumeAt?_of_mem_openings (site_mem_openings member)

/-- A gained mount is for a volume and a machine, and has the sub-path that goes with
them. -/
theorem exists_subPath_of_mem_gained_bound {key : String} {index : Nat} {mount : VolumeMount}
    (gains :
      mount ∈ gained plan.document (plan.bound workspaceId choose volumeOf).document key index) :
    ∃ volumeName machineName,
      plan.document.volumeAt? key index mount.mountPath = some volumeName ∧
        plan.document.machineNameAt? key index = some machineName ∧
        mount.subPath = some (subPath workspaceId volumeName machineName) := by
  obtain ⟨binding, bound, rfl, rfl, rfl⟩ := (mem_gained_bound workspaceId volumeOf).1 gains
  exact ⟨_, _, volumeAt?_of_mem_bindings workspaceId bound,
    Document.machineNameAt?_of_mem_openings (site_mem_openings bound), rfl⟩

/-- Where a path is for a volume and unbound, the container gains a mount at the path. -/
theorem exists_gained_of_free {key : String} {pod : Pod} {index : Nat}
    {path volumeName : String}
    (found : plan.document.pods.get? key = some pod) (free : pod.binds index path = false)
    (declared : plan.document.volumeAt? key index path = some volumeName) :
    ∃ mount ∈ gained plan.document (plan.bound workspaceId choose volumeOf).document key index,
      mount.mountPath = path := by
  obtain ⟨site, isOpen, atKey, atIndex, samePath, -⟩ :=
    Document.exists_mem_openings found free declared
  obtain ⟨binding, bound, rfl⟩ := Chooser.exists_mem_allot choose plan.stock isOpen
  have gains := (mem_gained_bound workspaceId volumeOf).2 ⟨binding, bound, atKey, atIndex, rfl⟩
  exact ⟨binding.mount workspaceId, gains, samePath⟩

/-! ## Absorption -/

/-- **A pass leaves nothing open.** -/
theorem openings_bound : (plan.bound workspaceId choose volumeOf).document.openings = [] := by
  refine Document.openings_eq_nil_iff.2 fun key after found index declaration member => ?_
  rw [get?_pods_bound, Option.map_eq_some_iff] at found
  obtain ⟨pod, found, rfl⟩ := found
  have layout := pod.sameLayout_attachAll workspaceId volumeOf
    (bindingsIn key (plan.bindings choose))
  rw [bound, layout.stops_eq] at member
  have admits := admits_bindings choose found
  rw [Pod.binds_attachAll workspaceId volumeOf admits.inside]
  cases free : pod.binds index declaration.path with
  | true => exact .inl rfl
  | false =>
    -- The path is declared and unbound, so the pass has bound it, if not for this volume.
    obtain ⟨site, isOpen, atKey, atIndex, samePath⟩ :=
      Document.exists_mem_openings_of_declared found free member
    obtain ⟨binding, isBinding, rfl⟩ := Chooser.exists_mem_allot choose plan.stock isOpen
    exact .inr ⟨binding, mem_bindingsIn.2 ⟨isBinding, atKey⟩, atIndex, samePath⟩

/-- Where nothing is open, a pass changes nothing and takes no random number. -/
theorem bound_of_closed (closed : plan.document.openings = []) :
    plan.bound workspaceId choose volumeOf = plan := by
  have nothing : plan.bindings choose = [] := by rw [bindings, closed]; rfl
  have everything : plan.left choose = plan.stock := by rw [left, closed]; rfl
  have pods : (plan.document.pods.mapWithKey fun key =>
      Pod.attachAll workspaceId volumeOf (bindingsIn key (plan.bindings choose))) =
        plan.document.pods :=
    StringMap.mapWithKey_eq_self fun key pod _ => by rw [nothing]; rfl
  rw [bound, pods, everything]
  rfl

end Plan

end

end WorkspaceVolumes
