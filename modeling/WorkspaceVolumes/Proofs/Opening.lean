import WorkspaceVolumes.Proofs.Walk
import WorkspaceVolumes.Proofs.StringMap

/-!
# Which declared volumes a pass binds

A pass leaves a declared volume alone if the container binds its path already, and what
the pass binds itself counts for the volumes behind it.  So of several volumes that a
machine declares at one path, the first in name order is bound, and none of them if the
path was bound before.  Which volumes those are does not depend on what they are bound to.

**Two descriptions.**  `openings` runs along the stops of a walk and remembers the paths
that are taken.  `mem_openings_iff` says what it finds without running: the unbound paths,
each with the first stop that declares it.

## Main definitions

* `Site`: a declared volume of a container of a document.
* `openings`, `Document.openings`: the sites that a pass binds, in the order of the walk.
* `Document.volumeAt?`, `Document.machineNameAt?`: the volume that a path of a container is
  for, and the machine of the container.

## Main statements

* `Document.mem_openings_iff`: a site is open if its path is unbound and it is the first
  to declare it.
* `Document.openings_eq_nil_iff`: nothing is open if every declared path is bound.
-/

namespace WorkspaceVolumes

/-- A declared volume of a container of a document: the key of the pod, the place of the
container in it, and the declaration. -/
structure Site where
  pod : String
  index : Nat
  declaration : Declaration
  deriving DecidableEq

/-- Whether a volume is declared at a stop for a path of a container. -/
def Stop.isFor (index : Nat) (path : String) : Stop → Bool
  | .declared place declaration => place = index && declaration.path = path
  | .unmatched _ => false

/-- The sites among some stops of a pod that a pass binds, where `bound` tells which paths
are taken. -/
def openings (pod : String) (bound : Nat → String → Bool) : List Stop → List Site
  | [] => []
  | .unmatched _ :: rest => openings pod bound rest
  | .declared index declaration :: rest =>
    if bound index declaration.path then openings pod bound rest
    else
      ⟨pod, index, declaration⟩ ::
        openings pod
          (fun place path => bound place path ||
            (place = index && path = declaration.path)) rest

/-! ### The open sites of a pod -/

section

variable {pod : String}

theorem openings_declared_of_bound {bound : Nat → String → Bool} {index : Nat}
    {declaration : Declaration} (rest : List Stop)
    (taken : bound index declaration.path = true) :
    openings pod bound (.declared index declaration :: rest) = openings pod bound rest := by
  rw [openings, if_pos taken]

theorem openings_declared_of_unbound {bound : Nat → String → Bool} {index : Nat}
    {declaration : Declaration} (rest : List Stop)
    (free : bound index declaration.path = false) :
    openings pod bound (.declared index declaration :: rest) =
      ⟨pod, index, declaration⟩ ::
        openings pod
          (fun place path => bound place path || (place = index && path = declaration.path))
          rest := by
  rw [openings, if_neg (by simp [free])]

/-- A site is open if its path is not taken and no earlier stop declares the path for its
container. -/
theorem mem_openings_iff {bound : Nat → String → Bool} {stops : List Stop} {site : Site} :
    site ∈ openings pod bound stops ↔
      site.pod = pod ∧ bound site.index site.declaration.path = false ∧
        stops.find? (·.isFor site.index site.declaration.path) =
          some (.declared site.index site.declaration) := by
  induction stops generalizing bound with
  | nil => simp [openings]
  | cons stop rest ih =>
    cases stop with
    | unmatched machineName => rw [openings, ih, List.find?_cons_of_neg (by simp [Stop.isFor])]
    | declared index declaration =>
      cases taken : bound index declaration.path with
      | true =>
        rw [openings_declared_of_bound rest taken, ih]
        -- If this stop is the first for the path of the site, the path is taken.
        by_cases here : index = site.index ∧ declaration.path = site.declaration.path
        · have bind : bound site.index site.declaration.path = true := by
            rw [← here.1, ← here.2, taken]
          simp [bind]
        · rw [List.find?_cons_of_neg (by simpa [Stop.isFor] using here)]
      | false =>
        rw [openings_declared_of_unbound rest taken, List.mem_cons, ih]
        -- This stop is open, and it shadows every later one for its path.
        by_cases here : index = site.index ∧ declaration.path = site.declaration.path
        · rw [List.find?_cons_of_pos (by simpa [Stop.isFor] using here)]
          constructor
          · rintro (rfl | ⟨-, free, -⟩)
            · exact ⟨rfl, taken, rfl⟩
            · rw [here.1, here.2] at free
              simp at free
          · rintro ⟨rfl, -, equal⟩
            obtain ⟨rfl, rfl⟩ : index = site.index ∧ declaration = site.declaration := by
              simpa using equal
            exact .inl rfl
        · rw [List.find?_cons_of_neg (by simpa [Stop.isFor] using here)]
          have other : site ≠ ⟨pod, index, declaration⟩ := fun equal => here (by simp [equal])
          have away : (decide (site.index = index) &&
              decide (site.declaration.path = declaration.path)) = false := by
            rw [← Bool.decide_and]
            exact decide_eq_false fun same => here ⟨same.1.symm, same.2.symm⟩
          simp only [other, away, Bool.or_false, false_or]

/-- No two open sites are for the same path of the same container. -/
theorem pairwise_openings (bound : Nat → String → Bool) (stops : List Stop) :
    (openings pod bound stops).Pairwise fun earlier later =>
      earlier.index = later.index → earlier.declaration.path ≠ later.declaration.path := by
  induction stops generalizing bound with
  | nil => exact .nil
  | cons stop rest ih =>
    cases stop with
    | unmatched machineName => exact ih bound
    | declared index declaration =>
      cases taken : bound index declaration.path with
      | true =>
        rw [openings_declared_of_bound rest taken]
        exact ih bound
      | false =>
        rw [openings_declared_of_unbound rest taken]
        refine List.pairwise_cons.2 ⟨fun later member sameIndex samePath => ?_, ih _⟩
        have free := (mem_openings_iff.1 member).2.1
        simp [← sameIndex, ← samePath] at free

end

namespace Pod

/-- The sites of a pod that a pass binds; the pod is given with its key. -/
def openings (machines : StringMap Machine) (key : String) (pod : Pod) : List Site :=
  WorkspaceVolumes.openings key pod.binds (pod.stops machines)

/-- The stops for a path of a container are among those of the container. -/
theorem find?_flatMap_stopsAt (machines : StringMap Machine) (pod : Pod) (index : Nat)
    (path : String) (places : List Nat) :
    (places.flatMap (pod.stopsAt machines)).find? (·.isFor index path) =
      if index ∈ places then (pod.stopsAt machines index).find? (·.isFor index path)
      else none := by
  have elsewhere (place : Nat) (other : place ≠ index) :
      (pod.stopsAt machines place).find? (·.isFor index path) = none := by
    refine List.find?_eq_none.2 fun stop member => ?_
    cases stop with
    | unmatched machineName => simp [Stop.isFor]
    | declared found declaration =>
      obtain ⟨rfl, -⟩ := declared_mem_stopsAt_iff.1 member
      simp [Stop.isFor, other]
  induction places with
  | nil => rfl
  | cons place rest ih =>
    rw [List.flatMap_cons, List.find?_append, ih]
    by_cases here : place = index
    · subst here
      rw [if_pos List.mem_cons_self]
      split
      · exact Option.or_self
      · exact Option.or_none
    · simp [elsewhere place here, Ne.symm here]

/-- The stop for a path of a container is the first volume that the machine of the
container declares there. -/
theorem find?_stops (machines : StringMap Machine) (pod : Pod) (index : Nat) (path : String) :
    (pod.stops machines).find? (·.isFor index path) =
      (pod.containers[index]?).bind fun container =>
        (machines.get? (pod.machineName container.name)).bind fun machine =>
          (machine.paths.entries.find? (·.2 = path)).map fun entry =>
            .declared index ⟨pod.machineName container.name, entry.1, entry.2⟩ := by
  rw [stops, find?_flatMap_stopsAt]
  by_cases inside : index < pod.containers.length
  · rw [if_pos (List.mem_range.2 inside), stopsAt, List.getElem?_eq_getElem inside]
    simp only [Option.bind_some]
    cases machines.get? (pod.machineName pod.containers[index].name) with
    | none => rfl
    | some machine =>
      simp only [Option.bind_some, List.find?_map]
      congr 1
      refine congrArg (List.find? · _) (funext fun entry => ?_)
      simp [Stop.isFor]
  · rw [if_neg (by simpa using inside), List.getElem?_eq_none (by omega), Option.bind_none]

end Pod

/-! ### The open sites of a document -/

namespace Document

/-- The sites of a document that a pass binds, in the order of the walk. -/
def openings (document : Document) : List Site :=
  document.pods.entries.flatMap fun entry => entry.2.openings document.machines entry.1

/-- The volume that a path of a container is for: of the volumes that the machine of the
container declares there, the first in name order. -/
def volumeAt? (document : Document) (key : String) (index : Nat) (path : String) :
    Option String := do
  let pod ← document.pods.get? key
  let container ← pod.containers[index]?
  let machine ← document.machines.get? (pod.machineName container.name)
  let entry ← machine.paths.entries.find? (·.2 = path)
  return entry.1

/-- A site is open if the container does not bind its path and no earlier stop declares
the path. -/
theorem mem_openings_iff {document : Document} {site : Site} :
    site ∈ document.openings ↔
      ∃ pod, document.pods.get? site.pod = some pod ∧
        pod.binds site.index site.declaration.path = false ∧
        (pod.stops document.machines).find? (·.isFor site.index site.declaration.path) =
          some (.declared site.index site.declaration) := by
  rw [openings, List.mem_flatMap]
  constructor
  · rintro ⟨⟨key, pod⟩, member, isOpen⟩
    obtain ⟨rfl, free, first⟩ := WorkspaceVolumes.mem_openings_iff.1 isOpen
    exact ⟨pod, StringMap.get?_eq_some_iff.2 member, free, first⟩
  · rintro ⟨pod, found, free, first⟩
    exact ⟨(site.pod, pod), StringMap.get?_eq_some_iff.1 found,
      WorkspaceVolumes.mem_openings_iff.2 ⟨rfl, free, first⟩⟩

theorem volumeAt?_eq {document : Document} {key : String} {pod : Pod}
    (found : document.pods.get? key = some pod) (index : Nat) (path : String) :
    document.volumeAt? key index path =
      ((pod.stops document.machines).find? (·.isFor index path)).bind fun
        | .declared _ declaration => some declaration.volumeName
        | .unmatched _ => none := by
  rw [volumeAt?, found, Pod.find?_stops]
  cases here : pod.containers[index]? with
  | none => simp [here]
  | some container =>
    cases there : document.machines.get? (pod.machineName container.name) with
    | none => simp [here, there]
    | some machine =>
      cases first : machine.paths.entries.find? (·.2 = path) <;> simp [here, there, first]

/-- An open site is for the volume that its path is for. -/
theorem volumeAt?_of_mem_openings {document : Document} {site : Site}
    (isOpen : site ∈ document.openings) :
    document.volumeAt? site.pod site.index site.declaration.path =
      some site.declaration.volumeName := by
  obtain ⟨pod, found, -, first⟩ := mem_openings_iff.1 isOpen
  rw [volumeAt?_eq found, first, Option.bind_some]

/-- The name of the machine of a container. -/
def machineNameAt? (document : Document) (key : String) (index : Nat) : Option String := do
  let pod ← document.pods.get? key
  let container ← pod.containers[index]?
  return pod.machineName container.name

/-- An open site is declared by the machine of its container. -/
theorem machineNameAt?_of_mem_openings {document : Document} {site : Site}
    (isOpen : site ∈ document.openings) :
    document.machineNameAt? site.pod site.index = some site.declaration.machineName := by
  obtain ⟨pod, found, -, first⟩ := mem_openings_iff.1 isOpen
  obtain ⟨container, machine, here, named, -⟩ :=
    Pod.declared_mem_stops_iff.1 (List.mem_of_find?_eq_some first)
  simp [machineNameAt?, found, here, named]

/-- A path that is unbound and for a volume is that of an open site. -/
theorem exists_mem_openings {document : Document} {key : String} {pod : Pod} {index : Nat}
    {path volumeName : String} (found : document.pods.get? key = some pod)
    (free : pod.binds index path = false)
    (declared : document.volumeAt? key index path = some volumeName) :
    ∃ site ∈ document.openings, site.pod = key ∧ site.index = index ∧
      site.declaration.path = path ∧ site.declaration.volumeName = volumeName := by
  rw [volumeAt?_eq found] at declared
  cases first : (pod.stops document.machines).find? (·.isFor index path) with
  | none =>
    rw [first] at declared
    cases declared
  | some stop =>
    have isFor := List.find?_some first
    rw [first] at declared
    cases stop with
    | unmatched machineName => cases declared
    | declared place declaration =>
      obtain ⟨rfl, rfl⟩ : place = index ∧ declaration.path = path := by
        simpa [Stop.isFor] using isFor
      exact ⟨⟨key, place, declaration⟩, mem_openings_iff.2 ⟨pod, found, free, first⟩, rfl,
        rfl, rfl, Option.some.inj declared⟩

/-- A path that is unbound and declared is that of an open site, perhaps for another
volume. -/
theorem exists_mem_openings_of_declared {document : Document} {key : String} {pod : Pod}
    {index : Nat} {declaration : Declaration} (found : document.pods.get? key = some pod)
    (free : pod.binds index declaration.path = false)
    (member : .declared index declaration ∈ pod.stops document.machines) :
    ∃ site ∈ document.openings, site.pod = key ∧ site.index = index ∧
      site.declaration.path = declaration.path := by
  have isFor : Stop.isFor index declaration.path (.declared index declaration) = true := by
    simp [Stop.isFor]
  obtain ⟨stop, first⟩ := Option.isSome_iff_exists.1 (List.find?_isSome.2 ⟨_, member, isFor⟩)
  have same := List.find?_some first
  cases stop with
  | unmatched machineName => simp [Stop.isFor] at same
  | declared place declared =>
    obtain ⟨rfl, samePath⟩ : place = index ∧ declared.path = declaration.path := by
      simpa [Stop.isFor] using same
    rw [← samePath] at first free
    exact ⟨⟨key, place, declared⟩, mem_openings_iff.2 ⟨pod, found, free, first⟩, rfl, rfl,
      samePath⟩

/-- Nothing is open if, and only if, every declared path is bound. -/
theorem openings_eq_nil_iff {document : Document} :
    document.openings = [] ↔
      ∀ key pod, document.pods.get? key = some pod → ∀ index declaration,
        .declared index declaration ∈ pod.stops document.machines →
          pod.binds index declaration.path = true := by
  rw [List.eq_nil_iff_forall_not_mem]
  constructor
  · intro closed key pod found index declaration member
    by_contra unbound
    rw [Bool.not_eq_true] at unbound
    obtain ⟨site, isOpen, -⟩ := exists_mem_openings_of_declared found unbound member
    exact closed site isOpen
  · intro bound site isOpen
    obtain ⟨pod, found, free, first⟩ := mem_openings_iff.1 isOpen
    rw [bound _ pod found _ _ (List.mem_of_find?_eq_some first)] at free
    cases free

/-- A pod with one container, whose machine declares one volume. -/
def single : Document :=
  (empty.addPod (Pod.named "web" ["app"])).addMachine "web/app"
    (Machine.withVolume {} "data" "/data")

example : single.openings = [⟨"web", 0, ⟨"web/app", "data", "/data"⟩⟩] := by decide

/-- Two pods with one container each, whose machines declare the same two volumes. -/
def pair : Document :=
  let machine := (Machine.withVolume {} "data" "/data").withVolume "logs" "/logs"
  (((empty.addPod (Pod.named "web" ["app"])).addPod (Pod.named "db" ["app"])).addMachine
    "web/app" machine).addMachine "db/app" machine

end Document

end WorkspaceVolumes
