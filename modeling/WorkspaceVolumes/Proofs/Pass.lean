import WorkspaceVolumes.Proofs.Action
import WorkspaceVolumes.Proofs.Opening
import WorkspaceVolumes.Strategy.Binding

/-!
# A pass as a plan

Both ways of providing storage run through the pods and change them on the way.  This
module takes such a pass apart: which sites are bound is known before it starts
(`Document.openings`), what they are bound to is chosen site by site (`Chooser.allot`),
and then the bindings are attached to the pods.

**Reports.**  A chooser may report, but what it chooses does not depend on what has been
reported.  So the choice is made on the `Stock`, which is all that a pass may use up,
without the reports.

**Why the order does not matter.**  The walk alternates between looking for unbound paths,
choosing, and attaching.  Attaching a binding takes exactly the path of its site, and it
leaves the layout of the pod, so the next unbound path is found where `openings` says.

## Main definitions

* `Stock`, `Chooser.pick`, `Chooser.allot`: choosing without reports, for one site and for
  many.
* `Binding`, `Binding.mount`, `Pod.attachAll`: what a site is bound to, and what that does
  to its pod.
* `Plan.bound`: the plan after a pass.

## Main statements

* `Chooser.allot_induction`: what one choice preserves, all choices preserve.
* `bindAll_actsAs`: a pass is `Plan.bound`, and it never fails.
-/

namespace WorkspaceVolumes

open StringMap (Visit)

/-! ## Choosing -/

/-- What a pass may use up besides the pods, apart from what it reports. -/
structure Stock where
  claims : StringMap Claim
  draws : DrawStream

/-- Supplies without the reports. -/
def Supplies.stock (supplies : Supplies) : Stock := ⟨supplies.claims, supplies.draws⟩

/-- What a plan offers to a pass. -/
def Plan.stock (plan : Plan) : Stock := ⟨plan.document.claims, plan.draws⟩

/-- A site with the name of the object that it is bound to. -/
structure Binding where
  site : Site
  name : String
  deriving DecidableEq

namespace Chooser

/-- The choice for a volume, without reports. -/
def pick (choose : Chooser) (volumeName : String) (stock : Stock) : String × Stock :=
  let (name, supplies) := choose volumeName ⟨stock.claims, stock.draws, []⟩
  (name, supplies.stock)

/-- Whether a choice is the same whatever has been reported before. -/
def IgnoresReports (choose : Chooser) : Prop :=
  ∀ volumeName supplies,
    ((choose volumeName supplies).1, (choose volumeName supplies).2.stock) =
      choose.pick volumeName supplies.stock

/-- The choices for some sites, first to last. -/
def allot (choose : Chooser) : List Site → Stock → List Binding × Stock
  | [], stock => ([], stock)
  | site :: rest, stock =>
    let picked := choose.pick site.declaration.volumeName stock
    let later := allot choose rest picked.2
    (⟨site, picked.1⟩ :: later.1, later.2)

@[simp] theorem allot_nil (choose : Chooser) (stock : Stock) :
    choose.allot [] stock = ([], stock) := rfl

theorem allot_append (choose : Chooser) (front back : List Site) (stock : Stock) :
    choose.allot (front ++ back) stock =
      ((choose.allot front stock).1 ++ (choose.allot back (choose.allot front stock).2).1,
        (choose.allot back (choose.allot front stock).2).2) := by
  induction front generalizing stock with
  | nil => rfl
  | cons site rest ih => rw [List.cons_append, allot, ih]; rfl

/-- Every site gets one binding, in order. -/
theorem map_site_allot (choose : Chooser) (sites : List Site) (stock : Stock) :
    (choose.allot sites stock).1.map (·.site) = sites := by
  induction sites generalizing stock with
  | nil => rfl
  | cons site rest ih => rw [allot, List.map_cons, ih]

theorem site_mem_of_mem_allot {choose : Chooser} {sites : List Site} {stock : Stock}
    {binding : Binding}
    (member : binding ∈ (choose.allot sites stock).1) : binding.site ∈ sites := by
  rw [← map_site_allot choose sites stock]
  exact List.mem_map_of_mem member

theorem exists_mem_allot (choose : Chooser) {sites : List Site} (stock : Stock) {site : Site}
    (member : site ∈ sites) :
    ∃ binding ∈ (choose.allot sites stock).1, binding.site = site := by
  rw [← map_site_allot choose sites stock] at member
  exact List.mem_map.1 member

/-- **What one choice preserves, all choices preserve.**  The invariant speaks of the
bindings made so far and of the stock that is left. -/
theorem allot_induction {choose : Chooser} {motive : List Binding → Stock → Prop}
    {sites : List Site} {stock : Stock} (start : motive [] stock)
    (step : ∀ done left, ∀ site ∈ sites, motive done left →
      motive (done ++ [⟨site, (choose.pick site.declaration.volumeName left).1⟩])
        (choose.pick site.declaration.volumeName left).2) :
    motive (choose.allot sites stock).1 (choose.allot sites stock).2 := by
  -- The induction is on the sites to come, behind any bindings that have been made.
  suffices general : ∀ (rest : List Site) (done : List Binding) (left : Stock),
      (∀ site ∈ rest, site ∈ sites) → motive done left →
        motive (done ++ (choose.allot rest left).1) (choose.allot rest left).2 by
    simpa using general sites [] stock (fun _ member => member) start
  intro rest
  induction rest with
  | nil =>
    intro done left _ holds
    rwa [allot_nil, List.append_nil]
  | cons site rest ih =>
    intro done left among holds
    have next := ih _ _ (fun other member => among other (List.mem_cons_of_mem _ member))
      (step done left site (among site List.mem_cons_self) holds)
    rwa [List.append_assoc] at next

end Chooser

/-! ## Attaching -/

/-- The mount that a binding stands for. -/
def Binding.mount (workspaceId : String) (binding : Binding) : VolumeMount where
  name := binding.name
  mountPath := binding.site.declaration.path
  subPath :=
    some (subPath workspaceId binding.site.declaration.volumeName
      binding.site.declaration.machineName)

/-- A pod with the mount of a binding and a volume for it. -/
def Binding.attach (workspaceId : String) (volumeOf : String → PodVolume) (binding : Binding)
    (pod : Pod) : Pod :=
  (pod.addMount binding.site.index (binding.mount workspaceId)).addVolume
    (volumeOf binding.name)

/-- A pod with some bindings attached, first to last. -/
def Pod.attachAll (workspaceId : String) (volumeOf : String → PodVolume)
    (bindings : List Binding) (pod : Pod) : Pod :=
  bindings.foldl (fun pod binding => binding.attach workspaceId volumeOf pod) pod

section

variable (workspaceId : String) (volumeOf : String → PodVolume)

theorem Binding.sameLayout_attach (binding : Binding) (pod : Pod) :
    pod.SameLayout (binding.attach workspaceId volumeOf pod) :=
  (pod.sameLayout_addMount _ _).trans (Pod.sameLayout_addVolume _ _)

namespace Pod

theorem sameLayout_attachAll (bindings : List Binding) (pod : Pod) :
    pod.SameLayout (pod.attachAll workspaceId volumeOf bindings) := by
  induction bindings generalizing pod with
  | nil => exact .refl pod
  | cons binding rest ih =>
    exact (binding.sameLayout_attach workspaceId volumeOf pod).trans (ih _)

/-- A path is bound after a mount was added if it was bound before, or if it is the path
of the mount in the container that got it. -/
theorem binds_addMount {pod : Pod} {index : Nat} (inside : index < pod.containers.length)
    (mount : VolumeMount) (place : Nat) (path : String) :
    (pod.addMount index mount).binds place path =
      (pod.binds place path || (place = index && path = mount.mountPath)) := by
  rw [binds, binds, addMount, List.getElem?_modify]
  by_cases here : index = place
  · subst here
    simp [List.getElem?_eq_getElem inside, Container.hasMountPath_addMount, eq_comm]
  · cases pod.containers[place]? <;> simp [here, Ne.symm here]

theorem binds_attach {pod : Pod} {binding : Binding}
    (inside : binding.site.index < pod.containers.length) (place : Nat) (path : String) :
    (binding.attach workspaceId volumeOf pod).binds place path =
      (pod.binds place path ||
        (place = binding.site.index && path = binding.site.declaration.path)) := by
  have volumes : (binding.attach workspaceId volumeOf pod).binds place path =
      (pod.addMount binding.site.index (binding.mount workspaceId)).binds place path := by
    rw [Binding.attach, binds, containers_addVolume, ← binds]
  rw [volumes, binds_addMount inside]
  rfl

/-- A path is bound after bindings were attached if it was bound before, or if it is that
of one of them. -/
theorem binds_attachAll {pod : Pod} {bindings : List Binding}
    (inside : ∀ binding ∈ bindings, binding.site.index < pod.containers.length) (place : Nat)
    (path : String) :
    (pod.attachAll workspaceId volumeOf bindings).binds place path = true ↔
      pod.binds place path = true ∨
        ∃ binding ∈ bindings, binding.site.index = place ∧
          binding.site.declaration.path = path := by
  induction bindings generalizing pod with
  | nil => simp [attachAll]
  | cons binding rest ih =>
    have length := (binding.sameLayout_attach workspaceId volumeOf pod).length_eq
    have behind : ∀ other ∈ rest,
        other.site.index < (binding.attach workspaceId volumeOf pod).containers.length := by
      intro other member
      rw [length]
      exact inside other (List.mem_cons_of_mem _ member)
    have here : (binding.attach workspaceId volumeOf pod).binds place path = true ↔
        pod.binds place path = true ∨
          (binding.site.index = place ∧ binding.site.declaration.path = path) := by
      rw [binds_attach workspaceId volumeOf (inside _ List.mem_cons_self), Bool.or_eq_true,
        Bool.and_eq_true, decide_eq_true_iff, decide_eq_true_iff, eq_comm (a := place),
        eq_comm (a := path)]
    rw [attachAll, List.foldl_cons, ← attachAll, ih behind, here, or_assoc,
      List.exists_mem_cons_iff]

end Pod

/-! ## One pod -/

variable {choose : Chooser}

theorem keepsLayout_bindVolume (choose : Chooser) :
    KeepsLayout (bindVolume workspaceId choose volumeOf) := by
  intro index declaration pod supplies
  rw [bindVolume]
  split
  · exact .refl pod
  · exact (pod.sameLayout_addMount _ _).trans (Pod.sameLayout_addVolume _ _)

/-- What is reported at a container without a machine. -/
def noteUnmatched (machineName : String) (supplies : Supplies) : Supplies :=
  supplies.note (unmatchedNotice machineName)

/-- Along the stops of a pod, the open sites are bound to what is allotted to them, and
nothing else happens but reports. -/
theorem visitStops_bindVolume (blind : choose.IgnoresReports) (key : String) (stops : List Stop)
    (pod : Pod) (supplies : Supplies)
    (inside : ∀ index declaration, .declared index declaration ∈ stops →
      index < pod.containers.length) :
    (visitStops (bindVolume workspaceId choose volumeOf) noteUnmatched stops pod
          supplies).value =
        pod.attachAll workspaceId volumeOf
          (choose.allot (openings key pod.binds stops) supplies.stock).1 ∧
      (visitStops (bindVolume workspaceId choose volumeOf) noteUnmatched stops pod
          supplies).state.stock =
        (choose.allot (openings key pod.binds stops) supplies.stock).2 := by
  induction stops generalizing pod supplies with
  | nil => exact ⟨rfl, rfl⟩
  | cons stop rest ih =>
    rw [visitStops, StringMap.Visit.andThen_of_total]
    have behind : ∀ index declaration, .declared index declaration ∈ rest →
        index < pod.containers.length :=
      fun index declaration member => inside index declaration (List.mem_cons_of_mem _ member)
    cases stop with
    | unmatched machineName => exact ih pod (noteUnmatched machineName supplies) behind
    | declared index declaration =>
      rw [visitStop, bindVolume]
      cases taken : pod.binds index declaration.path with
      | true =>
        rw [if_pos rfl, openings_declared_of_bound rest taken]
        exact ih pod _ behind
      | false =>
        rw [if_neg Bool.false_ne_true, openings_declared_of_unbound rest taken, Chooser.allot]
        have chosen := blind declaration.volumeName supplies
        generalize choose declaration.volumeName supplies = choice at chosen
        obtain ⟨name, left⟩ := choice
        simp only [← chosen]
        -- The pod is now the old one with a binding attached; the induction goes on there.
        let binding : Binding := ⟨⟨key, index, declaration⟩, name⟩
        have here : index < pod.containers.length := inside index declaration List.mem_cons_self
        have layout := binding.sameLayout_attach workspaceId volumeOf pod
        have next := ih (binding.attach workspaceId volumeOf pod) left
          fun place declared member => layout.length_eq ▸ behind place declared member
        have binds : (binding.attach workspaceId volumeOf pod).binds = fun place path =>
            pod.binds place path || (place = index && path = declaration.path) :=
          funext fun place => funext fun path =>
            Pod.binds_attach workspaceId volumeOf
              (show binding.site.index < _ from here) place path
        rw [binds] at next
        exact next

/-! ## All pods -/

/-- The bindings for one pod of a document. -/
def bindingsIn (key : String) (bindings : List Binding) : List Binding :=
  bindings.filter (·.site.pod = key)

theorem mem_bindingsIn {key : String} {bindings : List Binding} {binding : Binding} :
    binding ∈ bindingsIn key bindings ↔ binding ∈ bindings ∧ binding.site.pod = key := by
  rw [bindingsIn, List.mem_filter, decide_eq_true_iff]

theorem bindingsIn_append (key : String) (front back : List Binding) :
    bindingsIn key (front ++ back) = bindingsIn key front ++ bindingsIn key back :=
  List.filter_append ..

theorem bindingsIn_eq_self {key : String} {bindings : List Binding}
    (here : ∀ binding ∈ bindings, binding.site.pod = key) :
    bindingsIn key bindings = bindings :=
  List.filter_eq_self.2 fun binding member => decide_eq_true (here binding member)

theorem bindingsIn_eq_nil {key : String} {bindings : List Binding}
    (elsewhere : ∀ binding ∈ bindings, binding.site.pod ≠ key) : bindingsIn key bindings = [] :=
  List.filter_eq_nil_iff.2 fun binding member => by simpa using elsewhere binding member

theorem pod_of_mem_openings {machines : StringMap Machine} {key : String} {pod : Pod}
    {site : Site} (isOpen : site ∈ pod.openings machines key) : site.pod = key :=
  (mem_openings_iff.1 isOpen).1

/-- Swept over some pods in key order, a pass gives every pod the bindings for its own
sites: what the others get does not concern it. -/
theorem sweepEntries_bindVolume (blind : choose.IgnoresReports) (machines : StringMap Machine)
    (entries : List (String × Pod)) (increasing : entries.Pairwise fun a b => a.1 < b.1)
    (supplies : Supplies) :
    let sites := entries.flatMap fun entry => entry.2.openings machines entry.1
    let swept := StringMap.sweepEntries
      (Pod.walk (bindVolume workspaceId choose volumeOf) noteUnmatched machines)
      entries supplies
    swept.value = entries.map (fun entry => (entry.1, entry.2.attachAll workspaceId volumeOf
        (bindingsIn entry.1 (choose.allot sites supplies.stock).1))) ∧
      swept.state.stock = (choose.allot sites supplies.stock).2 := by
  induction entries generalizing supplies with
  | nil => exact ⟨rfl, rfl⟩
  | cons entry rest ih =>
    obtain ⟨key, pod⟩ := entry
    have ⟨above, tail⟩ := List.pairwise_cons.1 increasing
    simp only [StringMap.sweepEntries_cons_of_total, List.flatMap_cons, Chooser.allot_append,
      Pod.walk_eq_visitStops noteUnmatched (keepsLayout_bindVolume workspaceId volumeOf choose)]
    have ⟨firstPod, firstStock⟩ := visitStops_bindVolume workspaceId volumeOf blind key
      (pod.stops machines) pod supplies
      fun _ _ member => Pod.lt_length_of_declared_mem_stops member
    rw [← Pod.openings] at firstPod firstStock
    have ⟨laterPods, laterStock⟩ := ih tail
      (visitStops (bindVolume workspaceId choose volumeOf) noteUnmatched
        (pod.stops machines) pod supplies).state
    rw [firstStock] at laterPods laterStock
    refine ⟨?_, laterStock⟩
    -- The keys tell the bindings of this pod from those of the pods behind it.
    have front (binding : Binding)
        (member : binding ∈ (choose.allot (pod.openings machines key) supplies.stock).1) :
        binding.site.pod = key :=
      pod_of_mem_openings (Chooser.site_mem_of_mem_allot member)
    have back (stock : Stock) (binding : Binding)
        (member : binding ∈ (choose.allot
          (rest.flatMap fun entry => entry.2.openings machines entry.1) stock).1) :
        binding.site.pod ≠ key := by
      obtain ⟨other, inRest, isOpen⟩ :=
        List.mem_flatMap.1 (Chooser.site_mem_of_mem_allot member)
      rw [pod_of_mem_openings isOpen]
      exact fun same => String.lt_irrefl _ (same ▸ above other inRest)
    rw [List.map_cons, firstPod, laterPods]
    congr 1
    · rw [bindingsIn_append, bindingsIn_eq_self front, bindingsIn_eq_nil (back _),
        List.append_nil]
    · refine List.map_congr_left fun other inRest => ?_
      have apart : bindingsIn other.1
          (choose.allot (pod.openings machines key) supplies.stock).1 = [] :=
        bindingsIn_eq_nil fun binding member same => by
          rw [front binding member] at same
          exact String.lt_irrefl _ (same ▸ above other inRest)
      rw [bindingsIn_append, apart, List.nil_append]

/-- What a pass binds, site by site. -/
def Plan.bindings (choose : Chooser) (plan : Plan) : List Binding :=
  (choose.allot plan.document.openings plan.stock).1

/-- A pass binds the open sites, in order. -/
theorem Plan.map_site_bindings (choose : Chooser) (plan : Plan) :
    (plan.bindings choose).map (·.site) = plan.document.openings :=
  Chooser.map_site_allot choose plan.document.openings plan.stock

/-- What a pass leaves of the claims and of the random numbers. -/
def Plan.left (choose : Chooser) (plan : Plan) : Stock :=
  (choose.allot plan.document.openings plan.stock).2

/-- A plan after a pass. -/
def Plan.bound (workspaceId : String) (choose : Chooser) (volumeOf : String → PodVolume)
    (plan : Plan) : Plan where
  document := { plan.document with
    pods := plan.document.pods.mapWithKey fun key =>
      Pod.attachAll workspaceId volumeOf (bindingsIn key (plan.bindings choose))
    claims := (plan.left choose).claims }
  draws := (plan.left choose).draws

theorem Plan.entries_pods_bound (choose : Chooser) (plan : Plan) :
    (plan.bound workspaceId choose volumeOf).document.pods.entries =
      plan.document.pods.entries.map fun entry =>
        (entry.1, entry.2.attachAll workspaceId volumeOf
          (bindingsIn entry.1 (plan.bindings choose))) := rfl

/-- **A pass is settled before it starts.**  It never fails, and it leaves the plan with
what is allotted to the open sites attached to the pods. -/
theorem bindAll_actsAs (blind : choose.IgnoresReports) :
    (bindAll workspaceId choose volumeOf).ActsAs fun plan =>
      (.ok (), plan.bound workspaceId choose volumeOf) := by
  intro state
  obtain ⟨⟨document, draws⟩, trace⟩ := state
  let swept := walkDeclarations (bindVolume workspaceId choose volumeOf) noteUnmatched
    document.machines document.pods ⟨document.claims, draws, []⟩
  have ⟨pods, stock⟩ := sweepEntries_bindVolume workspaceId volumeOf blind document.machines
    document.pods.entries document.pods.increasing ⟨document.claims, draws, []⟩
  have podsEqual : swept.value =
      (Plan.bound workspaceId choose volumeOf ⟨document, draws⟩).document.pods :=
    StringMap.eq_of_entries_eq pods
  have stockEqual : swept.state.stock = Plan.left choose ⟨document, draws⟩ := stock
  have afterwards :
      ((bindAll workspaceId choose volumeOf).on ⟨⟨document, draws⟩, trace⟩).2.subject =
        ⟨{ document with pods := swept.value, claims := swept.state.stock.claims },
          swept.state.stock.draws⟩ := rfl
  rw [afterwards, podsEqual, stockEqual]
  rfl

end

end WorkspaceVolumes
