import WorkspaceVolumes.Proofs.Opening

/-!
# The itinerary of a walk

A walk through the pods of a document is three loops, one in the other, and the inner two are driven
by the pod that is being changed.  For a visitor that keeps the layout of the pods this is no more
than one fold along a list that is made before the walk starts: the *itinerary*, which is where the
walk stops, pod by pod.

**Sites and other stops.**  The visitor is called at the declared volumes, the sites.  The itinerary
also has a stop for every container whose machine is not there, of which only a note is taken.  The
sites come in the order of pods, containers and volumes, and each of them comes once.

**Failing.**  A fold does not stop.  But a visit that has failed is handed on as it is, so what
stands behind it on the itinerary does not change anything, and pods that come later keep what they
were.

## Main definitions

* `itinerary`, `sites`: where a walk stops, and where it calls the visitor.
* `visitAt`, `proceed`: one step of the fold, and the step unless a visit has failed.
* `Site.Precedes`, `Declares`: the order of sites, and what makes a site.
* `Reaches`: how far a walk has come when it calls the visitor.

## Main statements

* `walkDeclarations_eq_foldl`: a walk is a fold along its itinerary.
* `pairwise_sites`, `mem_sites_iff`: the order of the sites, and which there are.
* `walk_follows_itinerary`: the visitor is called once at each site, in order, up to the first
  failure.
-/

namespace WorkspaceVolumes

open StringMap (Visit)

/-! ## Definitions -/

/-- What a visit to the value of one key leaves of the table. -/
def StringMap.Visit.within {ε α σ : Type} (visit : Visit ε α σ) (map : StringMap α)
    (key : String) : Visit ε (StringMap α) σ :=
  ⟨visit.outcome, map.insert key visit.value, visit.state⟩

/-- Where a walk through pods stops, each stop with the key of its pod. -/
def itinerary (machines : StringMap Machine) (pods : StringMap Pod) : List (String × Stop) :=
  pods.entries.flatMap fun entry => (entry.2.stops machines).map (entry.1, ·)

/-- The site of a stop, if a volume is declared there. -/
def Stop.site? (key : String) : Stop → Option Site
  | .declared index declaration => some ⟨key, index, declaration⟩
  | .unmatched _ => none

/-- Where a walk through pods calls the visitor. -/
def sites (machines : StringMap Machine) (pods : StringMap Pod) : List Site :=
  (itinerary machines pods).filterMap fun waypoint => waypoint.2.site? waypoint.1

namespace Site

/-- A site as a stop of an itinerary. -/
def waypoint (site : Site) : String × Stop := (site.pod, .declared site.index site.declaration)

/-- Sites are ordered by the key of the pod, then by the place of the container, and then by the
name of the volume. -/
def Precedes (site later : Site) : Prop :=
  site.pod < later.pod ∨
    site.pod = later.pod ∧
      (site.index < later.index ∨
        site.index = later.index ∧
          site.declaration.volumeName < later.declaration.volumeName)

end Site

/-- In these pods the machine of the container at a site declares the volume of the site. -/
def Declares (machines : StringMap Machine) (pods : StringMap Pod) (site : Site) : Prop :=
  ∃ pod container machine, pods.get? site.pod = some pod ∧
    pod.containers[site.index]? = some container ∧
    site.declaration.machineName = pod.machineName container.name ∧
    machines.get? site.declaration.machineName = some machine ∧
    machine.paths.get? site.declaration.volumeName = some site.declaration.path

section

variable {ε σ : Type} (visit : Visitor ε σ) (unmatched : String → σ → σ)

/-- What is done at a stop of an itinerary. -/
def visitAt (waypoint : String × Stop) (pods : StringMap Pod) (state : σ) :
    Visit ε (StringMap Pod) σ :=
  match pods.get? waypoint.1 with
  | none => ⟨.ok (), pods, state⟩
  | some pod => (visitStop visit unmatched waypoint.2 pod state).within pods waypoint.1

/-- Goes on to a stop of an itinerary, unless a visit has failed. -/
def proceed (reached : Visit ε (StringMap Pod) σ) (waypoint : String × Stop) :
    Visit ε (StringMap Pod) σ :=
  reached.andThen (visitAt visit unmatched waypoint)

/-- A walk comes to a site without having failed, and by then has made of the pods what `arrived`
says, and of the state what `now` says. -/
def Reaches (machines : StringMap Machine) (pods : StringMap Pod) (state : σ) (site : Site)
    (arrived : StringMap Pod) (now : σ) : Prop :=
  ∃ before after, itinerary machines pods = before ++ site.waypoint :: after ∧
    before.foldl (proceed visit unmatched) ⟨.ok (), pods, state⟩ = ⟨.ok (), arrived, now⟩

/-! ## Steps and runs of the fold -/

theorem visitAt_of_get? {pods : StringMap Pod} {key : String} {pod : Pod}
    (found : pods.get? key = some pod) (stop : Stop) (state : σ) :
    visitAt visit unmatched (key, stop) pods state =
      (visitStop visit unmatched stop pod state).within pods key := by
  unfold visitAt
  rw [found]

/-- A visit that has failed is the last. -/
theorem foldl_proceed_of_error {reached : Visit ε (StringMap Pod) σ} {fault : ε}
    (failed : reached.outcome = .error fault) (stops : List (String × Stop)) :
    stops.foldl (proceed visit unmatched) reached = reached := by
  obtain ⟨outcome, pods, state⟩ := reached
  obtain rfl : outcome = .error fault := failed
  induction stops with
  | nil => rfl
  | cons waypoint rest ih => exact ih

/-- Where nothing is noted of a container without a machine, nothing is done there. -/
theorem proceed_unmatched (silent : ∀ machineName now, unmatched machineName now = now)
    (reached : Visit ε (StringMap Pod) σ) (key machineName : String) :
    proceed visit unmatched reached (key, .unmatched machineName) = reached := by
  obtain ⟨outcome, pods, state⟩ := reached
  cases outcome with
  | error fault => rfl
  | ok =>
    show visitAt visit unmatched (key, .unmatched machineName) pods state = ⟨.ok (), pods, state⟩
    cases found : pods.get? key with
    | none =>
      unfold visitAt
      rw [found]
    | some pod =>
      rw [visitAt_of_get? visit unmatched found, visitStop, silent, StringMap.Visit.within,
        StringMap.insert_eq_self found]

/-- The stops of one pod are visited as in a walk through the pod. -/
theorem foldl_proceed_stops (stops : List Stop) {pods : StringMap Pod} {key : String} {pod : Pod}
    (found : pods.get? key = some pod) (state : σ) :
    (stops.map (key, ·)).foldl (proceed visit unmatched) ⟨.ok (), pods, state⟩ =
      (visitStops visit unmatched stops pod state).within pods key := by
  -- A visit puts its pod back under the key, where the next visit takes it up.
  induction stops generalizing pods pod state with
  | nil =>
    rw [visitStops, StringMap.Visit.within, StringMap.insert_eq_self found]
    rfl
  | cons stop rest ih =>
    rw [List.map_cons, List.foldl_cons, visitStops]
    have here : proceed visit unmatched ⟨.ok (), pods, state⟩ (key, stop) =
        (visitStop visit unmatched stop pod state).within pods key :=
      visitAt_of_get? visit unmatched found stop state
    rw [here]
    obtain ⟨outcome, left, now⟩ := visitStop visit unmatched stop pod state
    cases outcome with
    | error fault => exact foldl_proceed_of_error visit unmatched rfl _
    | ok =>
      refine (ih (StringMap.get?_insert_self pods key left) now).trans ?_
      rw [StringMap.Visit.within, StringMap.insert_insert]
      rfl

variable {visit} in
/-- The pods of a table are swept one after the other. -/
theorem foldl_proceed_entries (keeps : KeepsLayout visit) (machines : StringMap Machine)
    {entries : List (String × Pod)} (increasing : entries.Pairwise fun a b => a.1 < b.1)
    {pods : StringMap Pod} (present : ∀ entry ∈ entries, pods.get? entry.1 = some entry.2)
    (state : σ) :
    (entries.flatMap fun entry => (entry.2.stops machines).map (entry.1, ·)).foldl
        (proceed visit unmatched) ⟨.ok (), pods, state⟩ =
      let swept := StringMap.sweepEntries (Pod.walk visit unmatched machines) entries state
      ⟨swept.outcome, swept.value.foldl (fun pods entry => pods.insert entry.1 entry.2) pods,
        swept.state⟩ := by
  induction entries generalizing pods state with
  | nil => rfl
  | cons entry rest ih =>
    obtain ⟨key, pod⟩ := entry
    obtain ⟨above, tail⟩ := List.pairwise_cons.1 increasing
    have found : pods.get? key = some pod := present (key, pod) List.mem_cons_self
    -- Whatever becomes of this pod, the others are there as they were.
    have others (left : Pod) : ∀ entry ∈ rest, (pods.insert key left).get? entry.1 =
        some entry.2 := by
      intro entry member
      have differs : key ≠ entry.1 := Std.ne_of_lt (above entry member)
      rw [StringMap.get?_insert, if_neg differs]
      exact present entry (List.mem_cons_of_mem _ member)
    rw [List.flatMap_cons, List.foldl_append, foldl_proceed_stops visit unmatched _ found,
      ← Pod.walk_eq_visitStops unmatched keeps, StringMap.sweepEntries]
    obtain ⟨outcome, left, now⟩ := pod.walk visit unmatched machines state
    cases outcome with
    | error fault =>
      rw [foldl_proceed_of_error visit unmatched rfl]
      show _ = (⟨_, rest.foldl _ (pods.insert key left), _⟩ : Visit ε (StringMap Pod) σ)
      rw [StringMap.foldl_insert_eq_self (others left)]
      rfl
    | ok => exact ih tail (others left) now

variable {visit} in
/-- **A walk is a fold along its itinerary.** -/
theorem walkDeclarations_eq_foldl (keeps : KeepsLayout visit) (machines : StringMap Machine)
    (pods : StringMap Pod) (state : σ) :
    walkDeclarations visit unmatched machines pods state =
      (itinerary machines pods).foldl (proceed visit unmatched) ⟨.ok (), pods, state⟩ := by
  have keys : (walkDeclarations visit unmatched machines pods state).value.keys = pods.keys :=
    StringMap.keys_sweepEntries _ pods.entries state
  unfold itinerary
  rw [foldl_proceed_entries unmatched keeps machines pods.increasing
    fun entry member => StringMap.get?_eq_some_iff.2 member]
  show _ = (⟨_, (walkDeclarations visit unmatched machines pods state).value.entries.foldl _ pods,
    _⟩ : Visit ε (StringMap Pod) σ)
  rw [StringMap.foldl_insert_entries_of_keys keys]
  rfl

/-! ### What a run leaves alone -/

theorem get?_proceed_of_ne {waypoint : String × Stop} {key : String} (differs : waypoint.1 ≠ key)
    (reached : Visit ε (StringMap Pod) σ) :
    (proceed visit unmatched reached waypoint).value.get? key = reached.value.get? key := by
  obtain ⟨outcome, pods, state⟩ := reached
  cases outcome with
  | error fault => rfl
  | ok =>
    show (visitAt visit unmatched waypoint pods state).value.get? key = pods.get? key
    unfold visitAt
    split
    · rfl
    · rw [StringMap.Visit.within, StringMap.get?_insert, if_neg differs]

/-- A pod stays as it is while a walk stops at others. -/
theorem get?_foldl_proceed_of_ne {stops : List (String × Stop)} {key : String}
    (differ : ∀ waypoint ∈ stops, waypoint.1 ≠ key) (reached : Visit ε (StringMap Pod) σ) :
    (stops.foldl (proceed visit unmatched) reached).value.get? key = reached.value.get? key := by
  induction stops generalizing reached with
  | nil => rfl
  | cons waypoint rest ih =>
    obtain ⟨first, others⟩ := List.forall_mem_cons.1 differ
    rw [List.foldl_cons, ih others, get?_proceed_of_ne visit unmatched first]

variable {visit} in
theorem sameLayout_proceed (keeps : KeepsLayout visit) (waypoint : String × Stop)
    {reached : Visit ε (StringMap Pod) σ} {key : String} {pod : Pod}
    (found : reached.value.get? key = some pod) :
    ∃ later, (proceed visit unmatched reached waypoint).value.get? key = some later ∧
      pod.SameLayout later := by
  by_cases same : waypoint.1 = key
  · obtain ⟨_, stop⟩ := waypoint
    obtain ⟨outcome, pods, state⟩ := reached
    subst same
    cases outcome with
    | error fault => exact ⟨pod, found, .refl pod⟩
    | ok =>
      refine ⟨(visitStop visit unmatched stop pod state).value, ?_,
        sameLayout_visitStop unmatched keeps stop pod state⟩
      show (visitAt visit unmatched _ pods state).value.get? _ = _
      rw [visitAt_of_get? visit unmatched found]
      exact StringMap.get?_insert_self ..
  · exact ⟨pod, (get?_proceed_of_ne visit unmatched same reached).trans found, .refl pod⟩

variable {visit} in
/-- All pods stay where they are and keep their layout. -/
theorem sameLayout_foldl_proceed (keeps : KeepsLayout visit) (stops : List (String × Stop))
    (reached : Visit ε (StringMap Pod) σ) {key : String} {pod : Pod}
    (found : reached.value.get? key = some pod) :
    ∃ later, (stops.foldl (proceed visit unmatched) reached).value.get? key = some later ∧
      pod.SameLayout later := by
  induction stops generalizing reached pod with
  | nil => exact ⟨pod, found, .refl pod⟩
  | cons waypoint rest ih =>
    obtain ⟨next, there, same⟩ := sameLayout_proceed unmatched keeps waypoint found
    obtain ⟨later, last, alike⟩ := ih _ there
    exact ⟨later, last, same.trans alike⟩

/-! ### Where a run fails -/

/-- A run fails at one of its stops, and not in front of it. -/
theorem exists_of_foldl_proceed_error {stops : List (String × Stop)} {pods : StringMap Pod}
    {state : σ} {fault : ε}
    (failed : (stops.foldl (proceed visit unmatched) ⟨.ok (), pods, state⟩).outcome =
      .error fault) :
    ∃ before waypoint after arrived now, stops = before ++ waypoint :: after ∧
      before.foldl (proceed visit unmatched) ⟨.ok (), pods, state⟩ = ⟨.ok (), arrived, now⟩ ∧
      (visitAt visit unmatched waypoint arrived now).outcome = .error fault := by
  induction stops generalizing pods state with
  | nil => cases failed
  | cons waypoint rest ih =>
    have next : proceed visit unmatched ⟨.ok (), pods, state⟩ waypoint =
        visitAt visit unmatched waypoint pods state := rfl
    rw [List.foldl_cons, next] at failed
    cases here : visitAt visit unmatched waypoint pods state with
    | mk outcome left later =>
      rw [here] at next failed
      cases outcome with
      | error other =>
        rw [foldl_proceed_of_error visit unmatched rfl] at failed
        exact ⟨[], waypoint, rest, pods, state, rfl, rfl, by rw [here]; exact failed⟩
      | ok =>
        obtain ⟨before, last, after, arrived, now, rfl, passed, fails⟩ := ih failed
        refine ⟨waypoint :: before, last, after, arrived, now, rfl, ?_, fails⟩
        rw [List.foldl_cons, next, passed]

/-- What fails is a visit to a site. -/
theorem exists_of_visitAt_error {waypoint : String × Stop} {pods : StringMap Pod} {state : σ}
    {fault : ε} (failed : (visitAt visit unmatched waypoint pods state).outcome = .error fault) :
    ∃ (site : Site) (pod : Pod), waypoint = site.waypoint ∧ pods.get? site.pod = some pod ∧
      (visit site.index site.declaration pod state).outcome = .error fault := by
  obtain ⟨key, stop⟩ := waypoint
  cases found : pods.get? key with
  | none =>
    unfold visitAt at failed
    rw [found] at failed
    cases failed
  | some pod =>
    rw [visitAt_of_get? visit unmatched found] at failed
    cases stop with
    | unmatched machineName => cases failed
    | declared index declaration => exact ⟨⟨key, index, declaration⟩, pod, rfl, found, failed⟩

end

/-! ## The sites -/

section

variable {machines : StringMap Machine} {pods : StringMap Pod}

theorem mem_itinerary_iff {waypoint : String × Stop} :
    waypoint ∈ itinerary machines pods ↔
      ∃ pod, pods.get? waypoint.1 = some pod ∧ waypoint.2 ∈ pod.stops machines := by
  rw [itinerary, List.mem_flatMap]
  constructor
  · rintro ⟨⟨key, pod⟩, present, member⟩
    obtain ⟨stop, inside, rfl⟩ := List.mem_map.1 member
    exact ⟨pod, StringMap.get?_eq_some_iff.2 present, inside⟩
  · rintro ⟨pod, found, inside⟩
    exact ⟨(waypoint.1, pod), StringMap.get?_eq_some_iff.1 found,
      List.mem_map.2 ⟨waypoint.2, inside, rfl⟩⟩

/-- The pods come in the order of their keys. -/
theorem pairwise_itinerary : (itinerary machines pods).Pairwise fun a b => a.1 ≤ b.1 := by
  rw [itinerary, List.pairwise_flatMap]
  constructor
  · intro entry _
    rw [List.pairwise_map]
    exact List.pairwise_of_forall fun _ _ => Std.le_refl _
  · refine pods.increasing.imp fun above waypoint member later member' => ?_
    obtain ⟨stop, -, rfl⟩ := List.mem_map.1 member
    obtain ⟨stop', -, rfl⟩ := List.mem_map.1 member'
    exact Std.le_of_lt above

theorem site?_eq_some_iff {key : String} {stop : Stop} {site : Site} :
    stop.site? key = some site ↔ (key, stop) = site.waypoint := by
  obtain ⟨pod, index, declaration⟩ := site
  cases stop with
  | declared place declared => simp [Stop.site?, Site.waypoint]
  | unmatched machineName => simp [Stop.site?, Site.waypoint]

theorem pod_of_site? {key : String} {stop : Stop} {site : Site}
    (same : stop.site? key = some site) : site.pod = key :=
  (Prod.mk.inj (site?_eq_some_iff.1 same)).1.symm

theorem mem_sites_iff_waypoint {site : Site} :
    site ∈ sites machines pods ↔ site.waypoint ∈ itinerary machines pods := by
  rw [sites, List.mem_filterMap]
  constructor
  · rintro ⟨waypoint, member, same⟩
    rwa [← site?_eq_some_iff.1 same]
  · intro member
    exact ⟨site.waypoint, member, rfl⟩

/-- **The visitor is called for the volumes that are declared**, going by what the pods are before
the walk. -/
theorem mem_sites_iff {site : Site} :
    site ∈ sites machines pods ↔ Declares machines pods site := by
  rw [mem_sites_iff_waypoint, mem_itinerary_iff]
  exact exists_congr fun pod => by
    simp only [Site.waypoint, Pod.declared_mem_stops_iff, exists_and_left]

/-- Two stops of a pod come in the order of sites, if volumes are declared at them. -/
def Stop.InOrder (key : String) (stop later : Stop) : Prop :=
  ∀ site, stop.site? key = some site → ∀ next, later.site? key = some next → site.Precedes next

theorem pairwise_stopsAt (key : String) (pod : Pod) (index : Nat) :
    (pod.stopsAt machines index).Pairwise (Stop.InOrder key) := by
  unfold Pod.stopsAt
  cases pod.containers[index]? with
  | none => exact .nil
  | some container =>
    cases found : machines.get? (pod.machineName container.name) with
    | none =>
      simp only [found]
      exact List.pairwise_singleton ..
    | some machine =>
      simp only [found]
      -- The volumes of one machine are in the order of their names.
      refine List.pairwise_map.2 (machine.paths.increasing.imp fun before => ?_)
      intro site same next same'
      obtain rfl := Option.some.inj same
      obtain rfl := Option.some.inj same'
      exact .inr ⟨rfl, .inr ⟨rfl, before⟩⟩

theorem index_of_mem_stopsAt {key : String} {pod : Pod} {index : Nat} {stop : Stop} {site : Site}
    (member : stop ∈ pod.stopsAt machines index) (same : stop.site? key = some site) :
    site.index = index := by
  obtain ⟨rfl, rfl⟩ := Prod.mk.inj (site?_eq_some_iff.1 same)
  exact (Pod.declared_mem_stopsAt_iff.1 member).1

theorem pairwise_stops (key : String) (pod : Pod) :
    (pod.stops machines).Pairwise (Stop.InOrder key) := by
  rw [Pod.stops, List.pairwise_flatMap]
  constructor
  · intro index _
    exact pairwise_stopsAt key pod index
  · refine List.pairwise_lt_range.imp fun before stop member later member' => ?_
    intro site same next same'
    refine .inr ⟨(pod_of_site? same).trans (pod_of_site? same').symm, .inl ?_⟩
    rwa [index_of_mem_stopsAt member same, index_of_mem_stopsAt member' same']

/-- **The visitor is called in order, and for no volume of a container twice.** -/
theorem pairwise_sites : (sites machines pods).Pairwise Site.Precedes := by
  rw [sites, List.pairwise_filterMap, itinerary, List.pairwise_flatMap]
  constructor
  · intro entry _
    rw [List.pairwise_map]
    exact pairwise_stops entry.1 entry.2
  · refine pods.increasing.imp fun before waypoint member later member' => ?_
    intro site same next same'
    obtain ⟨stop, -, rfl⟩ := List.mem_map.1 member
    obtain ⟨stop', -, rfl⟩ := List.mem_map.1 member'
    refine .inl ?_
    rwa [pod_of_site? same, pod_of_site? same']

end

/-! ## The walk -/

section

variable {ε σ : Type} {visit : Visitor ε σ} {unmatched : String → σ → σ}
variable {machines : StringMap Machine} {pods : StringMap Pod} {state : σ}

/-- Where nothing is noted of containers without a machine, a walk is a fold along its sites. -/
theorem walkDeclarations_eq_foldl_sites (keeps : KeepsLayout visit)
    (silent : ∀ machineName now, unmatched machineName now = now) :
    walkDeclarations visit unmatched machines pods state =
      ((sites machines pods).map Site.waypoint).foldl (proceed visit unmatched)
        ⟨.ok (), pods, state⟩ := by
  rw [walkDeclarations_eq_foldl unmatched keeps, List.foldl_map, sites, List.foldl_filterMap]
  congr 1
  funext reached waypoint
  obtain ⟨key, stop⟩ := waypoint
  cases stop with
  | declared index declaration => rfl
  | unmatched machineName => exact proceed_unmatched visit unmatched silent reached key machineName

/-- A walk that succeeds comes to all of its sites. -/
theorem exists_reaches_of_mem_sites
    (succeeds : ((itinerary machines pods).foldl (proceed visit unmatched)
      ⟨.ok (), pods, state⟩).outcome = .ok ())
    {site : Site} (member : site ∈ sites machines pods) :
    ∃ arrived now, Reaches visit unmatched machines pods state site arrived now := by
  obtain ⟨before, after, split⟩ := List.append_of_mem (mem_sites_iff_waypoint.1 member)
  rw [split, List.foldl_append] at succeeds
  cases here : before.foldl (proceed visit unmatched) ⟨.ok (), pods, state⟩ with
  | mk outcome arrived now =>
    rw [here] at succeeds
    cases outcome with
    | error fault =>
      rw [foldl_proceed_of_error visit unmatched rfl] at succeeds
      cases succeeds
    | ok => exact ⟨arrived, now, before, after, split, here⟩

namespace Reaches

variable {site : Site} {arrived : StringMap Pod} {now : σ}

/-- The visitor is given the pod of the site, with the layout that it has had all along. -/
theorem exists_pod (reaches : Reaches visit unmatched machines pods state site arrived now)
    (keeps : KeepsLayout visit) :
    ∃ earlier pod, pods.get? site.pod = some earlier ∧ arrived.get? site.pod = some pod ∧
      earlier.SameLayout pod := by
  obtain ⟨before, after, split, run⟩ := reaches
  have member : site.waypoint ∈ itinerary machines pods := by
    rw [split]
    exact List.mem_append_right before List.mem_cons_self
  obtain ⟨earlier, found, -⟩ := mem_itinerary_iff.1 member
  obtain ⟨pod, there, same⟩ :=
    sameLayout_foldl_proceed unmatched keeps before ⟨.ok (), pods, state⟩ found
  rw [run] at there
  exact ⟨earlier, pod, found, there, same⟩

/-- Pods that come later have not been visited yet. -/
theorem get?_of_lt (reaches : Reaches visit unmatched machines pods state site arrived now)
    {key : String} (later : site.pod < key) : arrived.get? key = pods.get? key := by
  obtain ⟨before, after, split, run⟩ := reaches
  have inOrder : (itinerary machines pods).Pairwise fun a b => a.1 ≤ b.1 := pairwise_itinerary
  rw [split, List.pairwise_append] at inOrder
  have differ : ∀ waypoint ∈ before, waypoint.1 ≠ key := by
    intro waypoint member
    have upTo : waypoint.1 ≤ site.pod :=
      inOrder.2.2 waypoint member site.waypoint List.mem_cons_self
    exact Std.ne_of_lt (Std.lt_of_le_of_lt upTo later)
  have same := get?_foldl_proceed_of_ne visit unmatched differ ⟨.ok (), pods, state⟩
  rwa [run] at same

/-- A walk ends with a visit that fails. -/
theorem foldl_eq_of_error (reaches : Reaches visit unmatched machines pods state site arrived now)
    {pod : Pod} (there : arrived.get? site.pod = some pod) {fault : ε}
    (fails : (visit site.index site.declaration pod now).outcome = .error fault) :
    (itinerary machines pods).foldl (proceed visit unmatched) ⟨.ok (), pods, state⟩ =
      (visit site.index site.declaration pod now).within arrived site.pod := by
  obtain ⟨before, after, split, run⟩ := reaches
  have last : proceed visit unmatched ⟨.ok (), arrived, now⟩ site.waypoint =
      (visit site.index site.declaration pod now).within arrived site.pod :=
    visitAt_of_get? visit unmatched there _ now
  rw [split, List.foldl_append, run, List.foldl_cons, last,
    foldl_proceed_of_error visit unmatched fails]

end Reaches

end

/-- **A walk is one fold along a list that is fixed in advance.**  Take any pods and machines, and
any visitor that may change what it likes of the pod that it visits and of its state, except the
metadata of the pod and the number, order and names of its containers.

The walk is the fold along its itinerary, which is made of the pods as they are before.  Where
nothing is noted of containers without a machine, it is the fold along its sites alone.  The sites
are in the order of pods, containers and volumes, and none comes twice.  There is one for every
volume that is declared by the machine of a container, with the name of the machine and what it
declares.

If the walk succeeds, it has come to all sites.  At each site that it comes to, the visitor is given
the pod under the key of the site.  If that visit fails, the walk ends with it, with its error, and
pods with later keys are what they were; and the walk fails in no other way. -/
theorem walk_follows_itinerary {ε σ : Type} {visit : Visitor ε σ} (keeps : KeepsLayout visit)
    (unmatched : String → σ → σ) (machines : StringMap Machine) (pods : StringMap Pod) (state : σ) :
    let start : Visit ε (StringMap Pod) σ := ⟨.ok (), pods, state⟩
    let walked := walkDeclarations visit unmatched machines pods state
    let reaches := Reaches visit unmatched machines pods state
    walked = (itinerary machines pods).foldl (proceed visit unmatched) start ∧
    ((∀ machineName now, unmatched machineName now = now) →
      walked = ((sites machines pods).map Site.waypoint).foldl (proceed visit unmatched) start) ∧
    (sites machines pods).Pairwise Site.Precedes ∧
    (∀ site, site ∈ sites machines pods ↔ Declares machines pods site) ∧
    (walked.outcome = .ok () →
      ∀ site ∈ sites machines pods, ∃ arrived now, reaches site arrived now) ∧
    (∀ site arrived now, reaches site arrived now →
      ∃ earlier pod, pods.get? site.pod = some earlier ∧ arrived.get? site.pod = some pod ∧
        earlier.SameLayout pod ∧
        ∀ fault, (visit site.index site.declaration pod now).outcome = .error fault →
          walked = ⟨.error fault,
            arrived.insert site.pod (visit site.index site.declaration pod now).value,
            (visit site.index site.declaration pod now).state⟩ ∧
          ∀ key, site.pod < key → walked.value.get? key = pods.get? key) ∧
    ∀ fault, walked.outcome = .error fault → ∃ site arrived now pod, reaches site arrived now ∧
      arrived.get? site.pod = some pod ∧
      (visit site.index site.declaration pod now).outcome = .error fault := by
  intro start walked reaches
  have fold : walked = (itinerary machines pods).foldl (proceed visit unmatched) start :=
    walkDeclarations_eq_foldl unmatched keeps machines pods state
  refine ⟨fold, walkDeclarations_eq_foldl_sites keeps, pairwise_sites, fun _ => mem_sites_iff,
    ?_, ?_, ?_⟩
  · intro succeeds site member
    rw [fold] at succeeds
    exact exists_reaches_of_mem_sites succeeds member
  · intro site arrived now reached
    obtain ⟨earlier, pod, found, there, same⟩ := reached.exists_pod keeps
    refine ⟨earlier, pod, found, there, same, fun fault fails => ?_⟩
    have ends : walked = (visit site.index site.declaration pod now).within arrived site.pod :=
      fold.trans (reached.foldl_eq_of_error there fails)
    constructor
    · rw [ends, ← fails]
      rfl
    · intro key later
      rw [ends, StringMap.Visit.within, StringMap.get?_insert, if_neg (Std.ne_of_lt later),
        reached.get?_of_lt later]
  · intro fault failed
    rw [fold] at failed
    obtain ⟨before, waypoint, after, arrived, now, split, run, fails⟩ :=
      exists_of_foldl_proceed_error visit unmatched failed
    obtain ⟨site, pod, rfl, there, error⟩ := exists_of_visitAt_error visit unmatched fails
    exact ⟨site, arrived, now, pod, ⟨before, after, split, run⟩, there, error⟩

/-- Mounts a volume and notes its name, but gives up at a volume that is to take the place of the
root directory. -/
def mountBelowRoot : Visitor String (List String) := fun index declaration pod noted =>
  let backed := pod.addVolume (.emptyDir declaration.volumeName)
  let mount : VolumeMount := { name := declaration.volumeName, mountPath := declaration.path }
  if declaration.path = "/" then ⟨.error declaration.volumeName, backed, noted⟩
  else ⟨.ok (), backed.addMount index mount, noted ++ [declaration.volumeName]⟩

theorem keepsLayout_mountBelowRoot : KeepsLayout mountBelowRoot := by
  intro index declaration pod noted
  unfold mountBelowRoot
  have backed := pod.sameLayout_addVolume (.emptyDir declaration.volumeName)
  split
  · exact backed
  · exact backed.trans (Pod.sameLayout_addMount ..)

/-- Two containers of one pod belong to one machine, and the container between them has none.  The
machine of the next pod declares a volume for the root directory, and one more pod follows. -/
def Document.overreaching : Document :=
  let shared := (Machine.withVolume {} "data" "/data").withVolume "cache" "/cache"
  let greedy := (Machine.withVolume {} "whole" "/").withVolume "bin" "/bin"
  let alone := Pod.named "api" ["app", "side", "job"]
  let api := (alone.withMachineName "app" "shared").withMachineName "job" "shared"
  (((((empty.addPod (.named "zone" ["app"])).addPod (.named "web" ["app"])).addPod api).addMachine
    "shared" shared).addMachine "web/app" greedy).addMachine "zone/app" shared

/-- The walk notes the container without a machine at its turn, and ends in the second pod.  Without
the machine of that pod, and without notes, it comes to all sites. -/
theorem walk_follows_itinerary_overreaching :
    let document := Document.overreaching
    let note := fun (machineName : String) (noted : List String) => noted ++ [machineName]
    let walked := walkDeclarations mountBelowRoot note document.machines document.pods []
    let fewer := document.machines.erase "web/app"
    let skip := fun (_ : String) (noted : List String) => noted
    let quiet := walkDeclarations mountBelowRoot skip fewer document.pods []
    KeepsLayout mountBelowRoot ∧
      (sites document.machines document.pods).map (fun site =>
          (site.pod, site.index, site.declaration.volumeName)) =
        [("api", 0, "cache"), ("api", 0, "data"), ("api", 2, "cache"), ("api", 2, "data"),
          ("web", 0, "bin"), ("web", 0, "whole"), ("zone", 0, "cache"), ("zone", 0, "data")] ∧
      walked.outcome = .error "whole" ∧
      walked.state = ["cache", "data", "api/side", "cache", "data", "bin"] ∧
      walked.value.get? "zone" = document.pods.get? "zone" ∧
      quiet.outcome = .ok () ∧
      quiet = ((sites fewer document.pods).map Site.waypoint).foldl (proceed mountBelowRoot skip)
        ⟨.ok (), document.pods, []⟩ ∧
      ∀ site ∈ sites fewer document.pods, ∃ arrived now,
        Reaches mountBelowRoot skip fewer document.pods [] site arrived now := by
  intro document note walked fewer skip quiet
  let stops := itinerary document.machines document.pods
  let reached := (stops.take 6).foldl (proceed mountBelowRoot note) ⟨.ok (), document.pods, []⟩
  let whole : Site := ⟨"web", 0, ⟨"web/app", "whole", "/"⟩⟩
  obtain ⟨-, -, -, -, -, ends, -⟩ := walk_follows_itinerary keepsLayout_mountBelowRoot note
    document.machines document.pods []
  obtain ⟨-, fold, -, -, all, -, -⟩ := walk_follows_itinerary keepsLayout_mountBelowRoot skip
    fewer document.pods []
  have passed : reached.outcome = .ok () := rfl
  have reaches : Reaches mountBelowRoot note document.machines document.pods [] whole reached.value
      reached.state := by
    refine ⟨stops.take 6, stops.drop 7, by decide, ?_⟩
    show reached = ⟨.ok (), reached.value, reached.state⟩
    rw [← passed]
  obtain ⟨earlier, pod, -, there, -, fails⟩ := ends whole reached.value reached.state reaches
  -- The path of the volume is that of the root directory, whatever the pod is by now.
  obtain ⟨last, untouched⟩ := fails "whole" rfl
  have state : walked.state = reached.state := (congrArg Visit.state last).trans rfl
  have succeeds : quiet.outcome = .ok () := rfl
  refine ⟨keepsLayout_mountBelowRoot, by decide, congrArg Visit.outcome last, ?_,
    untouched "zone" (by decide), succeeds, fold fun _ _ => rfl, all succeeds⟩
  rw [state]
  decide

end WorkspaceVolumes
