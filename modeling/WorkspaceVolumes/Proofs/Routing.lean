import Mathlib
import WorkspaceVolumes.Proofs.Directory

/-!
# How a workspace comes to be served

An override asks the store for one attribute.  The store in memory is built up by calls in
any order, for any workspaces, and answers with the last value that was set.  So who serves
a workspace is a matter of the calls that were made: durable storage is for the workspaces
whose attribute was last set to the word true, in letters of either case, and everything
else leads to transient storage, also that the store has never heard of the workspace.

**No durable trace.**  A workspace with transient storage is reconciled without asking the
directory.  It succeeds with every directory, in the same way, plans no claim and queues no
sub-path; and releasing it deletes nothing.

## Main definitions

* `StoreCall`, `WorkspaceTable.after`, `lastValue?`: calls on the store, the store that
  they lead to, and the value that they set last.
* `SpellsTrue`: the word true in letters of either case.
* `LeavesNoTrace`: a workspace that nothing durable is kept for.

## Main statements

* `StoreCall.get?_attributes_apply`, `WorkspaceTable.get?_attributes_after`: what one call
  does to an attribute, and what all calls do.
* `routing_follows_history`: who serves a workspace, and what becomes of the others.
-/

namespace WorkspaceVolumes

/-! ## The word true -/

/-- Whether a text is the word true, in letters of either case. -/
def SpellsTrue (word : String) : Prop :=
  List.Forall₂ (fun letter small : Char => letter = small ∨ letter = small.toUpper)
    word.toList "true".toList

/-- A character becomes a given small letter if it is that letter or its capital. -/
theorem toLower_eq_iff {letter small : Char} (isSmall : small.isLower = true) :
    letter.toLower = small ↔ letter = small ∨ letter = small.toUpper := by
  constructor
  · rintro rfl
    rw [Char.toUpper_toLower_eq_toUpper]
    by_cases isCapital : letter.isUpper = true
    · have notSmall := Char.not_isLower_of_isUpper isCapital
      exact .inr (Char.toUpper_eq_of_not_isLower notSmall).symm
    · exact .inl (Char.toLower_eq_of_not_isUpper isCapital).symm
  · have unchanged : small.toLower = small :=
      Char.toLower_eq_of_not_isUpper (Char.not_isUpper_of_isLower isSmall)
    rintro (rfl | rfl)
    · exact unchanged
    · rw [Char.toLower_toUpper_eq_toLower, unchanged]

theorem map_toLower_eq_iff {letters small : List Char}
    (areSmall : ∀ letter ∈ small, letter.isLower = true) :
    letters.map Char.toLower = small ↔
      List.Forall₂ (fun letter small : Char => letter = small ∨ letter = small.toUpper)
        letters small := by
  induction letters generalizing small with
  | nil => simp [eq_comm]
  | cons letter letters ih =>
    cases small with
    | nil => simp
    | cons first small =>
      have ⟨isSmall, others⟩ := List.forall_mem_cons.1 areSmall
      rw [List.map_cons, List.cons.injEq, List.forall₂_cons, toLower_eq_iff isSmall,
        ih others]

theorem asksForDurable_some_iff {value : String} :
    asksForDurable (some value) = true ↔ SpellsTrue value := by
  have areSmall : ∀ letter ∈ "true".toList, letter.isLower = true := by simp
  have spelled : String.ofList (value.toList.map Char.toLower) = "true" ↔
      value.toList.map Char.toLower = "true".toList := by
    rw [← String.ofList_inj, String.ofList_toList]
  rw [asksForDurable, Option.any_some, decide_eq_true_iff, Text.lowered, spelled,
    map_toLower_eq_iff areSmall, SpellsTrue]

/-! ## Calls on the store -/

/-- A call that changes the store in memory. -/
inductive StoreCall
  | addWorkspace (workspaceId : String)
  | setAttribute (workspaceId key value : String)
  deriving DecidableEq

namespace StoreCall

/-- The store after a call. -/
def apply : StoreCall → WorkspaceTable → WorkspaceTable
  | addWorkspace workspaceId, table => table.addWorkspace workspaceId
  | setAttribute workspaceId key value, table => table.setAttribute workspaceId key value

/-- The value that a call sets for an attribute of a workspace, if it sets one. -/
def value? (workspaceId key : String) : StoreCall → Option String
  | addWorkspace _ => none
  | setAttribute other otherKey value =>
    if other = workspaceId ∧ otherKey = key then some value else none

/-- After a call an attribute has the value that the call sets, and otherwise the value
that it had. -/
theorem get?_attributes_apply (call : StoreCall) (table : WorkspaceTable)
    (workspaceId key : String) :
    ((call.apply table).attributes workspaceId).get? key =
      (call.value? workspaceId key).or ((table.attributes workspaceId).get? key) := by
  cases call with
  | addWorkspace other =>
    rw [apply, WorkspaceTable.attributes_addWorkspace, value?, Option.none_or]
  | setAttribute other otherKey value =>
    rw [apply, WorkspaceTable.attributes_setAttribute, value?]
    by_cases sameWorkspace : other = workspaceId
    · rw [if_pos sameWorkspace, StringMap.get?_insert]
      by_cases sameKey : otherKey = key
      · rw [if_pos sameKey, if_pos ⟨sameWorkspace, sameKey⟩, Option.some_or]
      · rw [if_neg sameKey, if_neg fun both => sameKey both.2, Option.none_or]
    · rw [if_neg sameWorkspace, if_neg fun both => sameWorkspace both.1, Option.none_or]

/-- A call that is not a setting of an attribute sets no value for it. -/
theorem value?_eq_none {call : StoreCall} {workspaceId key : String}
    (other : ∀ value, call ≠ setAttribute workspaceId key value) :
    call.value? workspaceId key = none := by
  cases call with
  | addWorkspace _ => rfl
  | setAttribute otherWorkspace otherKey value =>
    rw [value?, if_neg]
    rintro ⟨rfl, rfl⟩
    exact other value rfl

end StoreCall

/-- The value that some calls have set last for an attribute of a workspace. -/
def lastValue? (workspaceId key : String) (calls : List StoreCall) : Option String :=
  (calls.filterMap (·.value? workspaceId key)).getLast?

theorem lastValue?_append_singleton (workspaceId key : String) (calls : List StoreCall)
    (call : StoreCall) :
    lastValue? workspaceId key (calls ++ [call]) =
      (call.value? workspaceId key).or (lastValue? workspaceId key calls) := by
  rw [lastValue?, lastValue?, List.filterMap_append, List.getLast?_append]
  cases set : call.value? workspaceId key with
  | none => simp [set]
  | some value => simp [set]

namespace WorkspaceTable

/-- The store that some calls lead to, which was empty at first. -/
def after (calls : List StoreCall) : WorkspaceTable :=
  calls.foldl (fun table call => call.apply table) {}

theorem after_append_singleton (calls : List StoreCall) (call : StoreCall) :
    after (calls ++ [call]) = call.apply (after calls) := by
  rw [after, List.foldl_append]
  rfl

/-- The store keeps answering. -/
theorem available_after (calls : List StoreCall) : (after calls).available = true := by
  induction calls using List.reverseRecOn with
  | nil => rfl
  | append_singleton calls call ih =>
    rw [after_append_singleton]
    cases call with
    | addWorkspace _ => exact ih
    | setAttribute _ _ _ => exact ih

/-- **An attribute has the value that was set last.** -/
theorem get?_attributes_after (calls : List StoreCall) (workspaceId key : String) :
    ((after calls).attributes workspaceId).get? key = lastValue? workspaceId key calls := by
  induction calls using List.reverseRecOn with
  | nil => rfl
  | append_singleton calls call ih =>
    rw [after_append_singleton, StoreCall.get?_attributes_apply, ih,
      lastValue?_append_singleton]

end WorkspaceTable

/-- A store that answers goes by the attribute of a workspace; one that it has never heard of
has none. -/
theorem transience_of_available {table : WorkspaceTable} (answers : table.available = true)
    (workspaceId : String) :
    transience table workspaceId =
      .ok !asksForDurable ((table.attributes workspaceId).get? mountSourcesAttribute) := by
  have asked : WorkspaceStore.getAttribute table workspaceId mountSourcesAttribute =
      table.getAttribute workspaceId mountSourcesAttribute := rfl
  rw [transience, asked, WorkspaceTable.getAttribute, if_pos answers, WorkspaceTable.attributes]
  cases table.workspaces.get? workspaceId with
  | none => rfl
  | some attributes => rfl

/-- The store's answer about a workspace is that of the last value. -/
theorem transience_after (calls : List StoreCall) (workspaceId : String) :
    transience (WorkspaceTable.after calls) workspaceId =
      .ok !asksForDurable (lastValue? workspaceId mountSourcesAttribute calls) := by
  rw [transience_of_available (WorkspaceTable.available_after calls),
    WorkspaceTable.get?_attributes_after]

/-! ## Transient storage -/

/-- A workspace that nothing durable is kept for.  Whatever the directory is and whether it
answers or not, reconciling succeeds with one report and leaves one plan, and releasing
succeeds and leaves the directory alone.  The plan has gained no claim, no sub-path, and
only volumes that go with their pods. -/
structure LeavesNoTrace {ω : Type} [WorkspaceStore ω] (store : ω) (strategy : Strategy)
    (identity : Identity) (plan : Plan) (report : ReconcileReport) (later : Plan) : Prop where
  reconciles : ∀ {δ : Type} [ClaimDirectory δ] (directory : δ),
    ((reconcile ⟨directory, store⟩ strategy identity).start plan).outcome = .ok report ∧
      ((reconcile ⟨directory, store⟩ strategy identity).start plan).subject = later
  releases : ∀ {δ : Type} [ClaimDirectory δ] (directory : δ),
    ((release store strategy identity.workspaceId).start directory).outcome = .ok () ∧
      ((release store strategy identity.workspaceId).start directory).subject = directory
  claims : later.document.claims = plan.document.claims
  subpaths : later.document.subpaths = plan.document.subpaths
  volumes : ∀ key, ∃ added,
    later.document.volumesAt key = plan.document.volumesAt key ++ added ∧
      ∀ volume ∈ added, volume.isEmptyDir = true

/-- Nothing durable is kept for a workspace that is served for the life of its pods. -/
theorem leavesNoTrace_of_served {ω : Type} [WorkspaceStore ω] {store : ω} {strategy : Strategy}
    {identity : Identity} {transient : EmptyDirStrategy}
    (serves : strategy.served store identity.workspaceId = .ok (.emptyDir transient))
    (plan : Plan) :
    ∃ report later, LeavesNoTrace store strategy identity plan report later := by
  let later := plan.bound identity.workspaceId transient.choose PodVolume.emptyDir
  refine ⟨.between identity.workspaceId emptyDirKey plan.document later.document, later, ?_⟩
  constructor
  case reconciles =>
    intro δ _ directory
    have acts := reconcile_actsAs ⟨directory, store⟩ strategy identity
    rw [acts.outcome_start, acts.subject_start, serves]
    exact ⟨rfl, rfl⟩
  case releases =>
    intro δ _ directory
    have acts := release_actsAs (δ := δ) store strategy identity.workspaceId
    rw [acts.outcome_start, acts.subject_start, serves]
    exact ⟨rfl, rfl⟩
  case claims => exact transient.claims_left plan
  case subpaths => rfl
  case volumes =>
    intro key
    obtain ⟨added, within, behind⟩ := Plan.exists_volumesAt_bound identity.workspaceId
      PodVolume.emptyDir transient.choose plan key
    refine ⟨added, behind, fun volume member => ?_⟩
    obtain ⟨binding, -, rfl⟩ := List.mem_map.1 (within.subset member)
    rfl

/-! ## Service -/

/-- Whether a strategy does for a workspace what another strategy does, in every
operation. -/
structure ServesAs {ω : Type} [WorkspaceStore ω] (store : ω) (identity : Identity)
    (strategy other : Strategy) : Prop where
  prepares : Run.SameEffect (strategy.prepare store identity.workspaceId)
    (other.prepare store identity.workspaceId)
  provisions : ∀ {δ : Type} [ClaimDirectory δ] (directory : δ),
    Run.SameEffect (strategy.provision ⟨directory, store⟩ identity)
      (other.provision ⟨directory, store⟩ identity)
  cleansUp : ∀ {δ : Type} [ClaimDirectory δ],
    Run.SameEffect (σ := δ) (strategy.cleanup store identity.workspaceId)
      (other.cleanup store identity.workspaceId)
  reconciles : ∀ {δ : Type} [ClaimDirectory δ] (directory : δ),
    Run.SameEffect (reconcile ⟨directory, store⟩ strategy identity)
      (reconcile ⟨directory, store⟩ other identity)
  releases : ∀ {δ : Type} [ClaimDirectory δ],
    Run.SameEffect (σ := δ) (release store strategy identity.workspaceId)
      (release store other identity.workspaceId)

/-- Strategies behind which the same provider stands do the same. -/
theorem servesAs_of_served_eq {ω : Type} [WorkspaceStore ω] {store : ω} {identity : Identity}
    {strategy other : Strategy}
    (same : strategy.served store identity.workspaceId =
      other.served store identity.workspaceId) :
    ServesAs store identity strategy other where
  prepares := (strategy.prepare_actsAs store identity.workspaceId).sameEffect
    (same ▸ other.prepare_actsAs store identity.workspaceId)
  provisions directory := (strategy.provision_actsAs ⟨directory, store⟩ identity).sameEffect
    (same ▸ other.provision_actsAs ⟨directory, store⟩ identity)
  cleansUp := (strategy.cleanup_actsAs store identity.workspaceId).sameEffect
    (same ▸ other.cleanup_actsAs store identity.workspaceId)
  reconciles directory := (reconcile_actsAs ⟨directory, store⟩ strategy identity).sameEffect
    (same ▸ reconcile_actsAs ⟨directory, store⟩ other identity)
  releases := (release_actsAs store strategy identity.workspaceId).sameEffect
    (same ▸ release_actsAs store other identity.workspaceId)

/-! ## Routing by history -/

section

variable (durable : DurableStrategy) (transient : EmptyDirStrategy) (workspaceId : String)
  (calls : List StoreCall)

/-- What an override around a durable strategy resolves to for a workspace, with the store
that some calls have led to. -/
def routedTo : Except VolumeError (Option Strategy) :=
  (((Strategy.override (.durable durable) transient).resolve (WorkspaceTable.after calls)
    workspaceId : Run Unit (Option Strategy)).start ()).outcome

theorem routedTo_eq :
    routedTo durable transient workspaceId calls =
      .ok (some (if asksForDurable (lastValue? workspaceId mountSourcesAttribute calls)
        then .durable durable else .emptyDir transient)) := by
  have acts := Strategy.resolve_override_actsAs (σ := Unit) (WorkspaceTable.after calls)
    workspaceId (.durable durable) transient
  rw [routedTo, acts.outcome_start, transience_after]
  cases asksForDurable (lastValue? workspaceId mountSourcesAttribute calls) <;> rfl

/-- A workspace is routed to durable storage just if the last value spells true. -/
theorem routedTo_eq_durable_iff :
    routedTo durable transient workspaceId calls = .ok (some (.durable durable)) ↔
      ∃ value, lastValue? workspaceId mountSourcesAttribute calls = some value ∧
        SpellsTrue value := by
  rw [routedTo_eq]
  cases lastValue? workspaceId mountSourcesAttribute calls with
  | none => simp [asksForDurable]
  | some value =>
    simp only [Option.some.injEq, exists_eq_left', ← asksForDurable_some_iff]
    cases asksForDurable (some value) <;> simp

/-- What serves a workspace behind the override. -/
theorem served_after :
    (Strategy.override (.durable durable) transient).served (WorkspaceTable.after calls)
        workspaceId =
      .ok (if asksForDurable (lastValue? workspaceId mountSourcesAttribute calls)
        then .durable durable else .emptyDir transient) := by
  rw [Strategy.served, transience_after]
  cases asksForDurable (lastValue? workspaceId mountSourcesAttribute calls) <;> rfl

/-- **Routing follows the history of the store.**  Take an override around a durable
strategy, and a store that any calls have led to.  A workspace is routed to durable storage
if, and only if, the value that was last set for its attribute spells true; otherwise it is
routed to transient storage, and never to an error, and in every operation it is served by
the strategy that it is routed to.  No call makes a difference but the setting of its own
attribute.  And for a workspace that is not routed to durable storage nothing durable is
kept. -/
theorem routing_follows_history (identity : Identity) :
    let workspaceId := identity.workspaceId
    let strategy := Strategy.override (.durable durable) transient
    let routed := routedTo durable transient workspaceId
    (∀ calls, routed calls = .ok (some (.durable durable)) ↔
      ∃ value, lastValue? workspaceId mountSourcesAttribute calls = some value ∧
        SpellsTrue value) ∧
    (∀ calls, ∃ chosen, (chosen = .durable durable ∨ chosen = .emptyDir transient) ∧
      routed calls = .ok (some chosen) ∧
      ServesAs (WorkspaceTable.after calls) identity strategy chosen) ∧
    (∀ calls call, (∀ value, call ≠ .setAttribute workspaceId mountSourcesAttribute value) →
      routed (calls ++ [call]) = routed calls) ∧
    (∀ calls, routed calls ≠ .ok (some (.durable durable)) → ∀ plan, ∃ report later,
      LeavesNoTrace (WorkspaceTable.after calls) strategy identity plan report later) := by
  intro workspaceId strategy routed
  refine ⟨routedTo_eq_durable_iff durable transient workspaceId, ?_, ?_, ?_⟩
  · intro calls
    have serves := served_after durable transient workspaceId calls
    have goes := routedTo_eq durable transient workspaceId calls
    cases asks : asksForDurable (lastValue? workspaceId mountSourcesAttribute calls) with
    | true =>
      rw [asks] at serves goes
      exact ⟨.durable durable, .inl rfl, goes, servesAs_of_served_eq serves⟩
    | false =>
      rw [asks] at serves goes
      exact ⟨.emptyDir transient, .inr rfl, goes, servesAs_of_served_eq serves⟩
  · intro calls call other
    have silent := StoreCall.value?_eq_none other
    show routedTo durable transient workspaceId (calls ++ [call]) =
      routedTo durable transient workspaceId calls
    rw [routedTo_eq, routedTo_eq, lastValue?_append_singleton, silent, Option.none_or]
  · intro calls elsewhere plan
    have serves := served_after durable transient workspaceId calls
    have asksNot : asksForDurable (lastValue? workspaceId mountSourcesAttribute calls) =
        false := by
      by_contra asks
      rw [Bool.not_eq_false] at asks
      have goes := routedTo_eq durable transient workspaceId calls
      rw [asks] at goes
      exact elsewhere goes
    rw [asksNot] at serves
    exact leavesNoTrace_of_served serves plan

end

/-- A workspace that asks for durable storage, whatever is said of another one, and then
takes it back. -/
theorem routing_follows_history_revoked :
    let asked : List StoreCall := [.addWorkspace "ws",
      .setAttribute "ws" mountSourcesAttribute "TrUE",
      .setAttribute "other" mountSourcesAttribute "no"]
    let revoked := asked ++ [.setAttribute "ws" mountSourcesAttribute "yes"]
    let routed := routedTo .standard ⟨"scratch"⟩ "ws"
    routed asked = .ok (some (.durable .standard)) ∧
      routed (asked ++ [.addWorkspace "ws"]) = routed asked ∧
      routed revoked ≠ .ok (some (.durable .standard)) ∧
      ∃ report later, LeavesNoTrace (WorkspaceTable.after revoked)
        (.override (.durable .standard) ⟨"scratch"⟩) { workspaceId := "ws" }
        ⟨.single, .cycling #[0]⟩ report later := by
  intro asked revoked routed
  obtain ⟨exactly, -, indifferent, traceless⟩ :=
    routing_follows_history .standard ⟨"scratch"⟩ { workspaceId := "ws" }
  have elsewhere : routed revoked ≠ .ok (some (.durable .standard)) := by decide
  refine ⟨(exactly asked).2 ⟨"TrUE", rfl, ?_⟩, indifferent asked _ ?_, elsewhere,
    traceless revoked elsewhere _⟩
  · simp [SpellsTrue]
  · intro value
    exact StoreCall.noConfusion

end WorkspaceVolumes
