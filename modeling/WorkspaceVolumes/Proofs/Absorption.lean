import WorkspaceVolumes.Proofs.Provider

/-!
# Provisioning is absorbing

Once the declared volumes of a document have been bound, the document is as it will stay.
A later pass may be for another workspace, by another strategy and with other
collaborators: it finds every declared path bound, so it has nothing to choose and nothing
to attach.

**Reconciling again.**  Preparing queues the sub-paths of what is declared, and a pass
declares nothing new, so preparing a second time queues nothing.  Together with the above
a reconciled document is left alone by every further reconciliation by the same provider,
also by one that fails.

## Main definitions

* `Document.Settled`: nothing is left to bind, and nothing to queue for a provider.
* `Round`, `reconcileRounds`: reconciling one document over and over.

## Main statements

* `provision_absorbs`: the two claims together, for every document.
-/

namespace WorkspaceVolumes

/-! ## What is declared stays declared -/

theorem Plan.declarations_bound (workspaceId : String) (volumeOf : String → PodVolume)
    (choose : Chooser) (plan : Plan) :
    (plan.bound workspaceId choose volumeOf).document.declarations =
      plan.document.declarations := by
  rw [Document.declarations, entries_pods_bound, List.flatMap_map]
  refine List.flatMap_congr fun entry _ => ?_
  rw [Pod.declarations, (entry.2.sameLayout_attachAll workspaceId volumeOf _).stops_eq]
  rfl

/-- Queueing what has been queued already changes nothing. -/
theorem Plan.queued_eq_self {workspaceId : String} {plan : Plan}
    (queued : ∀ declaration ∈ plan.document.declarations,
      declaration.subPath workspaceId ∈ plan.document.subpaths.toList) :
    plan.queued workspaceId = plan := by
  have same : queueAll workspaceId plan.document.declarations plan.document.subpaths =
      plan.document.subpaths := by
    refine StringSet.foldl_add_eq_self fun path member => ?_
    obtain ⟨declaration, declared, rfl⟩ := List.mem_map.1 member
    exact queued declaration declared
  rw [Plan.queued, same]

theorem StringSet.difference_self (set : StringSet) : set.difference set = [] := by
  refine List.filter_eq_nil_iff.2 fun element member => ?_
  rw [StringMap.contains, StringMap.mem_keys_iff.1 member]
  exact Bool.false_ne_true

/-- A document has gained nothing over itself. -/
theorem ReconcileReport.isNoop_between_self (workspaceId strategy : String)
    (document : Document) :
    (between workspaceId strategy document document).isNoop = true := by
  simp [between, isNoop, StringSet.difference_self]

/-! ## Settled documents -/

/-- A document in which a provider finds nothing to do for a workspace. -/
structure Document.Settled (workspaceId : String) (provider : Provider)
    (document : Document) : Prop where
  closed : document.openings = []
  prepared : ∀ draws, provider.prepared workspaceId ⟨document, draws⟩ = ⟨document, draws⟩

namespace Provider

variable {δ : Type} [ClaimDirectory δ]

/-- What a provider other than none leaves when it succeeds is a plan after a pass. -/
theorem exists_bound_of_provisioned {directory : δ} {workspaceId : String} {provider : Provider}
    {plan : Plan} (provides : provider ≠ none)
    (succeeds : (provider.provisioned directory workspaceId plan).1 = .ok ()) :
    ∃ choose volumeOf, (provider.provisioned directory workspaceId plan).2 =
      plan.bound workspaceId choose volumeOf := by
  cases provider with
  | none => exact absurd rfl provides
  | emptyDir strategy => exact ⟨_, _, rfl⟩
  | durable strategy =>
    rw [provisioned] at succeeds ⊢
    cases listing : ClaimDirectory.listByLabel directory workspaceIdLabel workspaceId with
    | error fault =>
      rw [listing] at succeeds
      cases succeeds
    | ok listed => exact ⟨_, _, rfl⟩

/-- What a provider leaves is the plan as it was, or the plan after a pass. -/
theorem provisioned_eq_self_or_bound (directory : δ) (workspaceId : String)
    (provider : Provider) (plan : Plan) :
    (provider.provisioned directory workspaceId plan).2 = plan ∨
      ∃ choose volumeOf, (provider.provisioned directory workspaceId plan).2 =
        plan.bound workspaceId choose volumeOf := by
  by_cases provides : provider = none
  · subst provides
    exact .inl rfl
  cases outcome : (provider.provisioned directory workspaceId plan).1 with
  | error fault =>
    obtain ⟨-, -, -, kept⟩ := provisioned_of_error outcome
    exact .inl kept
  | ok => exact .inr (exists_bound_of_provisioned provides outcome)

/-- Where nothing is open, a provider binds nothing, whether its directory answers or
not. -/
theorem provisioned_of_closed (directory : δ) (workspaceId : String) (provider : Provider)
    {plan : Plan} (closed : plan.document.openings = []) :
    (provider.provisioned directory workspaceId plan).2 = plan := by
  obtain same | ⟨choose, volumeOf, same⟩ :=
    provider.provisioned_eq_self_or_bound directory workspaceId plan
  · exact same
  · exact same.trans (Plan.bound_of_closed workspaceId volumeOf closed)

/-- Nothing is open once a provider other than none has succeeded. -/
theorem openings_provisioned {directory : δ} {workspaceId : String} {provider : Provider}
    {plan : Plan} (provides : provider ≠ none)
    (succeeds : (provider.provisioned directory workspaceId plan).1 = .ok ()) :
    (provider.provisioned directory workspaceId plan).2.document.openings = [] := by
  obtain ⟨choose, volumeOf, after⟩ := exists_bound_of_provisioned provides succeeds
  rw [after]
  exact Plan.openings_bound workspaceId volumeOf

/-- What a provider other than none has reconciled is settled for it. -/
theorem settled_reconciled {directory : δ} {workspaceId : String} {provider : Provider}
    {plan : Plan} (provides : provider ≠ none) {report : ReconcileReport}
    (succeeds : (provider.reconciled directory workspaceId plan).1 = .ok report) :
    (provider.reconciled directory workspaceId plan).2.document.Settled
      workspaceId provider := by
  have ⟨provisions, _⟩ := eq_between_of_reconciled succeeds
  refine ⟨openings_provisioned provides provisions, fun draws => ?_⟩
  obtain ⟨choose, volumeOf, after⟩ := exists_bound_of_provisioned provides provisions
  rw [reconciled, after]
  cases provider with
  | none | emptyDir strategy => rfl
  | durable strategy =>
    show strategy.prepared workspaceId
      ⟨((strategy.prepared workspaceId plan).bound workspaceId choose volumeOf).document,
        draws⟩ = _
    rw [DurableStrategy.prepared]
    split
    case isFalse => rfl
    case isTrue creates =>
      -- What is declared after the pass was declared before it, and has been queued by then.
      refine Plan.queued_eq_self fun declaration declared => ?_
      rw [Plan.declarations_bound, strategy.declarations_prepared] at declared
      exact strategy.subPath_mem_prepared workspaceId creates declared

/-- A provider leaves what is settled for it as it is, also where it fails, and a report
says so. -/
theorem reconciled_of_settled (directory : δ) {workspaceId : String} {provider : Provider}
    {document : Document} (settled : document.Settled workspaceId provider)
    (draws : DrawStream) :
    (provider.reconciled directory workspaceId ⟨document, draws⟩).2 = ⟨document, draws⟩ ∧
      ∀ report, (provider.reconciled directory workspaceId ⟨document, draws⟩).1 = .ok report →
        report.isNoop = true := by
  have after : (provider.reconciled directory workspaceId ⟨document, draws⟩).2 =
      ⟨document, draws⟩ := by
    rw [reconciled, settled.prepared]
    exact provisioned_of_closed directory workspaceId provider settled.closed
  refine ⟨after, fun report succeeds => ?_⟩
  rw [(eq_between_of_reconciled succeeds).2, after]
  exact ReconcileReport.isNoop_between_self ..

end Provider

/-! ## Reconciling over and over -/

/-- One more reconciliation: the collaborators as they are by then, who it is by and for,
and the random numbers. -/
structure Round (δ ω : Type) where
  cluster : Cluster δ ω
  strategy : Strategy
  identity : Identity
  draws : DrawStream

section

variable {δ ω : Type} [ClaimDirectory δ] [WorkspaceStore ω]

/-- What comes of one round. -/
def Round.ending (round : Round δ ω) (document : Document) : Run.Ending Plan ReconcileReport :=
  (reconcile round.cluster round.strategy round.identity).start ⟨document, round.draws⟩

/-- What comes of the rounds, each on the document that the one before has left. -/
def reconcileRounds : List (Round δ ω) → Document → List (Run.Ending Plan ReconcileReport)
  | [], _ => []
  | round :: rest, document =>
    round.ending document :: reconcileRounds rest (round.ending document).subject.document

/-- A round by the provider that a document is settled for leaves it as it is. -/
theorem Round.ending_of_settled {round : Round δ ω} {workspaceId : String} {provider : Provider}
    {document : Document} (settled : document.Settled workspaceId provider)
    (sameWorkspace : round.identity.workspaceId = workspaceId)
    (serves : round.strategy.served round.cluster.store workspaceId = .ok provider) :
    (round.ending document).subject = ⟨document, round.draws⟩ ∧
      ∀ report, (round.ending document).outcome = .ok report → report.isNoop = true := by
  subst sameWorkspace
  have acts := reconcile_actsAs round.cluster round.strategy round.identity
  have ⟨after, noop⟩ :=
    provider.reconciled_of_settled round.cluster.directory settled round.draws
  rw [ending, acts.outcome_start, acts.subject_start, serves]
  exact ⟨after, noop⟩

/-- What one round leaves alone, all rounds leave alone. -/
theorem reconcileRounds_of_settled {rounds : List (Round δ ω)} {workspaceId : String}
    {provider : Provider} {document : Document}
    (settled : document.Settled workspaceId provider)
    (routed : ∀ round ∈ rounds, round.identity.workspaceId = workspaceId ∧
      round.strategy.served round.cluster.store workspaceId = .ok provider) :
    ∀ ending ∈ reconcileRounds rounds document, ending.subject.document = document ∧
      ∀ report, ending.outcome = .ok report → report.isNoop = true := by
  induction rounds with
  | nil => exact fun ending member => absurd member List.not_mem_nil
  | cons round rest ih =>
    have ⟨sameWorkspace, serves⟩ := routed round List.mem_cons_self
    have ⟨after, noop⟩ := round.ending_of_settled settled sameWorkspace serves
    have later := ih fun other member => routed other (List.mem_cons_of_mem _ member)
    rw [reconcileRounds, after]
    intro ending member
    rcases List.mem_cons.1 member with rfl | member
    · exact ⟨congrArg Plan.document after, noop⟩
    · exact later ending member

/-- **Provisioning is absorbing.**  Suppose that a workspace is served, transiently or
durably, perhaps through overrides.  Once its volumes have been provisioned, no strategy
changes the plan by provisioning any more, for whomever and with whatever collaborators
and random numbers, and none is drawn.  And once it has been reconciled, reconciling it
again and again by the same provider leaves the document as it is, and every report says
so. -/
theorem provision_absorbs (cluster : Cluster δ ω) (strategy : Strategy) (identity : Identity)
    (plan : Plan) (provider : Provider) (provides : provider ≠ .none)
    (serves : strategy.served cluster.store identity.workspaceId = .ok provider) :
    (((strategy.provision cluster identity).start plan).outcome = .ok () →
      ∀ {δ' ω' : Type} [ClaimDirectory δ'] [WorkspaceStore ω'] (later : Cluster δ' ω')
        (other : Strategy) (someone : Identity) (draws : DrawStream),
        let document := ((strategy.provision cluster identity).start plan).subject.document
        ((other.provision later someone).start ⟨document, draws⟩).subject = ⟨document, draws⟩) ∧
    (∀ report, ((reconcile cluster strategy identity).start plan).outcome = .ok report →
      ∀ rounds : List (Round δ ω),
        (∀ round ∈ rounds, round.identity.workspaceId = identity.workspaceId ∧
          round.strategy.served round.cluster.store identity.workspaceId = .ok provider) →
        let document := ((reconcile cluster strategy identity).start plan).subject.document
        ∀ ending ∈ reconcileRounds rounds document, ending.subject.document = document ∧
          ∀ report, ending.outcome = .ok report → report.isNoop = true) := by
  constructor
  · intro succeeds δ' ω' _ _ later other someone draws
    have acts := strategy.provision_actsAs cluster identity
    rw [acts.outcome_start, serves, Run.given_ok] at succeeds
    have closed := Provider.openings_provisioned provides succeeds
    rw [acts.subject_start, serves, Run.given_ok]
    dsimp only
    rw [(other.provision_actsAs later someone).subject_start]
    cases other.served later.store someone.workspaceId with
    | error fault => rfl
    | ok provider =>
      exact provider.provisioned_of_closed later.directory someone.workspaceId closed
  · intro report succeeds rounds routed
    have acts := reconcile_actsAs cluster strategy identity
    rw [acts.outcome_start, serves, Run.given_ok] at succeeds
    rw [acts.subject_start, serves, Run.given_ok]
    exact reconcileRounds_of_settled (Provider.settled_reconciled provides succeeds) routed

/-- A workspace that an override serves durably, with another workspace provisioned behind
it, and with a directory that fails and then answers again. -/
theorem provision_absorbs_override :
    let store := ({} : WorkspaceTable).setAttribute "ws" mountSourcesAttribute "true"
    let cluster : Cluster ClaimTable WorkspaceTable := ⟨{}, store⟩
    let strategy := Strategy.override (.durable .standard) ⟨"scratch"⟩
    let identity : Identity := { workspaceId := "ws" }
    let provisioned :=
      ((strategy.provision cluster identity).start ⟨.single, .cycling #[0]⟩).subject.document
    let reconciled := ((reconcile cluster strategy identity).start
      ⟨.single, .cycling #[0]⟩).subject.document
    let again (available : Bool) : Round ClaimTable WorkspaceTable :=
      ⟨⟨{ available }, store⟩, strategy, identity, .cycling #[1]⟩
    provisioned ≠ .single ∧
    (((Strategy.emptyDir ⟨"scratch"⟩).provision cluster { workspaceId := "other" }).start
      ⟨provisioned, .cycling #[2]⟩).subject = ⟨provisioned, .cycling #[2]⟩ ∧
    ∀ ending ∈ reconcileRounds [again false, again true] reconciled,
      ending.subject.document = reconciled ∧
        ∀ report, ending.outcome = .ok report → report.isNoop = true := by
  intro store cluster strategy identity provisioned reconciled again
  have ⟨provisioning, reconciling⟩ := provision_absorbs cluster strategy identity
    ⟨.single, .cycling #[0]⟩ (.durable .standard) (by decide) rfl
  refine ⟨by decide, provisioning rfl cluster (.emptyDir ⟨"scratch"⟩)
    { workspaceId := "other" } _, ?_⟩
  refine reconciling _ rfl [again false, again true] fun round member => ?_
  rcases List.mem_pair.1 member with rfl | rfl <;> exact ⟨rfl, rfl⟩

end

end WorkspaceVolumes
