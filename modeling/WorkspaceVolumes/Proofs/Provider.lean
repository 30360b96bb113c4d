import WorkspaceVolumes.Proofs.Gain
import WorkspaceVolumes.Proofs.Queueing
import WorkspaceVolumes.Reconciler

/-!
# Who serves a workspace

Behind all overrides a workspace is served in one of three ways: not at all, for the life
of a pod, or durably.  Which it is depends on the store alone, and the store is only read,
so it is decided once: every operation of a strategy is the store's answer followed by
what the provider behind the strategy does.

**Failing.**  A run without an answer stops where it is.  What is left to fail behind an
answer is the listing of a durable provider, and it comes before anything is bound.

## Main definitions

* `transience`: the store's answer to whether a workspace gets transient storage.
* `Provider`, `Strategy.served`: what serves a workspace behind a strategy.
* `Provider.prepared`, `Provider.provisioned`, `Provider.reconciled`: what a provider does
  to a plan.

## Main statements

* `Strategy.prepare_actsAs`, `Strategy.provision_actsAs`: the operations of a strategy, at
  any nesting.
* `reconcile_actsAs`: reconciling is routing once, preparing, and binding.
-/

namespace WorkspaceVolumes

/-! ## Answers -/

namespace Run

variable {σ α β : Type}

/-- An action that waits for an answer.  Without the answer nothing happens. -/
def given (answer : Except VolumeError α) (next : α → σ → Except VolumeError β × σ) :
    σ → Except VolumeError β × σ := fun subject =>
  match answer with
  | .ok value => next value subject
  | .error fault => (.error fault, subject)

@[simp] theorem given_ok (value : α) (next : α → σ → Except VolumeError β × σ) (subject : σ) :
    given (.ok value) next subject = next value subject := rfl

@[simp] theorem given_error (fault : VolumeError) (next : α → σ → Except VolumeError β × σ)
    (subject : σ) : given (.error fault) next subject = (.error fault, subject) := rfl

/-- A run that asks first acts on the answer. -/
theorem ActsAs.bind_answer {first : Run σ α} {second : α → Run σ β}
    {answer : Except VolumeError α}
    {next : α → σ → Except VolumeError β × σ}
    (asks : first.ActsAs fun subject => (answer, subject))
    (follows : ∀ value, answer = .ok value → (second value).ActsAs (next value)) :
    (first >>= second).ActsAs (given answer next) := by
  intro state
  -- The trace may grow while asking; the rest depends on the subject, which stays.
  have here := asks state
  rw [on_bind]
  generalize first.on state = reached at here
  obtain ⟨outcome, left⟩ := reached
  obtain ⟨rfl, subject⟩ := Prod.mk.inj here
  cases outcome with
  | error fault => exact Prod.ext rfl subject
  | ok value =>
    have later := follows value rfl left
    rw [subject] at later
    exact later

/-- The answer of a run that asks and passes something on. -/
theorem ActsAs.map_answer {first : Run σ α} {second : α → Run σ β}
    {answer : Except VolumeError α}
    {pass : α → Except VolumeError β} (asks : first.ActsAs fun subject => (answer, subject))
    (follows : ∀ value, (second value).ActsAs fun subject => (pass value, subject)) :
    (first >>= second).ActsAs fun subject => (answer.bind pass, subject) := by
  have acts := asks.bind_answer fun value _ => follows value
  intro state
  rw [acts state]
  cases answer <;> rfl

end Run

/-! ## Routing -/

section

variable {ω σ : Type} [WorkspaceStore ω]

/-- What the store answers to whether a workspace is to get transient storage. -/
def transience (store : ω) (workspaceId : String) : Except VolumeError Bool :=
  match WorkspaceStore.getAttribute store workspaceId mountSourcesAttribute with
  | .ok value => .ok !asksForDurable value
  | .error fault =>
    if fault.isNotFound then .ok true else .error (.workspaceLookup workspaceId fault)

theorem isEphemeral_actsAs (store : ω) (workspaceId : String) :
    (isEphemeral store workspaceId : Run σ Bool).ActsAs fun subject =>
      (transience store workspaceId, subject) := by
  intro state
  rw [isEphemeral, transience]
  cases WorkspaceStore.getAttribute store workspaceId mountSourcesAttribute with
  | ok value => rfl
  | error fault =>
    dsimp only
    cases fault.isNotFound <;> rfl

end

/-- A way to provide storage, behind all overrides. -/
inductive Provider
  | none
  | emptyDir (strategy : EmptyDirStrategy)
  | durable (strategy : DurableStrategy)
  deriving DecidableEq

namespace Provider

/-- The key that a provider is reported under. -/
def name : Provider → String
  | none => noneKey
  | emptyDir _ => emptyDirKey
  | durable _ => commonKey

/-- A plan as a provider prepares it. -/
def prepared (workspaceId : String) (provider : Provider) (plan : Plan) : Plan :=
  match provider with
  | durable strategy => strategy.prepared workspaceId plan
  | _ => plan

/-- Preparing only lists more sub-paths. -/
theorem exists_prepared_eq (workspaceId : String) (provider : Provider) (plan : Plan) :
    ∃ subpaths : StringSet,
      provider.prepared workspaceId plan = ⟨{ plan.document with subpaths }, plan.draws⟩ ∧
        ∀ path ∈ plan.document.subpaths.toList, path ∈ subpaths.toList := by
  cases provider with
  | none | emptyDir strategy => exact ⟨plan.document.subpaths, rfl, fun _ member => member⟩
  | durable strategy =>
    rw [prepared, DurableStrategy.prepared]
    split
    · exact ⟨_, rfl, fun _ member => mem_queueAll.2 (.inl member)⟩
    · exact ⟨plan.document.subpaths, rfl, fun _ member => member⟩

section

variable {δ : Type} [ClaimDirectory δ]

/-- What a provider makes of a plan when it binds the declared volumes. -/
def provisioned (directory : δ) (workspaceId : String) (provider : Provider) (plan : Plan) :
    Except VolumeError Unit × Plan :=
  match provider with
  | none => (.ok (), plan)
  | emptyDir strategy => (.ok (), plan.bound workspaceId strategy.choose PodVolume.emptyDir)
  | durable strategy =>
    Run.given (ClaimDirectory.listByLabel directory workspaceIdLabel workspaceId)
      (fun listed plan => (.ok (), plan.bound workspaceId
        (strategy.choose workspaceId (DurableStrategy.existingClaims workspaceId listed))
        PodVolume.claim)) plan

/-- What a provider makes of a plan when a workspace is reconciled. -/
def reconciled (directory : δ) (workspaceId : String) (provider : Provider) (plan : Plan) :
    Except VolumeError ReconcileReport × Plan :=
  let ending := provider.provisioned directory workspaceId (provider.prepared workspaceId plan)
  (ending.1.map fun () =>
    .between workspaceId provider.name plan.document ending.2.document, ending.2)

/-- A provider that reports has bound the declared volumes, and tells what the document
has gained. -/
theorem eq_between_of_reconciled {directory : δ} {workspaceId : String} {provider : Provider}
    {plan : Plan} {report : ReconcileReport}
    (succeeds : (provider.reconciled directory workspaceId plan).1 = .ok report) :
    (provider.provisioned directory workspaceId (provider.prepared workspaceId plan)).1 =
      .ok () ∧
      report = .between workspaceId provider.name plan.document
        (provider.reconciled directory workspaceId plan).2.document := by
  rw [reconciled] at succeeds ⊢
  generalize provider.provisioned directory workspaceId
    (provider.prepared workspaceId plan) = ending
    at succeeds ⊢
  obtain ⟨outcome, later⟩ := ending
  cases outcome with
  | error fault => cases succeeds
  | ok =>
    cases succeeds
    exact ⟨rfl, rfl⟩

/-- Binding fails only if the provider is durable and its directory does not answer, and then
it has not started. -/
theorem provisioned_of_error {directory : δ} {workspaceId : String} {provider : Provider}
    {plan : Plan} {fault : VolumeError}
    (fails : (provider.provisioned directory workspaceId plan).1 = .error fault) :
    ∃ strategy, provider = .durable strategy ∧
      ClaimDirectory.listByLabel directory workspaceIdLabel workspaceId = .error fault ∧
      (provider.provisioned directory workspaceId plan).2 = plan := by
  cases provider with
  | none | emptyDir strategy => cases fails
  | durable strategy =>
    rw [provisioned] at fails ⊢
    cases listing : ClaimDirectory.listByLabel directory workspaceIdLabel workspaceId with
    | ok listed =>
      rw [listing] at fails
      cases fails
    | error found =>
      rw [listing] at fails
      cases fails
      exact ⟨strategy, rfl, rfl, rfl⟩

/-- Reconciling fails where binding does. -/
theorem reconciled_eq_error_iff_provisioned {directory : δ} {workspaceId : String}
    {provider : Provider} {plan : Plan} {fault : VolumeError} :
    (provider.reconciled directory workspaceId plan).1 = .error fault ↔
      (provider.provisioned directory workspaceId
        (provider.prepared workspaceId plan)).1 = .error fault := by
  rw [reconciled]
  cases (provider.provisioned directory workspaceId (provider.prepared workspaceId plan)).1 <;>
    simp [Except.map]

end

end Provider

/-- The durable strategy of the default settings. -/
def DurableStrategy.standard : DurableStrategy :=
  ⟨"claim-workspace", "10Gi", .readWriteOnce, true⟩

example : DurableStrategy.ofSettings {} = .ok .standard := rfl

/-! ## Choosers -/

theorem EmptyDirStrategy.ignoresReports_choose (strategy : EmptyDirStrategy) :
    strategy.choose.IgnoresReports := fun _ _ => rfl

/-- Storage for the life of a pod needs no claims. -/
theorem EmptyDirStrategy.claims_left (strategy : EmptyDirStrategy) (plan : Plan) :
    (plan.left strategy.choose).claims = plan.document.claims :=
  Chooser.allot_induction (motive := fun _ left => left.claims = plan.document.claims) rfl
    fun _ _ _ _ unchanged => unchanged

theorem DurableStrategy.ignoresReports_choose (strategy : DurableStrategy)
    (workspaceId : String)
    (existing : StringMap String) : (strategy.choose workspaceId existing).IgnoresReports := by
  intro volumeName supplies
  simp only [Chooser.pick, choose, Supplies.stock]
  cases existing.get? volumeName with
  | some name => rfl
  | none =>
    dsimp only
    cases (claimsByVolume supplies.claims.values).get? volumeName <;> rfl

theorem EmptyDirStrategy.provision_actsAs (strategy : EmptyDirStrategy) (identity : Identity) :
    (strategy.provision identity).ActsAs fun plan =>
      (.ok (), plan.bound identity.workspaceId strategy.choose PodVolume.emptyDir) :=
  bindAll_actsAs identity.workspaceId PodVolume.emptyDir strategy.ignoresReports_choose

/-- A pass for the life of a pod succeeds. -/
theorem EmptyDirStrategy.start_provision (strategy : EmptyDirStrategy) (identity : Identity)
    (plan : Plan) :
    ((strategy.provision identity).start plan).outcome = .ok () ∧
      ((strategy.provision identity).start plan).subject =
        plan.bound identity.workspaceId strategy.choose PodVolume.emptyDir :=
  ⟨(strategy.provision_actsAs identity).outcome_start plan,
    (strategy.provision_actsAs identity).subject_start plan⟩

theorem DurableStrategy.provision_actsAs {δ : Type} [ClaimDirectory δ] (directory : δ)
    (strategy : DurableStrategy) (identity : Identity) :
    (strategy.provision directory identity).ActsAs
      ((Provider.durable strategy).provisioned directory identity.workspaceId) :=
  (Run.actsAs_ofExcept _).bind_answer fun listed _ =>
    bindAll_actsAs identity.workspaceId PodVolume.claim
      (strategy.ignoresReports_choose identity.workspaceId
        (existingClaims identity.workspaceId listed))

/-! ## Strategies -/

namespace Strategy

section

variable {ω : Type} [WorkspaceStore ω]

/-- What serves a workspace behind a strategy. -/
def served (store : ω) (workspaceId : String) : Strategy → Except VolumeError Provider
  | none => .ok .none
  | emptyDir strategy => .ok (.emptyDir strategy)
  | durable strategy => .ok (.durable strategy)
  | override persistent transient =>
    (transience store workspaceId).bind fun ephemeral =>
      if ephemeral then .ok (.emptyDir transient) else persistent.served store workspaceId

/-- The strategy that an override hands a workspace to; the other strategies keep it. -/
def effective (store : ω) (workspaceId : String) : Strategy → Except VolumeError Strategy
  | override persistent transient =>
    (transience store workspaceId).bind fun ephemeral =>
      .ok (if ephemeral then emptyDir transient else persistent)
  | strategy => .ok strategy

/-- Handing a workspace over does not change who serves it in the end. -/
theorem served_eq_bind (store : ω) (workspaceId : String) (strategy : Strategy) :
    strategy.served store workspaceId =
      (strategy.effective store workspaceId).bind (served store workspaceId) := by
  cases strategy with
  | none | emptyDir strategy | durable strategy => rfl
  | override persistent transient =>
    rw [served, effective]
    cases transience store workspaceId with
    | error fault => rfl
    | ok ephemeral => cases ephemeral <;> rfl

/-- A workspace that asks for durable storage is served under the name of the strategy. -/
theorem name_of_served {store : ω} {workspaceId : String} {strategy : Strategy}
    {provider : Provider} (durably : transience store workspaceId = .ok false)
    (serves : strategy.served store workspaceId = .ok provider) :
    strategy.name = provider.name := by
  induction strategy with
  | none | emptyDir strategy | durable strategy =>
    cases serves
    rfl
  | override persistent transient ih =>
    rw [served, durably] at serves
    exact ih serves

/-- A workspace is served under the name of the strategy that it is handed to. -/
theorem name_of_effective {store : ω} {workspaceId : String} {strategy chosen : Strategy}
    {provider : Provider} (hands : strategy.effective store workspaceId = .ok chosen)
    (serves : chosen.served store workspaceId = .ok provider) :
    chosen.name = provider.name := by
  cases strategy with
  | none | emptyDir strategy | durable strategy =>
    cases hands
    cases serves
    rfl
  | override persistent transient =>
    rw [effective] at hands
    cases answer : transience store workspaceId with
    | error fault =>
      rw [answer] at hands
      cases hands
    | ok ephemeral =>
      rw [answer] at hands
      cases ephemeral with
      | true =>
        cases hands
        cases serves
        rfl
      | false =>
        cases hands
        exact name_of_served answer serves

/-- An override asks the store first, and then does what the strategy does that it hands
over to. -/
theorem override_actsAs {σ β : Type} {store : ω} {workspaceId : String} {persistent : Strategy}
    {transient : EmptyDirStrategy} {transiently durably : Run σ β}
    {does : Provider → σ → Except VolumeError β × σ}
    (whenTransient : transiently.ActsAs (does (.emptyDir transient)))
    (whenDurable : durably.ActsAs (Run.given (persistent.served store workspaceId) does)) :
    (isEphemeral store workspaceId >>= fun ephemeral =>
        if ephemeral then transiently else durably).ActsAs
      (Run.given ((override persistent transient).served store workspaceId) does) := by
  have acts : (isEphemeral store workspaceId >>= fun ephemeral =>
      if ephemeral then transiently else durably).ActsAs
        (Run.given (transience store workspaceId) fun ephemeral =>
          if ephemeral then does (.emptyDir transient)
          else Run.given (persistent.served store workspaceId) does) := by
    refine (isEphemeral_actsAs store workspaceId).bind_answer fun ephemeral _ => ?_
    cases ephemeral with
    | true => exact whenTransient
    | false => exact whenDurable
  refine acts.of_eq fun subject => ?_
  rw [served]
  cases transience store workspaceId with
  | error fault => rfl
  | ok ephemeral => cases ephemeral <;> rfl

/-- Preparing with a strategy is routing, and preparing with what serves the workspace. -/
theorem prepare_actsAs (store : ω) (workspaceId : String) (strategy : Strategy) :
    (strategy.prepare store workspaceId).ActsAs
      (Run.given (strategy.served store workspaceId) fun provider plan =>
        (.ok (), provider.prepared workspaceId plan)) := by
  induction strategy with
  | none | emptyDir strategy => exact Run.actsAs_pure _
  | durable strategy => exact strategy.prepare_actsAs workspaceId
  | override persistent transient ih => exact override_actsAs (Run.actsAs_pure _) ih

/-- Binding with a strategy is routing, and binding with what serves the workspace. -/
theorem provision_actsAs {δ : Type} [ClaimDirectory δ] (cluster : Cluster δ ω)
    (identity : Identity) (strategy : Strategy) :
    (strategy.provision cluster identity).ActsAs
      (Run.given (strategy.served cluster.store identity.workspaceId)
        (Provider.provisioned cluster.directory identity.workspaceId)) := by
  induction strategy with
  | none => exact Run.actsAs_pure _
  | emptyDir strategy => exact strategy.provision_actsAs identity
  | durable strategy => exact strategy.provision_actsAs cluster.directory identity
  | override persistent transient ih =>
    exact override_actsAs (transient.provision_actsAs identity) ih

end

end Strategy

/-! ## Reconciling -/

section

variable {δ ω : Type} [ClaimDirectory δ] [WorkspaceStore ω]

/-- An override resolves to one of its two strategies, by the answer of the store. -/
theorem Strategy.resolve_override_actsAs {σ : Type} (store : ω) (workspaceId : String)
    (persistent : Strategy) (transient : EmptyDirStrategy) :
    ((override persistent transient).resolve store workspaceId : Run σ (Option Strategy)).ActsAs
      fun subject => ((transience store workspaceId).bind fun ephemeral =>
        .ok (some (if ephemeral then emptyDir transient else persistent)), subject) :=
  (isEphemeral_actsAs store workspaceId).map_answer fun ephemeral => by
    cases ephemeral <;> exact fun _ => rfl

/-- Handing a workspace over changes nothing. -/
theorem effectiveStrategy_actsAs {σ : Type} (store : ω) (strategy : Strategy)
    (workspaceId : String) :
    (effectiveStrategy store strategy workspaceId : Run σ Strategy).ActsAs fun subject =>
      (strategy.effective store workspaceId, subject) := by
  cases strategy with
  | none | emptyDir strategy | durable strategy => exact fun _ => rfl
  | override persistent transient =>
    have resolves := Strategy.resolve_override_actsAs (σ := σ) store workspaceId persistent
      transient
    have acts : (effectiveStrategy store (.override persistent transient) workspaceId :
        Run σ Strategy).ActsAs fun subject =>
          (((transience store workspaceId).bind fun ephemeral =>
            .ok (some (if ephemeral then Strategy.emptyDir transient else persistent))).bind
              fun chosen => .ok (chosen.getD (.override persistent transient)), subject) :=
      resolves.map_answer fun chosen => fun _ => rfl
    refine acts.of_eq fun subject => ?_
    rw [Strategy.effective]
    cases transience store workspaceId <;> rfl

/-- What follows once a workspace has been handed to a strategy: the routing is repeated
for preparing and for binding, and gives the same provider both times. -/
theorem reconcileWith_actsAs (cluster : Cluster δ ω) (chosen : Strategy) (identity : Identity)
    (named : ∀ provider, chosen.served cluster.store identity.workspaceId = .ok provider →
      chosen.name = provider.name) :
    (do
      let earlier ← Run.subject
      chosen.prepare cluster.store identity.workspaceId
      chosen.provision cluster identity
      let later ← Run.subject
      let report :=
        ReconcileReport.between identity.workspaceId chosen.name earlier.document later.document
      Run.report [report.notice]
      return report : Run Plan ReconcileReport).ActsAs
      (Run.given (chosen.served cluster.store identity.workspaceId)
        (Provider.reconciled cluster.directory identity.workspaceId)) := by
  refine Run.ActsAs.of_eq (Run.actsAs_subject.bind fun earlier =>
    (chosen.prepare_actsAs cluster.store identity.workspaceId).bind fun _ =>
      (chosen.provision_actsAs cluster identity).bind fun _ =>
        Run.actsAs_subject.bind fun later =>
          (Run.actsAs_report _).bind fun _ => Run.actsAs_pure _) fun plan => ?_
  -- Preparing and binding are routed by the same answer of the store.
  cases serves : chosen.served cluster.store identity.workspaceId with
  | error fault => rfl
  | ok provider =>
    simp only [Run.sequence, Run.given_ok, named provider serves, Provider.reconciled]
    generalize provider.provisioned cluster.directory identity.workspaceId
      (provider.prepared identity.workspaceId plan) = ending
    obtain ⟨outcome, later⟩ := ending
    cases outcome <;> rfl

/-- **Reconciling is routing once, preparing, and binding.**  The report tells of the
provider, and of what the document has gained. -/
theorem reconcile_actsAs (cluster : Cluster δ ω) (strategy : Strategy) (identity : Identity) :
    (reconcile cluster strategy identity).ActsAs
      (Run.given (strategy.served cluster.store identity.workspaceId)
        (Provider.reconciled cluster.directory identity.workspaceId)) := by
  refine Run.ActsAs.within ?_ .info "reconcile" _
  refine ((effectiveStrategy_actsAs cluster.store strategy identity.workspaceId).bind_answer
    fun chosen hands => reconcileWith_actsAs cluster chosen identity fun provider serves =>
      Strategy.name_of_effective hands serves).of_eq fun plan => ?_
  rw [Strategy.served_eq_bind]
  cases strategy.effective cluster.store identity.workspaceId <;> rfl

end

end WorkspaceVolumes
