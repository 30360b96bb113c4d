import WorkspaceVolumes.Proofs.Routing

/-!
# Outages

The engine has two collaborators that can be out of order, and nothing else of it can fail:
what is done at a declared volume never does.  A strategy that is an override asks the
store, and only then is it known whether the directory is needed.  So an operation fails
just where one of the two does not answer that it has to ask, and of two outages the store's
is the one that is seen.

**One failure, one place.**  Every operation waits for who serves the workspace, and then the
provider acts on its subject.  Whether the provider fails depends on the directory alone and
is the same question for all operations, so there is one lemma for all of them
(`error_iff_outage_of_actsAs`).

**Atomic operations.**  Preparing, binding and cleaning up ask before they change anything,
so a failure of one of them leaves its subject alone.  That is not so of reconciling, which
is preparing and then binding.

## Main definitions

* `Run.Atomic`: runs that change nothing where they fail.
* `Outage`: the outages that an operation meets, with the errors that they are seen as.
* `Provider.Fails`: when a provider fails.

## Main statements

* `Strategy.served_eq_error_iff`: when it cannot be told who serves a workspace.
* `fails_iff_outage`: failures are exactly outages, and single operations are atomic.
-/

namespace WorkspaceVolumes

/-! ## Runs that fail -/

namespace Run

variable {σ α β : Type}

/-- A run that leaves its subject as it was wherever it fails. -/
def Atomic (run : Run σ α) : Prop :=
  ∀ subject fault, (run.start subject).outcome = .error fault →
    (run.start subject).subject = subject

/-- An action that waits for an answer fails without the answer, or with it. -/
theorem given_eq_error_iff {answer : Except VolumeError α}
    {next : α → σ → Except VolumeError β × σ} {subject : σ} {fault : VolumeError} :
    (given answer next subject).1 = .error fault ↔
      answer = .error fault ∨
        ∃ value, answer = .ok value ∧ (next value subject).1 = .error fault := by
  cases answer with
  | ok value => simp
  | error found => simp

/-- A run that waits for an answer is atomic if what follows the answer is. -/
theorem ActsAs.atomic_given {run : Run σ β} {answer : Except VolumeError α}
    {next : α → σ → Except VolumeError β × σ} (acts : run.ActsAs (given answer next))
    (keeps : ∀ value subject fault, (next value subject).1 = .error fault →
      (next value subject).2 = subject) : run.Atomic := by
  intro subject fault fails
  rw [acts.outcome_start, given_eq_error_iff] at fails
  rw [acts.subject_start]
  obtain rfl | ⟨value, rfl, later⟩ := fails
  · rfl
  · exact keeps value subject fault later

end Run

/-! ## The store -/

/-- Whether a strategy is an override, which is one that asks the store. -/
def Strategy.isOverride : Strategy → Bool
  | override _ _ => true
  | _ => false

/-- A store that does not answer says nothing about a workspace. -/
theorem transience_of_unavailable {table : WorkspaceTable} (down : table.available = false)
    (workspaceId : String) :
    transience table workspaceId = .error (.workspaceLookup workspaceId .storeUnavailable) := by
  have asked : WorkspaceStore.getAttribute table workspaceId mountSourcesAttribute =
      .error .storeUnavailable := by
    show table.getAttribute workspaceId mountSourcesAttribute = _
    rw [WorkspaceTable.getAttribute, if_neg (by simp [down])]
  rw [transience, asked]
  rfl

namespace Strategy

variable {store : WorkspaceTable} {workspaceId : String} {strategy : Strategy}

/-- A store that answers tells who serves a workspace, at any nesting. -/
theorem exists_served (answers : store.available = true) :
    ∃ provider, strategy.served store workspaceId = .ok provider := by
  induction strategy with
  | none | emptyDir strategy | durable strategy => exact ⟨_, rfl⟩
  | override persistent transient ih =>
    rw [served, transience_of_available answers]
    cases asksForDurable ((store.attributes workspaceId).get? mountSourcesAttribute) with
    | true => exact ih
    | false => exact ⟨_, rfl⟩

/-- It cannot be told who serves a workspace just if an override has to ask a store that does
not answer. -/
theorem served_eq_error_iff {fault : VolumeError} :
    strategy.served store workspaceId = .error fault ↔
      strategy.isOverride = true ∧ store.available = false ∧
        fault = .workspaceLookup workspaceId .storeUnavailable := by
  cases answers : store.available with
  | true =>
    obtain ⟨provider, serves⟩ : ∃ provider, strategy.served store workspaceId = .ok provider :=
      exists_served answers
    simp [serves]
  | false =>
    cases strategy with
    | none | emptyDir strategy | durable strategy => simp [served, isOverride]
    | override persistent transient =>
      rw [served, transience_of_unavailable answers]
      simp [Except.bind, isOverride, eq_comm]

/-- A workspace that the store has never heard of is served for the life of its pods by every
override. -/
theorem served_of_unknown (asks : strategy.isOverride = true) (answers : store.available = true)
    (unknown : store.workspaces.get? workspaceId = Option.none) :
    ∃ transient, strategy.served store workspaceId = .ok (.emptyDir transient) := by
  cases strategy with
  | none | emptyDir strategy | durable strategy => cases asks
  | override persistent transient =>
    rw [served, transience_of_available answers, WorkspaceTable.attributes, unknown]
    exact ⟨transient, rfl⟩

end Strategy

/-! ## The directory -/

/-- Whether a provider fails with a directory, and how: it does if it is durable and the
directory does not answer. -/
def Provider.Fails (directory : ClaimTable) (provider : Provider) (fault : VolumeError) : Prop :=
  (∃ durable, provider = .durable durable) ∧ directory.available = false ∧
    fault = .directoryUnavailable

namespace Provider

variable {directory : ClaimTable} {workspaceId : String} {provider : Provider} {plan : Plan}
  {fault : VolumeError}

theorem provisioned_eq_error_iff :
    (provider.provisioned directory workspaceId plan).1 = .error fault ↔
      provider.Fails directory fault := by
  cases provider with
  | none | emptyDir strategy => simp [provisioned, Fails]
  | durable strategy =>
    have asked : ClaimDirectory.listByLabel directory workspaceIdLabel workspaceId =
        directory.list workspaceIdLabel workspaceId := rfl
    rw [provisioned, asked, ClaimTable.list]
    cases answers : directory.available <;> simp [Fails, answers, eq_comm]

/-- Reconciling fails where binding does. -/
theorem reconciled_eq_error_iff :
    (provider.reconciled directory workspaceId plan).1 = .error fault ↔
      provider.Fails directory fault :=
  reconciled_eq_error_iff_provisioned.trans provisioned_eq_error_iff

theorem released_eq_error_iff :
    (provider.released workspaceId directory).1 = .error fault ↔
      provider.Fails directory fault := by
  cases provider with
  | none | emptyDir strategy => simp [released, Fails]
  | durable strategy =>
    have asked : ClaimDirectory.deleteByLabel directory workspaceIdLabel workspaceId =
        directory.delete workspaceIdLabel workspaceId := rfl
    simp only [released, asked, ClaimTable.delete]
    cases answers : directory.available <;> simp [Fails, answers, Except.map, eq_comm]

/-- A directory that does not answer deletes nothing. -/
theorem released_of_error (fails : (provider.released workspaceId directory).1 = .error fault) :
    (provider.released workspaceId directory).2 = directory := by
  obtain ⟨⟨durable, rfl⟩, down, -⟩ := released_eq_error_iff.1 fails
  show (directory.delete workspaceIdLabel workspaceId).2 = directory
  rw [ClaimTable.delete, if_neg (by simp [down])]

end Provider

/-! ## Outages -/

/-- The outages that an operation of a strategy meets for a workspace, each with the error
that is seen of it.  That of the store is only met by an override, and is told with the name
of the workspace; that of the directory is only met where the workspace is served durably, and
is told as it is. -/
inductive Outage (cluster : Cluster ClaimTable WorkspaceTable) (strategy : Strategy)
    (workspaceId : String) : VolumeError → Prop
  | store (asks : strategy.isOverride = true) (down : cluster.store.available = false) :
    Outage cluster strategy workspaceId (.workspaceLookup workspaceId .storeUnavailable)
  | directory {durable : DurableStrategy}
    (serves : strategy.served cluster.store workspaceId = .ok (.durable durable))
    (down : cluster.directory.available = false) :
    Outage cluster strategy workspaceId .directoryUnavailable

section

variable {cluster : Cluster ClaimTable WorkspaceTable} {strategy : Strategy}
  {workspaceId : String} {fault : VolumeError}

theorem outage_iff :
    Outage cluster strategy workspaceId fault ↔
      strategy.served cluster.store workspaceId = .error fault ∨
        ∃ provider, strategy.served cluster.store workspaceId = .ok provider ∧
          provider.Fails cluster.directory fault := by
  rw [Strategy.served_eq_error_iff]
  constructor
  · rintro (⟨asks, down⟩ | ⟨serves, down⟩)
    · exact .inl ⟨asks, down, rfl⟩
    · exact .inr ⟨_, serves, ⟨_, rfl⟩, down, rfl⟩
  · rintro (⟨asks, down, rfl⟩ | ⟨_, serves, ⟨durable, rfl⟩, down, rfl⟩)
    · exact .store asks down
    · exact .directory serves down

theorem exists_outage_iff :
    (∃ fault, Outage cluster strategy workspaceId fault) ↔
      (strategy.isOverride = true ∧ cluster.store.available = false) ∨
        (∃ durable, strategy.served cluster.store workspaceId = .ok (.durable durable)) ∧
          cluster.directory.available = false := by
  constructor
  · rintro ⟨_, ⟨asks, down⟩ | ⟨serves, down⟩⟩
    · exact .inl ⟨asks, down⟩
    · exact .inr ⟨⟨_, serves⟩, down⟩
  · rintro (⟨asks, down⟩ | ⟨⟨_, serves⟩, down⟩)
    · exact ⟨_, .store asks down⟩
    · exact ⟨_, .directory serves down⟩

/-- An operation that is routed to a provider fails just by an outage, if the provider
does. -/
theorem error_iff_outage_of_actsAs {σ α : Type} {run : Run σ α}
    {does : Provider → σ → Except VolumeError α × σ} {subject : σ}
    (acts : run.ActsAs (Run.given (strategy.served cluster.store workspaceId) does))
    (fails : ∀ provider, (does provider subject).1 = .error fault ↔
      provider.Fails cluster.directory fault) :
    (run.start subject).outcome = .error fault ↔
      Outage cluster strategy workspaceId fault := by
  rw [acts.outcome_start, Run.given_eq_error_iff, outage_iff]
  simp only [fails]

namespace Outage

/-- Every outage is told as one of the infrastructure. -/
theorem kind_eq (outage : Outage cluster strategy workspaceId fault) :
    fault.kind = .infrastructure := by
  cases outage <;> rfl

/-- Where an override meets a store that does not answer, that is all that is seen: the error
of the store, with the name of the workspace before it. -/
theorem exists_cause (outage : Outage cluster strategy workspaceId fault)
    (asks : strategy.isOverride = true) (down : cluster.store.available = false) :
    ∃ cause, cluster.store.getAttribute workspaceId mountSourcesAttribute = .error cause ∧
      fault = .infrastructure
        s!"Failed to load workspace info for {workspaceId}: {cause.message}" := by
  cases outage with
  | store =>
    refine ⟨.storeUnavailable, ?_, rfl⟩
    rw [WorkspaceTable.getAttribute, if_neg (by simp [down])]
  | directory serves =>
    have refused : strategy.served cluster.store workspaceId = .error _ :=
      Strategy.served_eq_error_iff.2 ⟨asks, down, rfl⟩
    cases serves.symm.trans refused

/-- Otherwise it is the directory that does not answer, and what is seen is what it answers
itself, whatever it is asked for. -/
theorem eq_answer (outage : Outage cluster strategy workspaceId fault)
    (otherwise : ¬ (strategy.isOverride = true ∧ cluster.store.available = false)) :
    ∀ key value, cluster.directory.list key value = .error fault ∧
      (cluster.directory.delete key value).1 = .error fault := by
  cases outage with
  | store asks down => exact absurd ⟨asks, down⟩ otherwise
  | directory serves down =>
    intro key value
    rw [ClaimTable.list, ClaimTable.delete, if_neg (by simp [down]), if_neg (by simp [down])]
    exact ⟨rfl, rfl⟩

end Outage

end

/-! ## Operations -/

section

variable (cluster : Cluster ClaimTable WorkspaceTable) (strategy : Strategy)
  (identity : Identity) (plan : Plan) (fault : VolumeError)

theorem reconcile_eq_error_iff :
    ((reconcile cluster strategy identity).start plan).outcome = .error fault ↔
      Outage cluster strategy identity.workspaceId fault :=
  error_iff_outage_of_actsAs (reconcile_actsAs cluster strategy identity)
    fun _ => Provider.reconciled_eq_error_iff

theorem release_eq_error_iff :
    ((release cluster.store strategy identity.workspaceId).start
        cluster.directory).outcome = .error fault ↔
      Outage cluster strategy identity.workspaceId fault :=
  error_iff_outage_of_actsAs (release_actsAs cluster.store strategy identity.workspaceId)
    fun _ => Provider.released_eq_error_iff

theorem provision_eq_error_iff :
    ((strategy.provision cluster identity).start plan).outcome = .error fault ↔
      Outage cluster strategy identity.workspaceId fault :=
  error_iff_outage_of_actsAs (strategy.provision_actsAs cluster identity)
    fun _ => Provider.provisioned_eq_error_iff

theorem cleanup_eq_error_iff :
    ((strategy.cleanup cluster.store identity.workspaceId).start
        cluster.directory).outcome = .error fault ↔
      Outage cluster strategy identity.workspaceId fault :=
  error_iff_outage_of_actsAs (strategy.cleanup_actsAs cluster.store identity.workspaceId)
    fun _ => Provider.released_eq_error_iff

/-- Preparing asks nobody but the store. -/
theorem prepare_eq_error_iff (workspaceId : String) :
    ((strategy.prepare cluster.store workspaceId).start plan).outcome = .error fault ↔
      strategy.isOverride = true ∧ cluster.store.available = false ∧
        fault = .workspaceLookup workspaceId .storeUnavailable := by
  rw [(strategy.prepare_actsAs cluster.store workspaceId).outcome_start, Run.given_eq_error_iff,
    Strategy.served_eq_error_iff]
  simp

/-- Where an override is told that a workspace is not known, nobody else is asked. -/
theorem succeeds_of_unknown (asks : strategy.isOverride = true)
    (answers : cluster.store.available = true)
    (unknown : cluster.store.workspaces.get? identity.workspaceId = none) :
    (∃ report, ((reconcile cluster strategy identity).start plan).outcome = .ok report) ∧
      ((release cluster.store strategy identity.workspaceId).start
        cluster.directory).outcome = .ok () := by
  obtain ⟨transient, serves⟩ := Strategy.served_of_unknown asks answers unknown
  rw [(reconcile_actsAs cluster strategy identity).outcome_start,
    (release_actsAs cluster.store strategy identity.workspaceId).outcome_start, serves]
  exact ⟨⟨_, rfl⟩, rfl⟩

end

/-- **Failures are exactly outages.**  Take the collaborators in memory, with whatever they
hold.  Reconciling a workspace, and releasing it, fail in the same cases: the strategy is an
override and the store does not answer, or the workspace is served durably and the directory
does not answer.  The error is one of the infrastructure.  If the store is out, it is the
store's own error behind the name of the workspace, whatever the directory does; otherwise it
is what the directory itself answers.  A workspace that the store has never heard of is no
reason to fail, for then even the directory is not needed.

Preparing fails just if the store is out for an override, and binding and cleaning up fail
where reconciling does.  Where one of the three fails, its subject is as it was before: the
document and the random numbers, or the directory. -/
theorem fails_iff_outage (cluster : Cluster ClaimTable WorkspaceTable) (strategy : Strategy)
    (identity : Identity) (plan : Plan) :
    let workspaceId := identity.workspaceId
    let storeOut := strategy.isOverride = true ∧ cluster.store.available = false
    let directoryOut :=
      (∃ durable, strategy.served cluster.store workspaceId = .ok (.durable durable)) ∧
        cluster.directory.available = false
    let reconciled := ((reconcile cluster strategy identity).start plan).outcome
    let released :=
      ((release cluster.store strategy workspaceId).start cluster.directory).outcome
    let prepares := strategy.prepare cluster.store workspaceId
    let provisions := strategy.provision cluster identity
    let cleansUp : Run ClaimTable Unit := strategy.cleanup cluster.store workspaceId
    ((∃ fault, reconciled = .error fault) ↔ storeOut ∨ directoryOut) ∧
    ((∃ fault, released = .error fault) ↔ storeOut ∨ directoryOut) ∧
    (∀ fault, reconciled = .error fault ∨ released = .error fault →
      fault.kind = .infrastructure ∧
      (storeOut → ∃ cause,
        cluster.store.getAttribute workspaceId mountSourcesAttribute = .error cause ∧
        fault = .infrastructure
          s!"Failed to load workspace info for {workspaceId}: {cause.message}") ∧
      (¬ storeOut → cluster.directory.list workspaceIdLabel workspaceId = .error fault ∧
        (cluster.directory.delete workspaceIdLabel workspaceId).1 = .error fault)) ∧
    (strategy.isOverride = true → cluster.store.available = true →
      cluster.store.workspaces.get? workspaceId = none →
        (∃ report, reconciled = .ok report) ∧ released = .ok ()) ∧
    ((∃ fault, (prepares.start plan).outcome = .error fault) ↔ storeOut) ∧
    ((∃ fault, (provisions.start plan).outcome = .error fault) ↔ storeOut ∨ directoryOut) ∧
    ((∃ fault, (cleansUp.start cluster.directory).outcome = .error fault) ↔
      storeOut ∨ directoryOut) ∧
    prepares.Atomic ∧ provisions.Atomic ∧ cleansUp.Atomic := by
  intro workspaceId storeOut directoryOut reconciled released prepares provisions cleansUp
  have outages : (∃ fault, Outage cluster strategy workspaceId fault) ↔
      storeOut ∨ directoryOut := exists_outage_iff
  have reconciling := reconcile_eq_error_iff cluster strategy identity plan
  have releasing := release_eq_error_iff cluster strategy identity
  refine ⟨?_, ?_, ?_, succeeds_of_unknown cluster strategy identity plan, ?_, ?_, ?_, ?_, ?_, ?_⟩
  · exact (exists_congr reconciling).trans outages
  · exact (exists_congr releasing).trans outages
  · intro fault fails
    have outage := fails.elim (reconciling fault).1 (releasing fault).1
    exact ⟨outage.kind_eq, fun ⟨asks, down⟩ => outage.exists_cause asks down,
      fun otherwise => outage.eq_answer otherwise workspaceIdLabel workspaceId⟩
  · refine (exists_congr fun fault =>
      prepare_eq_error_iff cluster strategy plan fault workspaceId).trans ?_
    exact ⟨fun ⟨_, asks, down, _⟩ => ⟨asks, down⟩, fun ⟨asks, down⟩ => ⟨_, asks, down, rfl⟩⟩
  · exact (exists_congr (provision_eq_error_iff cluster strategy identity plan)).trans outages
  · exact (exists_congr (cleanup_eq_error_iff cluster strategy identity)).trans outages
  · exact (strategy.prepare_actsAs cluster.store workspaceId).atomic_given
      fun _ _ _ fails => nomatch fails
  · refine (strategy.provision_actsAs cluster identity).atomic_given fun _ _ _ fails => ?_
    obtain ⟨-, -, -, kept⟩ := Provider.provisioned_of_error fails
    exact kept
  · exact (strategy.cleanup_actsAs cluster.store workspaceId).atomic_given
      fun _ _ _ fails => Provider.released_of_error fails

/-- Both collaborators are out, and only the store's outage is seen.  When the store answers
again, the directory's is; and then a workspace that is not known gets what it needs. -/
theorem fails_iff_outage_both :
    let strategy := Strategy.override (.durable .standard) ⟨"scratch"⟩
    let known := ({} : WorkspaceTable).setAttribute "ws" mountSourcesAttribute "true"
    let cluster (available : Bool) : Cluster ClaimTable WorkspaceTable :=
      ⟨{ available := false }, { known with available }⟩
    let plan : Plan := ⟨.single, .cycling #[0]⟩
    let reconciled (available : Bool) (workspaceId : String) :=
      ((reconcile (cluster available) strategy { workspaceId }).start plan).outcome
    (∀ fault, reconciled false "ws" = .error fault → fault.message =
      "Infrastructure error: Failed to load workspace info for ws: " ++
        "Infrastructure error: workspace store is unavailable") ∧
    (∃ fault, reconciled false "ws" = .error fault) ∧
    (∃ fault, reconciled true "ws" = .error fault) ∧
    (∃ report, reconciled true "unknown" = .ok report) ∧
    (strategy.provision (cluster true) { workspaceId := "ws" }).Atomic := by
  intro strategy known cluster plan reconciled
  obtain ⟨storeFails, -, storeError, -⟩ :=
    fails_iff_outage (cluster false) strategy { workspaceId := "ws" } plan
  obtain ⟨directoryFails, -, -, -, -, -, -, -, atomic, -⟩ :=
    fails_iff_outage (cluster true) strategy { workspaceId := "ws" } plan
  obtain ⟨-, -, -, unknown, -⟩ :=
    fails_iff_outage (cluster true) strategy { workspaceId := "unknown" } plan
  refine ⟨fun fault fails => ?_, storeFails.2 (.inl ⟨rfl, rfl⟩),
    directoryFails.2 (.inr ⟨⟨.standard, rfl⟩, rfl⟩), (unknown rfl rfl rfl).1, atomic⟩
  obtain ⟨-, stored, -⟩ := storeError fault (.inl fails)
  obtain ⟨cause, asked, rfl⟩ := stored ⟨rfl, rfl⟩
  cases asked
  rfl

end WorkspaceVolumes
