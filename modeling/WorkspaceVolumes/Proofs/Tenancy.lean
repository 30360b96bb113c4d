import WorkspaceVolumes.Proofs.Directory

/-!
# Whose claims are mounted

A durable pass for a workspace should mount claims of that workspace alone.  What it finds
in the directory is sorted by workspace, and what it makes is labelled with the workspace;
but a claim that the document plans is taken by the label of its volume, whoever it
belongs to.  So isolation depends on the document.

**Exactly when.**  As long as no drawn name is taken in the document, a pass is isolated
if, and only if, each volume that it has to look up in the document is planned there as a
claim of the workspace (`provision_isolated_iff`).  Without that assumption a made claim
may put a planned one out of the way, and isolation holds for documents that plan volumes
for the workspace alone.

## Main definitions

* `Document.Wants`: a volume that some container is still to get.
* `Owned`, `Isolated`: names of claims of a workspace, and passes that mount nothing else.

## Main statements

* `provision_isolated_iff`: the exact condition, and one that does not mention the names.
* `not_provision_isolated`: a claim of another workspace that is mounted.
-/

namespace WorkspaceVolumes

/-- Whether some container is still to get a volume: a path of it is for the volume, and
is not bound. -/
def Document.Wants (document : Document) (volumeName : String) : Prop :=
  ∃ key pod index path, document.pods.get? key = some pod ∧ pod.binds index path = false ∧
    document.volumeAt? key index path = some volumeName

theorem Document.wants_iff {document : Document} {volumeName : String} :
    document.Wants volumeName ↔
      ∃ site ∈ document.openings, site.declaration.volumeName = volumeName := by
  constructor
  · rintro ⟨key, pod, index, path, found, free, declared⟩
    obtain ⟨site, isOpen, -, -, -, volume⟩ := exists_mem_openings found free declared
    exact ⟨site, isOpen, volume⟩
  · rintro ⟨site, isOpen, rfl⟩
    obtain ⟨pod, found, free, -⟩ := mem_openings_iff.1 isOpen
    exact ⟨site.pod, pod, site.index, site.declaration.path, found, free,
      volumeAt?_of_mem_openings isOpen⟩

/-- Whether a name is that of a claim of a workspace, among those that are listed and
those of a table. -/
def Owned (workspaceId : String) (listed : List Claim) (claims : StringMap Claim)
    (name : String) : Prop :=
  ∃ claim, (claim ∈ listed ∨ claim ∈ claims.values) ∧ claim.name = name ∧
    claim.label? workspaceIdLabel = some workspaceId

/-- Whether every mount that was gained names a claim of a workspace, as listed or in the
later document. -/
def Isolated (workspaceId : String) (listed : List Claim) (earlier later : Document) : Prop :=
  ∀ key index, ∀ mount ∈ gained earlier later key index,
    Owned workspaceId listed later.claims mount.name

section

variable {workspaceId : String} {listed : List Claim} {strategy : DurableStrategy} {plan : Plan}

/-- A pass is isolated if every binding names a claim of the workspace. -/
theorem isolated_pass_iff :
    Isolated workspaceId listed plan.document (strategy.pass workspaceId listed plan).document ↔
      ∀ binding ∈ plan.bindings
          (strategy.choose workspaceId (DurableStrategy.existingClaims workspaceId listed)),
        Owned workspaceId listed (strategy.pass workspaceId listed plan).document.claims
          binding.name := by
  constructor
  · intro isolated binding member
    exact isolated binding.site.pod binding.site.index (binding.mount workspaceId)
      ((Plan.mem_gained_bound workspaceId PodVolume.claim).2 ⟨binding, member, rfl, rfl, rfl⟩)
  · intro owned key index mount member
    obtain ⟨binding, isBinding, -, -, rfl⟩ :=
      (Plan.mem_gained_bound workspaceId PodVolume.claim).1 member
    exact owned binding isBinding

/-- A claim that exists for the workspace is one of its own. -/
theorem owned_of_existing {volumeName name : String} (claims : StringMap Claim)
    (found : (DurableStrategy.existingClaims workspaceId listed).get? volumeName = some name) :
    Owned workspaceId listed claims name := by
  obtain ⟨claim, isListed, owner, -, named⟩ :=
    DurableStrategy.exists_of_get?_existingClaims found
  exact ⟨claim, .inl isListed, named, owner⟩

/-! ## Names that are new to the document -/

/-- Whether a name is neither a key of a table of claims nor the name of one of them. -/
def NewTo (claims : StringMap Claim) (name : String) : Prop :=
  ∀ key claim, claims.get? key = some claim → key ≠ name ∧ claim.name ≠ name

theorem NewTo.get?_eq_none {claims : StringMap Claim} {name : String}
    (new : NewTo claims name) :
    claims.get? name = none := by
  cases found : claims.get? name with
  | none => rfl
  | some claim => exact absurd rfl (new name claim found).1

/-- Whether each volume that has to be looked up in the document is planned there as a
claim of the workspace, or under the name of one. -/
def PlansOwn (workspaceId : String) (listed : List Claim) (document : Document) : Prop :=
  ∀ volumeName name, document.Wants volumeName →
    (DurableStrategy.existingClaims workspaceId listed).get? volumeName = none →
    (claimsByVolume document.claims.values).get? volumeName = some name →
    Owned workspaceId listed document.claims name

/-- If the drawn names are new to the document, those of the claims that a pass makes are. -/
theorem exists_ledger_of_new
    (new : ∀ name ∈ namesDrawn strategy.stem plan.draws
      (strategy.pass workspaceId listed plan).draws, NewTo plan.document.claims name) :
    ∃ issues,
      Ledger strategy workspaceId (DurableStrategy.existingClaims workspaceId listed)
        plan.stock
        (plan.bindings (strategy.choose workspaceId
          (DurableStrategy.existingClaims workspaceId listed)))
        (strategy.pass workspaceId listed plan).stock issues ∧
      (strategy.pass workspaceId listed plan).document.claims =
        issueAll strategy workspaceId issues plan.document.claims ∧
      ∀ issue ∈ issues, NewTo plan.document.claims issue.name := by
  obtain ⟨issues, ledger, after, drawn⟩ :=
    strategy.exists_ledger_pass workspaceId listed plan
  rw [drawn] at new
  exact ⟨issues, ledger, after, fun issue member => new issue.name (List.mem_map_of_mem member)⟩

theorem isolated_of_plansOwn
    (new : ∀ name ∈ namesDrawn strategy.stem plan.draws
      (strategy.pass workspaceId listed plan).draws, NewTo plan.document.claims name)
    (plansOwn : PlansOwn workspaceId listed plan.document) :
    Isolated workspaceId listed plan.document
      (strategy.pass workspaceId listed plan).document := by
  obtain ⟨issues, ledger, after, newIssues⟩ := exists_ledger_of_new new
  have fresh : ∀ issue ∈ issues, plan.document.claims.get? issue.name = none :=
    fun issue member => (newIssues issue member).get?_eq_none
  refine isolated_pass_iff.2 fun binding member => ?_
  cases ledger.origin fresh binding member with
  | existing found => exact owned_of_existing _ found
  | planned missing found =>
    have wanted : plan.document.Wants binding.site.declaration.volumeName :=
      Document.wants_iff.2 ⟨binding.site, Plan.site_mem_openings member, rfl⟩
    obtain ⟨claim, place, named, owner⟩ := plansOwn _ _ wanted missing found
    refine ⟨claim, place.imp_right fun isValue => ?_, named, owner⟩
    obtain ⟨key, there⟩ := StringMap.mem_values_iff.1 isValue
    rw [after]
    exact StringMap.mem_values_of_get? (get?_issueAll_of_get? fresh there)
  | made missing unplanned made =>
    obtain ⟨last, -, same, there⟩ :=
      get?_issueAll_of_mem strategy workspaceId plan.document.claims made
    refine ⟨last.claim strategy workspaceId, .inr ?_, same,
      strategy.label?_workspaceId_newClaim ..⟩
    rw [after]
    exact StringMap.mem_values_of_get? there

theorem plansOwn_of_isolated
    (new : ∀ name ∈ namesDrawn strategy.stem plan.draws
      (strategy.pass workspaceId listed plan).draws, NewTo plan.document.claims name)
    (isolated : Isolated workspaceId listed plan.document
      (strategy.pass workspaceId listed plan).document) :
    PlansOwn workspaceId listed plan.document := by
  intro volumeName name wanted missing found
  obtain ⟨issues, ledger, after, newIssues⟩ := exists_ledger_of_new new
  have fresh : ∀ issue ∈ issues, plan.document.claims.get? issue.name = none :=
    fun issue member => (newIssues issue member).get?_eq_none
  obtain ⟨site, isOpen, rfl⟩ := Document.wants_iff.1 wanted
  obtain ⟨binding, member, rfl⟩ := Chooser.exists_mem_allot _ plan.stock isOpen
  -- The volume is not made, since it is planned, so the planned name is the one that is bound.
  have named : binding.name = name := by
    cases ledger.origin fresh binding member with
    | existing exists_ => cases missing.symm.trans exists_
    | planned _ planned => exact Option.some.inj (planned.symm.trans found)
    | made _ unplanned _ => cases unplanned.symm.trans found
  have owned := isolated_pass_iff.1 isolated binding member
  rw [named, after] at owned
  obtain ⟨claim, isListed | isValue, same, owner⟩ := owned
  · exact ⟨claim, .inl isListed, same, owner⟩
  · obtain ⟨key, there⟩ := StringMap.mem_values_iff.1 isValue
    rcases get?_issueAll_cases there with ⟨issue, made, -, rfl⟩ | before
    · -- A made claim has not the name of a planned one.
      obtain ⟨planned, isPlanned, -, plannedName⟩ := exists_of_get?_claimsByVolume found
      obtain ⟨plannedKey, place⟩ := StringMap.mem_values_iff.1 isPlanned
      have differs := (newIssues issue made plannedKey planned place).2
      exact absurd (plannedName.trans same.symm) differs
    · exact ⟨claim, .inr (StringMap.mem_values_of_get? before), same, owner⟩

/-! ## Names of any kind -/

/-- A table in which every claim is under its own name, and every claim for a volume
belongs to a workspace. -/
structure PlansFor (workspaceId : String) (claims : StringMap Claim) : Prop where
  keyed : Keyed claims
  owned : ∀ key claim, claims.get? key = some claim → claim.label? volumeNameLabel ≠ none →
    claim.label? workspaceIdLabel = some workspaceId

theorem PlansFor.insert_newClaim {claims : StringMap Claim}
    (plans : PlansFor workspaceId claims) (volumeName name : String) :
    PlansFor workspaceId (claims.insert name
      (strategy.newClaim workspaceId volumeName name)) where
  keyed := plans.keyed.insert (strategy.name_newClaim ..)
  owned key claim found label := by
    rw [StringMap.get?_insert] at found
    split at found
    case isTrue =>
      obtain rfl := Option.some.inj found
      exact strategy.label?_workspaceId_newClaim ..
    case isFalse => exact plans.owned key claim found label

theorem Owned.insert_newClaim {claims : StringMap Claim} {name : String}
    (plans : PlansFor workspaceId claims) (owned : Owned workspaceId listed claims name)
    (volumeName other : String) :
    Owned workspaceId listed
      (claims.insert other (strategy.newClaim workspaceId volumeName other)) name := by
  obtain ⟨claim, isListed | isValue, named, owner⟩ := owned
  · exact ⟨claim, .inl isListed, named, owner⟩
  · obtain ⟨key, there⟩ := StringMap.mem_values_iff.1 isValue
    have isKey : key = name := (plans.keyed key claim there).symm.trans named
    by_cases same : other = key
    · -- The claim has been replaced by one of the same name, also of the workspace.
      refine ⟨_, .inr (StringMap.mem_values_of_get? (StringMap.get?_insert_self ..)), ?_,
        strategy.label?_workspaceId_newClaim ..⟩
      exact same.trans isKey
    · have kept : (claims.insert other
          (strategy.newClaim workspaceId volumeName other)).get? key = some claim := by
        rw [StringMap.get?_insert, if_neg same, there]
      exact ⟨claim, .inr (StringMap.mem_values_of_get? kept), named, owner⟩

/-- Where volumes are planned for a workspace alone, every choice for it is one of its own
claims, and leaves it so.  A claim that is found in the table may have been made in the
pass, so the invariant is about the table as well. -/
theorem invariant_owned (strategy : DurableStrategy) (workspaceId : String)
    (listed : List Claim) :
    strategy.Invariant workspaceId (DurableStrategy.existingClaims workspaceId listed)
      (PlansFor workspaceId) (Owned workspaceId listed) where
  listed claims _ _ found := owned_of_existing claims found
  planned claims volumeName name plans found := by
    obtain ⟨claim, isValue, label, named⟩ := exists_of_get?_claimsByVolume found
    obtain ⟨key, there⟩ := StringMap.mem_values_iff.1 isValue
    exact ⟨claim, .inr isValue, named, plans.owned key claim there (by simp [label])⟩
  made claims volumeName name plans :=
    ⟨plans.insert_newClaim volumeName name,
      ⟨_, .inr (StringMap.mem_values_of_get? (StringMap.get?_insert_self ..)), rfl,
        strategy.label?_workspaceId_newClaim ..⟩,
      fun _ owned => owned.insert_newClaim plans volumeName name⟩

/-- A document that plans volumes for a workspace alone keeps its passes isolated,
whatever names are drawn. -/
theorem isolated_of_plansFor (plans : PlansFor workspaceId plan.document.claims) :
    Isolated workspaceId listed plan.document
      (strategy.pass workspaceId listed plan).document := by
  have ⟨_, owned⟩ := (invariant_owned strategy workspaceId listed).bindings plans
  exact isolated_pass_iff.2 owned

end

/-! ## Isolation -/

/-- **Exactly when a durable pass is isolated.**  A pass succeeds where the directory
answers.  If the drawn names are new to the document, it mounts claims of its workspace
alone just if every volume that has to be looked up in the document is planned there as
one.  And whatever names are drawn, it does if the document plans volumes for no other
workspace. -/
theorem provision_isolated_iff {δ : Type} [ClaimDirectory δ] (directory : δ)
    (strategy : DurableStrategy) (identity : Identity) (plan : Plan) (listed : List Claim)
    (answers : ClaimDirectory.listByLabel directory workspaceIdLabel identity.workspaceId =
      .ok listed) :
    let workspaceId := identity.workspaceId
    let ending := (strategy.provision directory identity).start plan
    ending.outcome = .ok () ∧
    ((∀ name ∈ namesDrawn strategy.stem plan.draws ending.subject.draws,
        NewTo plan.document.claims name) →
      (Isolated workspaceId listed plan.document ending.subject.document ↔
        PlansOwn workspaceId listed plan.document)) ∧
    (PlansFor workspaceId plan.document.claims →
      Isolated workspaceId listed plan.document ending.subject.document) := by
  intro workspaceId ending
  have ⟨succeeds, after⟩ := DurableStrategy.start_provision_of_listed answers strategy plan
  refine ⟨succeeds, ?_⟩
  rw [after]
  exact ⟨fun new => ⟨plansOwn_of_isolated new, isolated_of_plansOwn new⟩, isolated_of_plansFor⟩

/-- A document with two volumes to bind, for one of which it plans a claim of a workspace. -/
def Document.planning (workspaceId : String) : Document :=
  let planned := DurableStrategy.standard.newClaim workspaceId "data" "shared"
  { pair with claims := .insert .empty "shared" planned }

/-- The document plans a claim of the workspace itself for one volume, and the claim that is made
for the other has a new name, so the pass is isolated. -/
theorem provision_isolated_iff_own :
    let directory : ClaimTable := {}
    let ending := (DurableStrategy.standard.provision directory { workspaceId := "ws" }).start
      ⟨.planning "ws", .cycling #[0]⟩
    ending.outcome = .ok () ∧
      namesDrawn DurableStrategy.standard.stem (.cycling #[0]) ending.subject.draws =
        ["claim-workspace-aaaaaaaa"] ∧
      (gained (.planning "ws") ending.subject.document "web" 0).map (·.name) =
        ["shared", "claim-workspace-aaaaaaaa"] ∧
      Isolated "ws" [] (.planning "ws") ending.subject.document := by
  intro directory ending
  have ⟨succeeds, exactly, _⟩ :=
    provision_isolated_iff directory .standard { workspaceId := "ws" }
    ⟨.planning "ws", .cycling #[0]⟩ [] rfl
  have drawn : namesDrawn DurableStrategy.standard.stem (.cycling #[0]) ending.subject.draws =
      ["claim-workspace-aaaaaaaa"] := by
    decide
  refine ⟨succeeds, drawn, by decide, (exactly ?_).2 ?_⟩
  · intro name member key claim there
    rw [drawn] at member
    obtain rfl := List.mem_singleton.1 member
    -- The one claim that is planned is under its own name.
    cases List.mem_singleton.1 (StringMap.get?_eq_some_iff.1 there)
    exact ⟨by decide, by decide⟩
  · intro volumeName name _ _ found
    obtain ⟨claim, isValue, -, named⟩ := exists_of_get?_claimsByVolume found
    obtain rfl := List.mem_singleton.1 isValue
    exact ⟨_, .inr isValue, named, DurableStrategy.label?_workspaceId_newClaim ..⟩

/-- A pass can mount a claim of another workspace: one that the document plans for the
same volume. -/
theorem not_provision_isolated :
    ¬ ∀ (directory : ClaimTable) (strategy : DurableStrategy) (identity : Identity)
      (plan : Plan)
      (listed : List Claim),
      ClaimDirectory.listByLabel directory workspaceIdLabel identity.workspaceId = .ok listed →
      ((strategy.provision directory identity).start plan).outcome = .ok () →
      Isolated identity.workspaceId listed plan.document
        ((strategy.provision directory identity).start plan).subject.document := by
  intro always
  obtain ⟨claim, place, named, owner⟩ := always {} .standard { workspaceId := "ws" }
    ⟨.planning "other", .cycling #[0]⟩ [] rfl rfl "web" 0
    ⟨"shared", "/data", some "ws/data"⟩ (by decide)
  have isValue : claim ∈ [DurableStrategy.standard.newClaim "ws" "logs" "claim-workspace-aaaaaaaa",
      DurableStrategy.standard.newClaim "other" "data" "shared"] :=
    place.resolve_left List.not_mem_nil
  rcases List.mem_pair.1 isValue with rfl | rfl
  · exact absurd named (by decide)
  · exact absurd owner (by decide)

end WorkspaceVolumes
