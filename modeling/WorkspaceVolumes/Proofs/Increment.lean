import WorkspaceVolumes.Proofs.Absorption
import WorkspaceVolumes.Proofs.Settlement

/-!
# Documents that grow between passes

A pod may be added to a document that has been reconciled, and the document reconciled again.
Or the pod is there from the start, and the document is reconciled once.  The results are the
same but for the names that were drawn.

**Sites.**  The first pass leaves nothing open, so the second finds the sites of the new pod
and no others.  For each pod, the two passes together bind the same sites in the same order
as the one pass does; only the order among the pods is another.

**Claims.**  In steps, a volume of the new pod may find the claim that the first pass has
made for the same volume, as a claim that the document plans; at once, as one that was made
in the pass.  That makes no difference to which claims are made (`Settlement.append`).

## Main definitions

* `Manner`: how a provider makes a pass.
* `Increment`: a document to which a pod is added between two passes.
* `FreshNames`: drawn names that differ and are new.

## Main statements

* `Increment.map_site_eq`: the sites of a pod are bound in the same order.
* `Increment.rename_atOnce`: when the documents are the same but for names.
* `reconcile_in_steps`: reconciling in steps comes to the same as reconciling at once.
-/

namespace WorkspaceVolumes

/-! ## One more pod -/

namespace Document

theorem get?_pods_addPod (document : Document) (pod : Pod) (key : String) :
    (document.addPod pod).pods.get? key =
      if pod.metadata.name = key then some pod else document.pods.get? key :=
  StringMap.get?_insert ..

/-- A new pod has its own open sites, and the other pods keep theirs. -/
theorem filter_openings_addPod (document : Document) (pod : Pod) (key : String) :
    (document.addPod pod).openings.filter (·.pod = key) =
      if pod.metadata.name = key then pod.openings document.machines key
      else document.openings.filter (·.pod = key) := by
  rw [filter_openings, filter_openings, get?_pods_addPod]
  split <;> rfl

/-- A new pod adds what is declared for it to what was declared. -/
theorem mem_declarations_addPod {document : Document} {pod : Pod}
    (new : pod.metadata.name ∉ document.pods.keys) {declaration : Declaration} :
    declaration ∈ (document.addPod pod).declarations ↔
      declaration ∈ document.declarations ∨
        declaration ∈ pod.declarations document.machines := by
  have machines : (document.addPod pod).machines = document.machines := rfl
  simp only [mem_declarations, get?_pods_addPod, machines]
  constructor
  · rintro ⟨key, found, here, declared⟩
    split at here
    case isTrue =>
      obtain rfl := Option.some.inj here
      exact .inr declared
    case isFalse => exact .inl ⟨key, found, here, declared⟩
  · rintro (⟨key, found, here, declared⟩ | declared)
    · have other : pod.metadata.name ≠ key := by
        rintro rfl
        exact new (StringMap.mem_keys_iff.2 (Option.isSome_iff_exists.2 ⟨found, here⟩))
      exact ⟨key, found, (if_neg other).trans here, declared⟩
    · exact ⟨pod.metadata.name, pod, if_pos rfl, declared⟩

end Document

/-! ## Passes in steps and at once -/

/-- How a provider makes a pass: what it chooses for a volume, what a pod gets for the choice,
and which sub-paths are listed. -/
structure Manner where
  choose : Chooser
  volumeOf : String → PodVolume
  queue : Document → StringSet

/-- A plan that a pass has been made of. -/
def Manner.apply (workspaceId : String) (manner : Manner) (plan : Plan) : Plan :=
  let bound := plan.bound workspaceId manner.choose manner.volumeOf
  { bound with document := { bound.document with subpaths := manner.queue plan.document } }

namespace Manner

variable (workspaceId : String) (manner : Manner) (plan : Plan)

@[simp] theorem machines_apply :
    (manner.apply workspaceId plan).document.machines = plan.document.machines := rfl

theorem get?_pods_apply (key : String) :
    (manner.apply workspaceId plan).document.pods.get? key =
      (plan.document.pods.get? key).map
        (Pod.attachAll workspaceId manner.volumeOf
          (bindingsIn key (plan.bindings manner.choose))) :=
  Plan.get?_pods_bound workspaceId manner.volumeOf manner.choose plan key

/-- What is open does not depend on the sub-paths, so nothing is. -/
theorem openings_apply : (manner.apply workspaceId plan).document.openings = [] := by
  have closed : (plan.bound workspaceId manner.choose manner.volumeOf).document.openings = [] :=
    Plan.openings_bound workspaceId manner.volumeOf
  exact closed

theorem declarations_apply :
    (manner.apply workspaceId plan).document.declarations = plan.document.declarations :=
  Plan.declarations_bound workspaceId manner.volumeOf manner.choose plan

end Manner

/-- A document to which a pod with a new name is added between two passes, or before the only
one, with the random numbers for the three passes. -/
structure Increment where
  workspaceId : String
  document : Document
  pod : Pod
  new : pod.metadata.name ∉ document.pods.keys
  draws : DrawStream
  laterDraws : DrawStream
  onceDraws : DrawStream

/-- Two lists are the same up to order if those parts of them are that have one key. -/
theorem perm_of_filter_eq {α κ : Type} [DecidableEq α] [DecidableEq κ] (key : α → κ)
    {items others : List α}
    (same : ∀ found, items.filter (key · = found) = others.filter (key · = found)) :
    items.Perm others := by
  refine List.perm_iff_count.2 fun item => ?_
  have counted (list : List α) : list.count item = (list.filter (key · = key item)).count item :=
    (List.count_filter (p := (key · = key item)) (decide_eq_true rfl)).symm
  rw [counted items, same, ← counted others]

/-- Bindings of the same sites in the same order are turned into each other by a renaming
that takes their names to each other, site by site. -/
theorem map_rename_eq {renamed : String → String} {bindings others : List Binding}
    (sites : others.map (·.site) = bindings.map (·.site))
    (names : ∀ binding ∈ bindings, ∀ other ∈ others, binding.site = other.site →
      renamed binding.name = other.name) :
    bindings.map (·.rename renamed) = others := by
  induction bindings generalizing others with
  | nil => exact (List.map_eq_nil_iff.1 sites).symm
  | cons binding rest ih =>
    obtain ⟨other, behind, rfl, same, sites⟩ := List.map_eq_cons_iff.1 sites
    have site : binding.site = other.site := same.symm
    have here := names binding List.mem_cons_self other List.mem_cons_self site
    have later := ih sites fun binding isBinding other isOther =>
      names binding (List.mem_cons_of_mem _ isBinding) other (List.mem_cons_of_mem _ isOther)
    rw [List.map_cons, later, Binding.rename, here, site]

/-- Whether the names that are drawn in two runs differ in each of them, and are new to a
document and to some listed claims. -/
structure FreshNames (names otherNames : List String) (document : Document)
    (listed : List Claim) : Prop where
  differ : names.Nodup
  othersDiffer : otherNames.Nodup
  lacks : ∀ name ∈ names ++ otherNames, document.Lacks name
  unlisted : ∀ name ∈ names ++ otherNames, ∀ claim ∈ listed, claim.name ≠ name

namespace Increment

/-- The plan of the first pass. -/
def first (increment : Increment) : Plan := ⟨increment.document, increment.draws⟩

/-- The plan of the one pass. -/
def once (increment : Increment) : Plan :=
  ⟨increment.document.addPod increment.pod, increment.onceDraws⟩

variable (increment : Increment) (manner : Manner)

/-- The plan of the second pass, which has the new pod. -/
def second : Plan :=
  ⟨(manner.apply increment.workspaceId increment.first).document.addPod increment.pod,
    increment.laterDraws⟩

/-- The document after both passes. -/
def stepped : Document := (manner.apply increment.workspaceId (increment.second manner)).document

/-- The document after the one pass. -/
def atOnce : Document := (manner.apply increment.workspaceId increment.once).document

/-- The names that are drawn in the two passes, for names with a stem. -/
def stepNames (stem : String) : List String :=
  namesDrawn stem increment.draws (manner.apply increment.workspaceId increment.first).draws ++
    namesDrawn stem increment.laterDraws
      (manner.apply increment.workspaceId (increment.second manner)).draws

/-- The names that are drawn in the one pass. -/
def onceNames (stem : String) : List String :=
  namesDrawn stem increment.onceDraws
    (manner.apply increment.workspaceId increment.once).draws

/-- What the two passes bind. -/
def stepBindings : List Binding :=
  increment.first.bindings manner.choose ++ (increment.second manner).bindings manner.choose

/-- What the one pass binds. -/
def onceBindings : List Binding := increment.once.bindings manner.choose

/-- **The sites of a pod are bound in the same order**, be it in steps or at once. -/
theorem map_site_eq (key : String) :
    (bindingsIn key (increment.stepBindings manner)).map (·.site) =
      (bindingsIn key (increment.onceBindings manner)).map (·.site) := by
  -- What the first pass has left is closed but for the new pod.
  rw [stepBindings, onceBindings, bindingsIn_append, List.map_append, Plan.map_site_bindingsIn,
    Plan.map_site_bindingsIn, Plan.map_site_bindingsIn, first, second, once,
    Document.filter_openings_addPod, Document.filter_openings_addPod, Manner.openings_apply,
    Manner.machines_apply, first]
  split
  case isTrue same =>
    have absent : increment.document.pods.get? key = none := by
      rw [← same]
      exact StringMap.notMem_keys_iff.1 increment.new
    rw [Document.filter_openings, absent]
    rfl
  case isFalse => exact List.append_nil _

/-- The same sites are bound, but the new pod comes last in steps, and at once it comes where
its name belongs. -/
theorem perm_sites :
    ((increment.onceBindings manner).map (·.site)).Perm
      ((increment.stepBindings manner).map (·.site)) := by
  refine perm_of_filter_eq Site.pod fun key => ?_
  rw [List.filter_map, List.filter_map]
  exact (increment.map_site_eq manner key).symm

theorem get?_pods_atOnce (key : String) :
    (increment.atOnce manner).pods.get? key =
      (increment.once.document.pods.get? key).map
        (Pod.attachAll increment.workspaceId manner.volumeOf
          (bindingsIn key (increment.onceBindings manner))) :=
  Manner.get?_pods_apply ..

/-- A pod has attached to it what the first pass binds in it and then what the second does;
for the new pod the first is nothing. -/
theorem get?_pods_stepped (key : String) :
    (increment.stepped manner).pods.get? key =
      (increment.once.document.pods.get? key).map
        (Pod.attachAll increment.workspaceId manner.volumeOf
          (bindingsIn key (increment.stepBindings manner))) := by
  rw [stepped, Manner.get?_pods_apply, stepBindings, bindingsIn_append, second, once,
    Document.get?_pods_addPod, Document.get?_pods_addPod, Manner.get?_pods_apply]
  split
  case isTrue same =>
    have nothing : bindingsIn key (increment.first.bindings manner.choose) = [] := by
      refine bindingsIn_eq_nil fun binding member elsewhere => ?_
      obtain ⟨pod, found, -⟩ := Document.mem_openings_iff.1 (Plan.site_mem_openings member)
      refine increment.new (StringMap.mem_keys_iff.2 (Option.isSome_iff_exists.2 ⟨pod, ?_⟩))
      rw [same, ← elsewhere]
      exact found
    rw [nothing]
    rfl
  case isFalse =>
    rw [Option.map_map]
    refine congrArg (Option.map · _) (funext fun pod => ?_)
    exact (List.foldl_append ..).symm

/-- The same volumes are declared when the second pass starts as when the one pass does. -/
theorem mem_declarations_second {declaration : Declaration} :
    declaration ∈ (increment.second manner).document.declarations ↔
      declaration ∈ increment.once.document.declarations := by
  have new : increment.pod.metadata.name ∉
      (manner.apply increment.workspaceId increment.first).document.pods.keys := by
    have absent : increment.first.document.pods.get? increment.pod.metadata.name = none :=
      StringMap.notMem_keys_iff.1 increment.new
    rw [StringMap.notMem_keys_iff, Manner.get?_pods_apply, absent, Option.map_none]
  rw [second, once, Document.mem_declarations_addPod new,
    Document.mem_declarations_addPod increment.new, Manner.declarations_apply,
    Manner.machines_apply, first]

variable {manner}

/-- **When the documents are the same but for names**: a renaming takes the names of the
bindings to each other and the claims to each other, and changes no name that the document
has had before; and the same sub-paths are listed. -/
theorem rename_atOnce (renamed : Equiv.Perm String)
    (fits : ∀ name, (manner.volumeOf name).rename renamed = manner.volumeOf (renamed name))
    (lacks : ∀ name, renamed name ≠ name → increment.once.document.Lacks name)
    (names : ∀ binding ∈ increment.onceBindings manner,
      ∀ other ∈ increment.stepBindings manner,
        binding.site = other.site → renamed binding.name = other.name)
    (claims : renameClaims renamed (increment.atOnce manner).claims =
      (increment.stepped manner).claims)
    (subpaths : (increment.atOnce manner).subpaths = (increment.stepped manner).subpaths) :
    (increment.atOnce manner).rename renamed = increment.stepped manner := by
  have pods : ((increment.atOnce manner).pods.mapWithKey fun _ pod => pod.rename renamed) =
      (increment.stepped manner).pods := by
    refine StringMap.ext_get? fun key => ?_
    rw [StringMap.get?_mapWithKey, get?_pods_atOnce, get?_pods_stepped, Option.map_map]
    cases found : increment.once.document.pods.get? key with
    | none => rfl
    | some pod =>
      have kept : pod.rename renamed = pod :=
        Pod.rename_eq_self fun name moved => (lacks name moved).pods key pod found
      have bindings : (bindingsIn key (increment.onceBindings manner)).map (·.rename renamed) =
          bindingsIn key (increment.stepBindings manner) :=
        map_rename_eq (increment.map_site_eq manner key)
          fun binding isBinding other isOther =>
            names binding (mem_bindingsIn.1 isBinding).1 other (mem_bindingsIn.1 isOther).1
      rw [Option.map_some, Option.map_some, Function.comp_apply,
        Pod.rename_attachAll renamed.injective increment.workspaceId fits, kept, bindings]
  have machines : (increment.atOnce manner).machines = (increment.stepped manner).machines :=
    rfl
  rw [Document.rename, pods, claims, subpaths, machines]

end Increment

/-! ## Storage for the life of a pod -/

namespace EmptyDirStrategy

/-- How storage for the life of a pod is bound: under a new name each time. -/
def manner (strategy : EmptyDirStrategy) : Manner where
  choose := strategy.choose
  volumeOf := PodVolume.emptyDir
  queue := (·.subpaths)

/-- **Storage for the life of a pod in steps and at once.** -/
theorem renamesTo {strategy : EmptyDirStrategy} {increment : Increment} {listed : List Claim}
    (fresh : FreshNames (increment.onceNames strategy.manner strategy.stem)
      (increment.stepNames strategy.manner strategy.stem) increment.once.document listed) :
    (increment.atOnce strategy.manner).RenamesTo
      (increment.onceNames strategy.manner strategy.stem)
      (increment.stepNames strategy.manner strategy.stem)
      (increment.stepped strategy.manner) := by
  have onceNames : (increment.onceBindings strategy.manner).map (·.name) =
      increment.onceNames strategy.manner strategy.stem :=
    strategy.map_name_bindings increment.once
  have stepNames : (increment.stepBindings strategy.manner).map (·.name) =
      increment.stepNames strategy.manner strategy.stem := by
    rw [Increment.stepBindings, List.map_append]
    exact congrArg₂ (· ++ ·) (strategy.map_name_bindings increment.first)
      (strategy.map_name_bindings (increment.second strategy.manner))
  have distinct : ((increment.onceBindings strategy.manner).map (·.site)).Nodup := by
    rw [Increment.onceBindings, Plan.map_site_bindings]
    exact increment.once.document.pairwise_openings.imp fun apart same =>
      apart (congrArg Site.pod same) (congrArg Site.index same)
        (congrArg (·.declaration.path) same)
  rw [← onceNames, ← stepNames] at fresh ⊢
  obtain ⟨renamed, takes, image, changes⟩ :=
    exists_renaming (increment.perm_sites strategy.manner) distinct fresh.differ
      fresh.othersDiffer
  have lacks (name : String) (moved : renamed name ≠ name) :
      increment.once.document.Lacks name := fresh.lacks name (changes name moved)
  refine ⟨renamed, image, changes,
    increment.rename_atOnce renamed (fun _ => rfl) lacks takes ?_ rfl⟩
  -- No claims are made, neither in steps nor at once.
  have atOnce : (increment.atOnce strategy.manner).claims = increment.document.claims :=
    strategy.claims_left increment.once
  have stepped : (increment.stepped strategy.manner).claims = increment.document.claims :=
    (strategy.claims_left (increment.second strategy.manner)).trans
      (strategy.claims_left increment.first)
  rw [atOnce, stepped]
  exact renameClaims_eq_self fun name moved => (lacks name moved).claims

end EmptyDirStrategy

/-! ## Durable storage -/

namespace DurableStrategy

/-- How durable storage is bound, where some claims are listed. -/
def manner (strategy : DurableStrategy) (workspaceId : String) (listed : List Claim) :
    Manner where
  choose := strategy.choose workspaceId (existingClaims workspaceId listed)
  volumeOf := PodVolume.claim
  queue document :=
    if strategy.precreateSubpaths then
      queueAll workspaceId document.declarations document.subpaths
    else document.subpaths

variable (strategy : DurableStrategy) (increment : Increment) (listed : List Claim)

/-- The same sub-paths are listed: the first pass lists those of what is declared without the
new pod, and the second lists them again. -/
theorem subpaths_atOnce :
    (increment.atOnce (strategy.manner increment.workspaceId listed)).subpaths =
      (increment.stepped (strategy.manner increment.workspaceId listed)).subpaths := by
  let manner := strategy.manner increment.workspaceId listed
  have queues (document : Document) : manner.queue document =
      if strategy.precreateSubpaths then
        queueAll increment.workspaceId document.declarations document.subpaths
      else document.subpaths := rfl
  have between : (increment.second manner).document.subpaths =
      manner.queue increment.document := rfl
  show manner.queue increment.once.document = manner.queue (increment.second manner).document
  rw [queues, queues, between, queues]
  cases strategy.precreateSubpaths with
  | false => rfl
  | true =>
    rw [if_pos rfl, if_pos rfl, if_pos rfl]
    refine StringSet.ext_mem fun path => ?_
    rw [mem_queueAll, mem_queueAll, mem_queueAll]
    constructor
    · rintro (before | ⟨declaration, declared, here⟩)
      · exact .inl (.inl before)
      · exact .inr ⟨declaration, (increment.mem_declarations_second manner).2 declared, here⟩
    · rintro ((before | ⟨declaration, declared, here⟩) | ⟨declaration, declared, here⟩)
      · exact .inl before
      · exact .inr ⟨declaration,
          (Document.mem_declarations_addPod increment.new).2 (.inl declared), here⟩
      · exact .inr ⟨declaration, (increment.mem_declarations_second manner).1 declared, here⟩

variable {strategy increment listed}

/-- A pass whose names are new to the claims of its document and differ has an account. -/
theorem exists_settlement_pass {workspaceId : String} {plan : Plan}
    (differ : (namesDrawn strategy.stem plan.draws
      ((strategy.manner workspaceId listed).apply workspaceId plan).draws).Nodup)
    (fresh : ∀ name ∈ namesDrawn strategy.stem plan.draws
      ((strategy.manner workspaceId listed).apply workspaceId plan).draws,
        plan.document.claims.get? name = none) :
    let manner := strategy.manner workspaceId listed
    ∃ issues,
      issues.map (·.name) =
        namesDrawn strategy.stem plan.draws (manner.apply workspaceId plan).draws ∧
      Settlement (existingClaims workspaceId listed) plan.document.claims
        (plan.bindings manner.choose) issues ∧
      (manner.apply workspaceId plan).document.claims =
        issueAll strategy workspaceId issues plan.document.claims := by
  intro manner
  obtain ⟨issues, ledger, after, drawn⟩ := strategy.exists_ledger_pass workspaceId listed plan
  have names : issues.map (·.name) =
      namesDrawn strategy.stem plan.draws (manner.apply workspaceId plan).draws := drawn.symm
  rw [← names] at differ fresh
  exact ⟨issues, names,
    ledger.settlement (fun issue member => fresh _ (List.mem_map_of_mem member)) differ, after⟩

/-- **The claims in steps and at once.**  The claims of the one pass and those of the two have
accounts over the same claims, those of the document at first, and the same bindings. -/
theorem exists_settlements
    (fresh : FreshNames
      (increment.onceNames (strategy.manner increment.workspaceId listed) strategy.stem)
      (increment.stepNames (strategy.manner increment.workspaceId listed) strategy.stem)
      increment.once.document listed) :
    let manner := strategy.manner increment.workspaceId listed
    let existing := existingClaims increment.workspaceId listed
    let claims := increment.document.claims
    ∃ issues more,
      (issues.map (·.name) = increment.onceNames manner strategy.stem ∧
        Settlement existing claims (increment.onceBindings manner) issues ∧
        (increment.atOnce manner).claims =
          issueAll strategy increment.workspaceId issues claims) ∧
      more.map (·.name) = increment.stepNames manner strategy.stem ∧
        Settlement existing claims (increment.stepBindings manner) more ∧
        (increment.stepped manner).claims =
          issueAll strategy increment.workspaceId more claims := by
  intro manner existing claims
  have isNew (name : String) (member : name ∈ increment.onceNames manner strategy.stem ++
      increment.stepNames manner strategy.stem) : claims.get? name = none :=
    (fresh.lacks name member).claims.get?_eq_none
  have ⟨firstDiffer, laterDiffer, apart⟩ := List.nodup_append.1 fresh.othersDiffer
  obtain ⟨issues, onceNames, once, onceClaims⟩ := exists_settlement_pass fresh.differ
    fun name member => isNew name (List.mem_append_left _ member)
  obtain ⟨firstIssues, firstNames, first, between⟩ := exists_settlement_pass firstDiffer
    fun name member => isNew name (List.mem_append_right _ (List.mem_append_left _ member))
  replace firstNames : firstIssues.map (·.name) = namesDrawn strategy.stem increment.draws
      (manner.apply increment.workspaceId increment.first).draws := firstNames
  replace between : (increment.second manner).document.claims =
      issueAll strategy increment.workspaceId firstIssues claims := between
  rw [← firstNames] at firstDiffer apart
  have firstFresh : ∀ issue ∈ firstIssues, claims.get? issue.name = none := by
    intro issue member
    have drawn := List.mem_map_of_mem (f := Issue.name) member
    rw [firstNames] at drawn
    exact isNew _ (List.mem_append_right _ (List.mem_append_left _ drawn))
  -- The names of the second pass are new to what the first has made, too.
  obtain ⟨laterIssues, laterNames, later, laterClaims⟩ := exists_settlement_pass laterDiffer
    fun name member => by
      have untouched : ∀ issue ∈ firstIssues, issue.name ≠ name :=
        fun issue isFirst => apart issue.name (List.mem_map_of_mem isFirst) name member
      rw [between, get?_issueAll_of_fresh untouched]
      exact isNew name (List.mem_append_right _ (List.mem_append_right _ member))
  rw [between] at later laterClaims
  refine ⟨issues, firstIssues ++ laterIssues, ⟨onceNames, once, onceClaims⟩, ?_,
    first.append later firstFresh firstDiffer, ?_⟩
  · rw [List.map_append, firstNames, laterNames]
    rfl
  · rw [issueAll, List.foldl_append]
    exact laterClaims

/-- **Durable storage in steps and at once.** -/
theorem renamesTo
    (fresh : FreshNames
      (increment.onceNames (strategy.manner increment.workspaceId listed) strategy.stem)
      (increment.stepNames (strategy.manner increment.workspaceId listed) strategy.stem)
      increment.once.document listed) :
    (increment.atOnce (strategy.manner increment.workspaceId listed)).RenamesTo
      (increment.onceNames (strategy.manner increment.workspaceId listed) strategy.stem)
      (increment.stepNames (strategy.manner increment.workspaceId listed) strategy.stem)
      (increment.stepped (strategy.manner increment.workspaceId listed)) := by
  let manner := strategy.manner increment.workspaceId listed
  obtain ⟨issues, more, ⟨onceNames, once, onceClaims⟩, stepNames, steps, stepClaims⟩ :=
    exists_settlements fresh
  have volumes := once.perm_volumes steps (increment.perm_sites manner)
  rw [← onceNames, ← stepNames] at fresh ⊢
  obtain ⟨renamed, takes, image, changes⟩ :=
    exists_renaming volumes once.distinct fresh.differ fresh.othersDiffer
  have lacks (name : String) (moved : renamed name ≠ name) :
      increment.once.document.Lacks name := fresh.lacks name (changes name moved)
  have names := once.renamed_name steps takes
    (fun volumeName name found => by
      obtain ⟨claim, isListed, -, -, named⟩ := exists_of_get?_existingClaims found
      by_contra moved
      exact fresh.unlisted name (changes name moved) claim isListed named)
    (fun volumeName name found => by
      obtain ⟨claim, isValue, -, named⟩ := exists_of_get?_claimsByVolume found
      obtain ⟨key, there⟩ := StringMap.mem_values_iff.1 isValue
      by_contra moved
      exact ((lacks name moved).claims key claim there).2 named)
  have claims : renameClaims renamed (increment.atOnce manner).claims =
      (increment.stepped manner).claims := by
    have made : (issues.map (·.rename renamed)).Perm more :=
      perm_map_rename_issues volumes once.distinct takes
    have differ : ((issues.map (·.rename renamed)).map (·.name)).Nodup :=
      (made.map _).nodup_iff.2 fresh.othersDiffer
    have kept : renameClaims renamed increment.document.claims = increment.document.claims :=
      renameClaims_eq_self fun name moved => (lacks name moved).claims
    calc renameClaims renamed (increment.atOnce manner).claims
      _ = issueAll strategy increment.workspaceId (issues.map (·.rename renamed))
            (renameClaims renamed increment.document.claims) := by
          rw [onceClaims, rename_issueAll]
      _ = issueAll strategy increment.workspaceId (issues.map (·.rename renamed))
            increment.document.claims := by rw [kept]
      _ = issueAll strategy increment.workspaceId more increment.document.claims :=
          issueAll_perm made differ _
      _ = (increment.stepped manner).claims := stepClaims.symm
  exact ⟨renamed, image, changes, increment.rename_atOnce renamed (fun _ => rfl) lacks names
    claims (strategy.subpaths_atOnce increment listed)⟩

end DurableStrategy

/-! ## Reconciling -/

namespace Provider

/-- How a provider binds volumes, where some claims are listed. -/
inductive Binds (workspaceId : String) (listed : List Claim) : Provider → Manner → Prop
  | emptyDir (strategy : EmptyDirStrategy) :
    Binds workspaceId listed (.emptyDir strategy) strategy.manner
  | durable (strategy : DurableStrategy) :
    Binds workspaceId listed (.durable strategy) (strategy.manner workspaceId listed)

section

variable {workspaceId : String} {listed : List Claim} {provider : Provider} {manner : Manner}

theorem exists_binds (workspaceId : String) (listed : List Claim) (provides : provider ≠ none) :
    ∃ manner, provider.Binds workspaceId listed manner := by
  cases provider with
  | none => exact absurd rfl provides
  | emptyDir strategy => exact ⟨_, .emptyDir strategy⟩
  | durable strategy => exact ⟨_, .durable strategy⟩

/-- Where the directory answers, reconciling is a pass, and it succeeds. -/
theorem Binds.reconciled_eq {δ : Type} [ClaimDirectory δ] {directory : δ}
    (binds : provider.Binds workspaceId listed manner)
    (answers : ClaimDirectory.listByLabel directory workspaceIdLabel workspaceId = .ok listed)
    (plan : Plan) :
    (∃ report, (provider.reconciled directory workspaceId plan).1 = .ok report) ∧
      (provider.reconciled directory workspaceId plan).2 = manner.apply workspaceId plan := by
  cases binds with
  | emptyDir strategy => exact ⟨⟨_, rfl⟩, rfl⟩
  | durable strategy =>
    rw [reconciled, provisioned, answers, Run.given_ok, prepared, DurableStrategy.prepared]
    refine ⟨⟨_, rfl⟩, ?_⟩
    obtain ⟨stem, quantity, accessMode, creates⟩ := strategy
    cases creates <;> rfl

/-- **Passes in steps and at once**, by any provider other than none. -/
theorem Binds.renamesTo (increment : Increment)
    (binds : provider.Binds increment.workspaceId listed manner)
    (names otherNames : List String)
    (isOnce : names = provider.drawn increment.onceDraws
      (manner.apply increment.workspaceId increment.once).draws)
    (isSteps : otherNames =
      provider.drawn increment.draws
          (manner.apply increment.workspaceId increment.first).draws ++
        provider.drawn increment.laterDraws
          (manner.apply increment.workspaceId (increment.second manner)).draws)
    (fresh : FreshNames names otherNames increment.once.document listed) :
    (increment.atOnce manner).RenamesTo names otherNames (increment.stepped manner) := by
  subst isOnce isSteps
  cases binds with
  | emptyDir strategy => exact EmptyDirStrategy.renamesTo fresh
  | durable strategy => exact DurableStrategy.renamesTo fresh

end

end Provider

/-- **Reconciling in steps comes to the same as reconciling at once.**  Suppose that a
workspace is served, transiently or durably, perhaps through overrides, and that the directory
answers.  Take a document and a pod with a name that is not a key of it.  Reconcile the
document, add the pod and reconcile again; or add the pod first and reconcile once; whatever
random numbers are drawn.  All three runs succeed.

If the names that are drawn differ in each of the two ways and are new to the document, to the
pod and to the listed claims, then the document is the same in both ways but for these names,
which are changed into each other one to one.  So all containers bind the same paths to the
same sub-paths in the same order, there are as many claims, the same mounts share a claim, and
the same sub-paths are listed. -/
theorem reconcile_in_steps {δ ω : Type} [ClaimDirectory δ] [WorkspaceStore ω]
    (cluster : Cluster δ ω) (strategy : Strategy) (identity : Identity) (provider : Provider)
    (provides : provider ≠ .none)
    (serves : strategy.served cluster.store identity.workspaceId = .ok provider)
    (listed : List Claim)
    (answers : ClaimDirectory.listByLabel cluster.directory workspaceIdLabel
      identity.workspaceId = .ok listed)
    (document : Document) (pod : Pod) (new : pod.metadata.name ∉ document.pods.keys)
    (draws laterDraws onceDraws : DrawStream) :
    let reconciled (document : Document) (draws : DrawStream) :=
      (reconcile cluster strategy identity).start ⟨document, draws⟩
    let first := reconciled document draws
    let second := reconciled (first.subject.document.addPod pod) laterDraws
    let once := reconciled (document.addPod pod) onceDraws
    let stepNames := provider.drawn draws first.subject.draws ++
      provider.drawn laterDraws second.subject.draws
    let onceNames := provider.drawn onceDraws once.subject.draws
    ((∃ report, first.outcome = .ok report) ∧ (∃ report, second.outcome = .ok report) ∧
      ∃ report, once.outcome = .ok report) ∧
    (FreshNames onceNames stepNames (document.addPod pod) listed →
      once.subject.document.RenamesTo onceNames stepNames second.subject.document ∧
        once.subject.document.SameShape second.subject.document) := by
  intro reconciled first second once stepNames onceNames
  obtain ⟨manner, binds⟩ := provider.exists_binds identity.workspaceId listed provides
  have runs (document : Document) (draws : DrawStream) :
      (∃ report, (reconciled document draws).outcome = .ok report) ∧
        (reconciled document draws).subject =
          manner.apply identity.workspaceId ⟨document, draws⟩ := by
    have acts := reconcile_actsAs cluster strategy identity
    rw [acts.outcome_start, acts.subject_start, serves]
    exact binds.reconciled_eq answers ⟨document, draws⟩
  refine ⟨⟨(runs _ _).1, (runs _ _).1, (runs _ _).1⟩, fun fresh => ?_⟩
  let increment : Increment :=
    ⟨identity.workspaceId, document, pod, new, draws, laterDraws, onceDraws⟩
  have afterFirst : first.subject = manner.apply identity.workspaceId increment.first :=
    (runs document draws).2
  have afterSecond :
      second.subject = manner.apply identity.workspaceId (increment.second manner) := by
    rw [Increment.second, ← afterFirst]
    exact (runs _ laterDraws).2
  have afterOnce : once.subject = manner.apply identity.workspaceId increment.once :=
    (runs _ onceDraws).2
  have renames : once.subject.document.RenamesTo onceNames stepNames
      second.subject.document := by
    rw [afterOnce, afterSecond]
    refine binds.renamesTo increment onceNames stepNames ?_ ?_ fresh
    · rw [← afterOnce]
    · rw [← afterFirst, ← afterSecond]
  exact ⟨renames, renames.sameShape⟩

/-- Two machines share two volumes.  In steps the second finds the claims of the first, at once
the claims are made for it; and the names differ. -/
theorem reconcile_in_steps_shared :
    let cluster : Cluster ClaimTable WorkspaceTable := ⟨{}, {}⟩
    let document : Document :=
      { Document.pair with pods := .insert .empty "web" (Pod.named "web" ["app"]) }
    let pod := Pod.named "db" ["app"]
    let reconciled (document : Document) (draws : DrawStream) :=
      (reconcile cluster (.durable .standard) { workspaceId := "ws" }).start ⟨document, draws⟩
    let first := reconciled document (.cycling #[0, 1, 2])
    let second := reconciled (first.subject.document.addPod pod) first.subject.draws
    let once := reconciled (document.addPod pod) (.cycling #[3, 4, 5])
    second.subject.document.claimNames =
        ["claim-workspace-abcabcab", "claim-workspace-cabcabca"] ∧
      once.subject.document.claimNames =
        ["claim-workspace-defdefde", "claim-workspace-fdefdefd"] ∧
      once.subject.document.SameShape second.subject.document := by
  intro cluster document pod reconciled first second once
  have ⟨_, same⟩ := reconcile_in_steps cluster (.durable .standard) { workspaceId := "ws" }
    (.durable .standard) (by decide) rfl [] rfl document pod (by decide)
    (.cycling #[0, 1, 2]) first.subject.draws (.cycling #[3, 4, 5])
  have fresh := same ⟨by decide, by decide, by decide, by decide⟩
  exact ⟨by decide, by decide, fresh.2⟩

end WorkspaceVolumes
