import WorkspaceVolumes.Proofs.Renaming

/-!
# Durable choices without their order

Which volumes get a claim made for them does not depend on the order in which sites are bound:
it is those that some site needs, and for which there is neither a listed nor a planned claim.
A `Settlement` is an account of durable choices in these terms.  Unlike a `Ledger` it needs
the names to be new, and it forgets the stock; so the accounts of two passes are put together
to one, although the second pass finds the claims of the first where it finds planned ones.

**Up to names.**  Two accounts over the same claims and for the same sites have made claims
for the same volumes.  A renaming that takes the names of these claims to each other takes the
names of all bindings to each other.

## Main definitions

* `Settlement`: the account.

## Main statements

* `Ledger.settlement`: a durable pass has an account if the drawn names are new and differ.
* `Settlement.append`: the account of two passes.
* `Settlement.perm_volumes`, `Settlement.renamed_name`: two accounts for the same sites.
-/

namespace WorkspaceVolumes

/-- An account of durable choices under names that are new to the document and differ: each
binding has the claim that is next in precedence, and a claim was made for just those volumes
that were needed and had none, one for each. -/
structure Settlement (existing : StringMap String) (claims : StringMap Claim)
    (done : List Binding) (issues : List Issue) : Prop where
  origin : ∀ binding ∈ done, Backs existing (claimsByVolume claims.values) issues
    binding.site.declaration.volumeName binding.name
  missing : ∀ issue ∈ issues, existing.get? issue.volumeName = none
  unplanned : ∀ issue ∈ issues, (claimsByVolume claims.values).get? issue.volumeName = none
  needed : ∀ issue ∈ issues, ∃ binding ∈ done,
    binding.site.declaration.volumeName = issue.volumeName
  distinct : (issues.map (·.volumeName)).Nodup

section

variable {strategy : DurableStrategy} {workspaceId : String} {existing : StringMap String}
  {start left : Stock} {claims : StringMap Claim} {done others : List Binding}
  {issues more : List Issue}

/-- A ledger is an account if its names are new and differ. -/
theorem Ledger.settlement (ledger : Ledger strategy workspaceId existing start done left issues)
    (fresh : ∀ issue ∈ issues, start.claims.get? issue.name = none)
    (different : (issues.map (·.name)).Nodup) :
    Settlement existing start.claims done issues where
  origin := ledger.origin fresh
  missing := ledger.missing
  unplanned := ledger.unplanned fresh
  needed issue member := by
    obtain ⟨binding, bound, same, -⟩ := ledger.needed issue member
    exact ⟨binding, bound, same⟩
  distinct := ledger.distinct fresh different

variable {renamed : Equiv.Perm String}

/-- A renaming that takes the names of made claims to those of others, volume by volume, takes
the claims to the others. -/
theorem perm_map_rename_issues
    (volumes : (issues.map (·.volumeName)).Perm (more.map (·.volumeName)))
    (distinct : (issues.map (·.volumeName)).Nodup)
    (takes : ∀ issue ∈ issues, ∀ other ∈ more, issue.volumeName = other.volumeName →
      renamed issue.name = other.name) :
    (issues.map (·.rename renamed)).Perm more := by
  have renamedVolumes : (issues.map (·.rename renamed)).map (·.volumeName) =
      issues.map (·.volumeName) := by
    rw [List.map_map]
    rfl
  have nodup : (issues.map (·.rename renamed)).Nodup := by
    refine List.Nodup.of_map (·.volumeName) ?_
    rwa [renamedVolumes]
  have nodupMore : more.Nodup :=
    List.Nodup.of_map (·.volumeName) (volumes.nodup_iff.1 distinct)
  refine (List.perm_ext_iff_of_nodup nodup nodupMore).2 fun found => ?_
  constructor
  · intro member
    obtain ⟨issue, made, rfl⟩ := List.mem_map.1 member
    obtain ⟨other, otherMade, same⟩ := List.mem_map.1
      (volumes.mem_iff.1 (List.mem_map_of_mem (f := Issue.volumeName) made))
    rwa [Issue.rename_eq same.symm (takes issue made other otherMade same.symm)]
  · intro member
    obtain ⟨issue, made, same⟩ := List.mem_map.1
      (volumes.mem_iff.2 (List.mem_map_of_mem (f := Issue.volumeName) member))
    exact List.mem_map.2 ⟨issue, made, Issue.rename_eq same (takes issue made found member same)⟩

namespace Settlement

/-- **The account of two passes**, the second on the claims that the first has left, is the
one of both together. -/
theorem append (first : Settlement existing claims done issues)
    (second : Settlement existing (issueAll strategy workspaceId issues claims) others more)
    (fresh : ∀ issue ∈ issues, claims.get? issue.name = none)
    (different : (issues.map (·.name)).Nodup) :
    Settlement existing claims (done ++ others) (issues ++ more) where
  origin := by
    refine List.forall_mem_append.2 ⟨fun binding member => ?_, fun binding member => ?_⟩
    · exact (first.origin binding member).mono fun _ => List.mem_append_left _
    · cases second.origin binding member with
      | existing found => exact .existing found
      | planned missing found =>
        exact (backs_of_planned_issueAll fresh first.unplanned missing found).mono
          fun _ => List.mem_append_left _
      | made missing unplanned made =>
        exact .made missing (unplanned_of_issueAll fresh unplanned)
          (List.mem_append_right _ made)
  missing := List.forall_mem_append.2 ⟨first.missing, second.missing⟩
  unplanned := List.forall_mem_append.2 ⟨first.unplanned, fun issue member =>
    unplanned_of_issueAll fresh (second.unplanned issue member)⟩
  needed := by
    refine List.forall_mem_append.2 ⟨fun issue member => ?_, fun issue member => ?_⟩
    · obtain ⟨binding, bound, same⟩ := first.needed issue member
      exact ⟨binding, List.mem_append_left _ bound, same⟩
    · obtain ⟨binding, bound, same⟩ := second.needed issue member
      exact ⟨binding, List.mem_append_right _ bound, same⟩
  distinct := by
    rw [List.map_append, List.nodup_append]
    refine ⟨first.distinct, second.distinct, fun old isOld new isNew same => ?_⟩
    obtain ⟨issue, member, rfl⟩ := List.mem_map.1 isNew
    exact notMem_volumes_of_issueAll different (second.unplanned issue member) (same ▸ isOld)

/-- A claim is made for a volume just if some binding needs it, and there is none. -/
theorem mem_volumes_iff (settlement : Settlement existing claims done issues)
    {volumeName : String} :
    volumeName ∈ issues.map (·.volumeName) ↔
      existing.get? volumeName = none ∧
        (claimsByVolume claims.values).get? volumeName = none ∧
        volumeName ∈ (done.map (·.site)).map (·.declaration.volumeName) := by
  rw [List.map_map]
  constructor
  · intro made
    obtain ⟨issue, member, rfl⟩ := List.mem_map.1 made
    obtain ⟨binding, bound, same⟩ := settlement.needed issue member
    exact ⟨settlement.missing issue member, settlement.unplanned issue member,
      List.mem_map.2 ⟨binding, bound, same⟩⟩
  · rintro ⟨missing, unplanned, needed⟩
    obtain ⟨binding, bound, rfl⟩ := List.mem_map.1 needed
    cases settlement.origin binding bound with
    | existing found => cases missing.symm.trans found
    | planned _ found => cases unplanned.symm.trans found
    | made _ _ member => exact List.mem_map_of_mem (f := Issue.volumeName) member

/-- Where the same sites are bound, claims are made for the same volumes. -/
theorem perm_volumes (first : Settlement existing claims done issues)
    (second : Settlement existing claims others more)
    (sites : (done.map (·.site)).Perm (others.map (·.site))) :
    (issues.map (·.volumeName)).Perm (more.map (·.volumeName)) := by
  refine (List.perm_ext_iff_of_nodup first.distinct second.distinct).2 fun volumeName => ?_
  rw [first.mem_volumes_iff, second.mem_volumes_iff, (sites.map _).mem_iff]

/-- A renaming that takes the names of made claims to those of others, volume by volume, and
leaves the names of the claims alone that were there, takes the names of bindings to each
other, site by site. -/
theorem renamed_name (first : Settlement existing claims done issues)
    (second : Settlement existing claims others more)
    (takes : ∀ issue ∈ issues, ∀ other ∈ more, issue.volumeName = other.volumeName →
      renamed issue.name = other.name)
    (keepsExisting : ∀ volumeName name, existing.get? volumeName = some name →
      renamed name = name)
    (keepsPlanned : ∀ volumeName name,
      (claimsByVolume claims.values).get? volumeName = some name → renamed name = name) :
    ∀ binding ∈ done, ∀ other ∈ others, binding.site = other.site →
      renamed binding.name = other.name := by
  intro binding isBinding other isOther same
  have origin := first.origin binding isBinding
  have otherOrigin := second.origin other isOther
  rw [← same] at otherOrigin
  cases origin with
  | existing found =>
    cases otherOrigin with
    | existing again =>
      rw [keepsExisting _ _ found]
      exact Option.some.inj (found.symm.trans again)
    | planned missing _ | made missing _ _ => cases missing.symm.trans found
  | planned missing found =>
    cases otherOrigin with
    | existing again => cases missing.symm.trans again
    | planned _ again =>
      rw [keepsPlanned _ _ found]
      exact Option.some.inj (found.symm.trans again)
    | made _ unplanned _ => cases unplanned.symm.trans found
  | made missing unplanned member =>
    cases otherOrigin with
    | existing again => cases missing.symm.trans again
    | planned _ again => cases unplanned.symm.trans again
    | made _ _ otherMember => exact takes _ member _ otherMember rfl

end Settlement

end

end WorkspaceVolumes
