import SecurityDashboards.Proofs.ResourceSharingProofs
import SecurityDashboards.SharingGrants

/-!
# Proofs: the sharing diff

Round by round, `diffShareWith` adds the grants of the next state that the previous one does not have,
and revokes those of the previous state that the next one does not have.
-/

namespace SecurityDashboards

namespace ResourceSharing

open SetDelta

variable {prev next : ShareWith} {g : String} {k : RecipientKey}

/-- The grants at a level to recipients of a kind. -/
def grantsTo (g : String) (k : RecipientKey) : Set Grant :=
  {grant | grant.level = g ∧ grant.kind = k}

theorem get_set_ne (r : ShareRecipients) {key key' : RecipientKey} (h : key' ≠ key)
    (values : List String) : (r.set key values).get key' = r.get key' := by
  cases key <;> cases key' <;> first | rfl | exact absurd rfl h

theorem recipientsAt_put (sw : ShareWith) (g : String) (r : ShareRecipients) (level : String) :
    recipientsAt (sw.put g r) level = if level = g then r else recipientsAt sw level := by
  unfold recipientsAt
  rw [Js.PlainObject.own_put]
  by_cases h : level = g
  · rw [if_pos h, if_pos h]
    rfl
  · rw [if_neg h, if_neg h]

theorem mem_recipientSet {sw : ShareWith} {x : String} :
    x ∈ recipientSet sw g k ↔ Grant.mk g k x ∈ grants sw :=
  List.mem_eraseDups

/-- What one assignment of the loop adds. -/
theorem grants_appendRecipients (sw : ShareWith) (g : String) (k : RecipientKey)
    (values : List String) :
    grants (appendRecipients sw g k values) =
      grants sw ∪ (grantsTo g k ∩ {grant | grant.recipient ∈ values}) := by
  ext ⟨level, kind, x⟩
  simp only [grants, grantsTo, Set.mem_union, Set.mem_inter_iff, Set.mem_ofPred_eq]
  unfold appendRecipients
  split_ifs with hvalues
  · rw [recipientsAt_put]
    by_cases hlevel : level = g
    · subst hlevel
      rw [if_pos rfl]
      by_cases hkind : kind = k
      · subst hkind
        rw [get_set, Option.getD_some, List.mem_append]
        simp
      · rw [get_set_ne _ hkind]
        simp [hkind]
    · rw [if_neg hlevel]
      simp [hlevel]
  · have hnil : values = [] := by
      rw [gt_iff_lt, List.length_pos_iff, not_not] at hvalues
      exact hvalues
    rw [hnil]
    simp

/-- One round, on both objects. -/
theorem grants_diffRound (prev next : ShareWith) (g : String) (k : RecipientKey)
    (acc : ShareWith × ShareWith) :
    grants (diffRound prev next g acc k).1 =
        grants acc.1 ∪ (grantsTo g k ∩ (grants next \ grants prev)) ∧
      grants (diffRound prev next g acc k).2 =
        grants acc.2 ∪ (grantsTo g k ∩ (grants prev \ grants next)) := by
  have hround : ∀ sw sw' : ShareWith,
      grantsTo g k ∩ {grant | grant.recipient ∈ (recipientSet sw g k).filter fun x =>
          !(recipientSet sw' g k).contains x} =
        grantsTo g k ∩ (grants sw \ grants sw') := by
    rintro sw sw'
    ext ⟨level, kind, x⟩
    simp only [grantsTo, Set.mem_inter_iff, Set.mem_ofPred_eq, Set.mem_sdiff]
    refine and_congr_right ?_
    rintro ⟨rfl, rfl⟩
    rw [List.mem_filter, mem_recipientSet, Bool.not_eq_true', List.contains_eq_mem,
      decide_eq_false_iff_not, mem_recipientSet]
  unfold diffRound
  dsimp only
  rw [grants_appendRecipients, grants_appendRecipients, hround, hround]
  exact ⟨rfl, rfl⟩

/-- The inner loop. -/
theorem grants_diffKeys (prev next : ShareWith) (g : String) (keys : List RecipientKey)
    (acc : ShareWith × ShareWith) :
    grants (keys.foldl (diffRound prev next g) acc).1 =
        grants acc.1 ∪ ({grant | grant.level = g ∧ grant.kind ∈ keys} ∩
          (grants next \ grants prev)) ∧
      grants (keys.foldl (diffRound prev next g) acc).2 =
        grants acc.2 ∪ ({grant | grant.level = g ∧ grant.kind ∈ keys} ∩
          (grants prev \ grants next)) := by
  induction keys generalizing acc with
  | nil => simp
  | cons k keys ih =>
    obtain ⟨hadd, hrevoke⟩ := ih (diffRound prev next g acc k)
    obtain ⟨hadd', hrevoke'⟩ := grants_diffRound prev next g k acc
    have hkeys : {grant : Grant | grant.level = g ∧ grant.kind ∈ k :: keys} =
        grantsTo g k ∪ {grant | grant.level = g ∧ grant.kind ∈ keys} := by
      ext grant
      simp only [grantsTo, Set.mem_ofPred_eq, Set.mem_union, List.mem_cons]
      tauto
    rw [List.foldl_cons, hadd, hrevoke, hadd', hrevoke', hkeys, Set.union_inter_distrib_right,
      Set.union_inter_distrib_right, Set.union_assoc, Set.union_assoc]
    exact ⟨rfl, rfl⟩

/-- The loop over the levels. -/
theorem grants_diffLevels (prev next : ShareWith) (levels : List String)
    (acc : ShareWith × ShareWith) :
    let changed := levels.foldl
      (fun acc g => RecipientKey.keys.foldl (diffRound prev next g) acc) acc
    grants changed.1 =
        grants acc.1 ∪ ({grant | grant.level ∈ levels} ∩ (grants next \ grants prev)) ∧
      grants changed.2 =
        grants acc.2 ∪ ({grant | grant.level ∈ levels} ∩ (grants prev \ grants next)) := by
  induction levels generalizing acc with
  | nil => simp
  | cons g levels ih =>
    obtain ⟨hadd, hrevoke⟩ := ih (RecipientKey.keys.foldl (diffRound prev next g) acc)
    obtain ⟨hadd', hrevoke'⟩ := grants_diffKeys prev next g RecipientKey.keys acc
    have hlevels : {grant : Grant | grant.level ∈ g :: levels} =
        {grant | grant.level = g ∧ grant.kind ∈ RecipientKey.keys} ∪
          {grant | grant.level ∈ levels} := by
      ext grant
      simp only [Set.mem_ofPred_eq, Set.mem_union, List.mem_cons, mem_keys, and_true]
    dsimp only at hadd hrevoke ⊢
    rw [List.foldl_cons, hadd, hrevoke, hadd', hrevoke', hlevels, Set.union_inter_distrib_right,
      Set.union_inter_distrib_right, Set.union_assoc, Set.union_assoc]
    exact ⟨rfl, rfl⟩

/-- A level with grants is a key of the state. -/
theorem level_mem_keys {sw : ShareWith} {grant : Grant} (h : grant ∈ grants sw) :
    grant.level ∈ sw.keys := by
  rw [← Js.PlainObject.own_isSome_iff]
  cases hown : sw.own grant.level with
  | some r => rfl
  | none =>
    have hnone : recipientsAt sw grant.level = {} := by
      rw [recipientsAt, hown]
      rfl
    rw [grants, Set.mem_ofPred_eq, hnone] at h
    cases hkind : grant.kind with
    | _ =>
      rw [hkind] at h
      cases h

theorem grants_empty : grants Js.PlainObject.empty = ∅ := by
  ext grant
  refine iff_of_false (fun h => ?_) (Set.notMem_empty _)
  have hkey := level_mem_keys h
  cases hkey

/-- The two objects at the end of the loops. -/
theorem grants_diffLoop (prev next : ShareWith) :
    let changed := diffLoop prev next (prev.keys ++ next.keys).eraseDups
    grants changed.1 = grants next \ grants prev ∧ grants changed.2 = grants prev \ grants next := by
  obtain ⟨hadd, hrevoke⟩ := grants_diffLevels prev next
    (prev.keys ++ next.keys).eraseDups (.empty, .empty)
  have hall : ∀ sw sw' : ShareWith, (∀ level ∈ sw.keys, level ∈ prev.keys ++ next.keys) →
      ({grant : Grant | grant.level ∈ (prev.keys ++ next.keys).eraseDups} ∩
        (grants sw \ grants sw')) = grants sw \ grants sw' := by
    intro sw sw' hkeys
    refine Set.inter_eq_right.mpr fun grant hgrant => ?_
    exact List.mem_eraseDups.mpr (hkeys _ (level_mem_keys hgrant.1))
  rw [grants_empty, Set.empty_union, hall _ _ fun level h => List.mem_append_right _ h] at hadd
  rw [grants_empty, Set.empty_union, hall _ _ fun level h => List.mem_append_left _ h] at hrevoke
  exact ⟨hadd, hrevoke⟩

/-! ## The result -/

theorem empty_iff {sw : ShareWith} : empty sw = true ↔ grants sw = ∅ := by
  have hlevels : empty sw = true ↔ ∀ level ∈ sw.props, hasNonEmptyRecipients level.2 = false := by
    rw [empty, Bool.or_eq_true, List.all_eq_true, List.isEmpty_iff]
    simp only [Bool.not_eq_true']
    refine or_iff_right_of_imp fun hkeys level hlevel => ?_
    have hmem : level.1 ∈ sw.keys := List.mem_map_of_mem hlevel
    rw [hkeys] at hmem
    cases hmem
  rw [hlevels, Set.eq_empty_iff_forall_notMem]
  constructor
  · intro hempty grant hgrant
    obtain ⟨r, hr⟩ := Option.isSome_iff_exists.mp
      (Js.PlainObject.own_isSome_iff.mpr (level_mem_keys hgrant))
    have hno := hempty (grant.level, r) (Js.PlainObject.own_eq_some_iff.mp hr)
    rw [← Bool.not_eq_true, hasNonEmptyRecipients_iff] at hno
    have hat : recipientsAt sw grant.level = r := by
      rw [recipientsAt, hr]
      rfl
    rw [grants, Set.mem_ofPred_eq, hat] at hgrant
    cases hvalues : r.get grant.kind with
    | none =>
      rw [hvalues] at hgrant
      cases hgrant
    | some values =>
      rw [hvalues] at hgrant
      exact hno ⟨grant.kind, values, hvalues, List.ne_nil_of_mem hgrant⟩
  · rintro hno ⟨level, r⟩ hlevel
    rw [← Bool.not_eq_true, hasNonEmptyRecipients_iff]
    rintro ⟨key, values, hvalues, hne⟩
    obtain ⟨x, rest, rfl⟩ := List.exists_cons_of_ne_nil hne
    refine hno ⟨level, key, x⟩ ?_
    have hat : recipientsAt sw level = r := by
      rw [recipientsAt, Js.PlainObject.own_eq_some_iff.mpr hlevel]
      rfl
    rw [grants, Set.mem_ofPred_eq, hat, hvalues]
    exact List.mem_cons_self

/-- An object without grants becomes undefined. -/
theorem granted_of_empty (sw : ShareWith) :
    granted (if empty sw then none else some sw) = grants sw ∧
      ((if empty sw then none else some sw) = none ↔ grants sw = ∅) := by
  cases hempty : empty sw with
  | true =>
    rw [if_pos rfl, empty_iff.mp hempty]
    exact ⟨rfl, iff_of_true rfl rfl⟩
  | false =>
    rw [if_neg Bool.false_ne_true]
    refine ⟨rfl, iff_of_false (fun h => by cases h) fun h => ?_⟩
    rw [← empty_iff, hempty] at h
    cases h

/-- The diff leads from the one state to the other and says nothing superfluous, and each half of it
is undefined exactly if there is nothing to say. -/
theorem diffShareWith_exact (prev next : ShareWith) :
    let diff := diffShareWith prev next
    IsDelta (grants prev) (grants next) (granted diff.add) (granted diff.revoke) ∧
      Disjoint (granted diff.add) (granted diff.revoke) ∧
      (diff.add = none ↔ grants next ⊆ grants prev) ∧
      (diff.revoke = none ↔ grants prev ⊆ grants next) := by
  obtain ⟨hadd, hrevoke⟩ := grants_diffLoop prev next
  obtain ⟨hadds, hnoAdd⟩ := granted_of_empty
    (diffLoop prev next (prev.keys ++ next.keys).eraseDups).1
  obtain ⟨hrevokes, hnoRevoke⟩ := granted_of_empty
    (diffLoop prev next (prev.keys ++ next.keys).eraseDups).2
  have hdelta := isDelta_diff (grants prev) (grants next)
  unfold diffShareWith
  dsimp only at hadd hrevoke ⊢
  rw [hadds, hrevokes, hnoAdd, hnoRevoke, hadd, hrevoke]
  exact ⟨hdelta, hdelta.disjoint, hdelta.add_eq_empty_iff, hdelta.revoke_eq_empty_iff⟩

end ResourceSharing

end SecurityDashboards
