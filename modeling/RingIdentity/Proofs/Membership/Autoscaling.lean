import RingIdentity.Proofs.Membership.Alive
import RingIdentity.Proofs.Repeats
/-! # Membership through autoscaling groups

The autoscaling strategy reads the live members of the local rack from the rack's autoscaling
groups: the instance's own group, then the configured siblings.  Their names are trimmed, the
blank ones dropped and the repeats removed, so that each group is named once, in the order of
its first mention: removing repeats keeps every name at its first occurrence
(`pairwise_idxOf_eraseDups`).

With no name left the strategy refuses to ask the cloud, which would describe every group of
the account, and fails before a client is opened; otherwise one client is opened with the
credentials of the account's scope and one description of the named groups is asked for
(`describeGroups_eq`).  The capacity is asked in the own account's scope, drawn from the own
provider (`racMembershipSize_eq`).  The live
instances are the members of the described groups, group by group, whose lifecycle state has not
left the cluster (`isLiveState_iff`); the capacity of the rack is the sum of the groups' maximum
sizes, each an unsigned 32-bit count, so that the sum of fewer than 2^32 of them fits in 64 bits
(`declaredCapacity_lt`).

Main statement: `CloudMembership.autoScaling_membership`.
-/
namespace RingIdentity

/-! ## Live states and capacity -/

/-- An instance is live unless its state, ASCII letters lower-cased, is one of the departed
states. -/
theorem isLiveState_iff (s : String) :
    isLiveState s = true ↔ Text.lowerAscii s ∉ departedStates := by
  have hlow : departedStates.map Text.lowerAscii = departedStates := by decide
  simp only [isLiveState, Text.sameAsciiCase, Bool.not_eq_true', List.any_eq_false, beq_iff_eq]
  constructor
  · intro h hmem
    rw [← hlow] at hmem
    obtain ⟨d, hd, hds⟩ := List.mem_map.mp hmem
    exact h d hd hds.symm
  · intro h d hd hds
    exact h (hds ▸ hlow ▸ List.mem_map_of_mem hd)

/-- Every group adds less than 2^32 to the capacity. -/
theorem declaredCapacity_le (gs : List AutoScalingGroup) :
    declaredCapacity gs ≤ gs.length * (Nat.pow 2 32 - 1) := by
  induction gs with
  | nil => simp [declaredCapacity]
  | cons g gs ih =>
    have hg : g.maxSize.toNat < Nat.pow 2 32 := UInt32.toNat_lt g.maxSize
    simp only [declaredCapacity, List.map_cons, List.foldr_cons, List.length_cons] at ih ⊢
    rw [Nat.succ_mul]
    omega

/-- The capacity of fewer than 2^32 groups fits in 64 bits. -/
theorem declaredCapacity_lt (gs : List AutoScalingGroup) (h : gs.length < Nat.pow 2 32) :
    declaredCapacity gs < Nat.pow 2 64 := by
  have hmul : gs.length * (Nat.pow 2 32 - 1) < Nat.pow 2 32 * Nat.pow 2 32 :=
    Nat.mul_lt_mul_of_lt_of_le h (Nat.sub_le _ _) (by decide)
  calc declaredCapacity gs
      ≤ gs.length * (Nat.pow 2 32 - 1) := declaredCapacity_le gs
    _ < Nat.pow 2 32 * Nat.pow 2 32 := hmul
    _ = Nat.pow 2 64 := by decide

/-! ## The strategy -/

namespace CloudMembership

variable {m : Type → Type} [Monad m]

/-- Describing the groups: with no name, the failure comes before any client; otherwise one
client is opened with the scope's credentials and one description of exactly the named groups
asked for. -/
theorem describeGroups_eq (conn : CloudConnector m) (s : AccountScope) (names : List String) :
    describeGroups conn s names =
      if names = [] then pure (.error (.missingAutoScalingGroup s.info.instanceId))
      else conn.autoscaling s.credentials s.info.region >>= fun client =>
        client.describeAutoScalingGroups names >>= fun r =>
          pure (r.mapError (.cloud "describe_auto_scaling_groups" s.account)) := by
  simp only [describeGroups, List.isEmpty_iff]
  split
  · rfl
  · refine bind_congr fun client => bind_congr fun r => ?_
    cases r <;> rfl

variable [LawfulMonad m]

theorem strategyLive_autoScaling (conn : CloudConnector m) (s : AccountScope) :
    strategyLive conn (fun _ => pure ()) .autoScaling s =
      describeGroups conn s (groupNames s.info s.settings) >>= fun r =>
        pure (liveMembers <$> r) := by
  simp only [strategyLive]
  refine bind_congr fun r => ?_
  cases r <;> simp [Functor.map, Except.map]

theorem strategySize_autoScaling (conn : CloudConnector m) (s : AccountScope) :
    strategySize conn (fun _ => pure ()) .autoScaling s =
      describeGroups conn s (groupNames s.info s.settings) >>= fun r =>
        pure (declaredCapacity <$> r) := by
  simp only [strategySize]
  refine bind_congr fun r => ?_
  cases r <;> simp [Functor.map, Except.map]

/-- The capacity is asked in the own account's scope, with credentials drawn from the own
provider first. -/
theorem racMembershipSize_eq (conn : CloudConnector m) (c : CloudMembership m) :
    c.racMembershipSize conn (fun _ => pure ()) =
      c.own.credentials >>= fun k =>
        strategySize conn (fun _ => pure ()) c.kind (c.scopeWith .own k) := by
  simp only [racMembershipSize, scope_bind, providerOf]

/-- In a scope of the membership, the strategy describes the membership's groups with the scope's
credentials, and answers what it makes of them. -/
theorem describeGroups_scopeWith {β : Type} (conn : CloudConnector m) (c : CloudMembership m)
    (a : Account) (k : Credentials) (g : List AutoScalingGroup → β) :
    (describeGroups conn (c.scopeWith a k)
        (groupNames (c.scopeWith a k).info (c.scopeWith a k).settings) >>= fun r =>
        pure (g <$> r)) =
      if groupNames c.info c.settings = [] then
        pure (.error (.missingAutoScalingGroup c.info.instanceId))
      else (conn.autoscaling k c.info.region >>= fun client =>
          client.describeAutoScalingGroups (groupNames c.info c.settings)) >>= fun r =>
        pure (g <$> r.mapError (.cloud "describe_auto_scaling_groups" a)) := by
  rw [describeGroups_eq]
  -- the scope's groups are the membership's
  by_cases hn : groupNames c.info c.settings = []
  · rw [if_pos (show groupNames (c.scopeWith a k).info (c.scopeWith a k).settings = [] from hn),
      if_pos hn]
    simp
  · rw [if_neg (show ¬groupNames (c.scopeWith a k).info (c.scopeWith a k).settings = [] from hn),
      if_neg hn]
    simp only [scopeWith_credentials, scopeWith_info, scopeWith_settings, scopeWith_account,
      bind_assoc, pure_bind]

/-- **Membership through autoscaling groups.**  For every autoscaling membership, account,
credentials and cloud: the rack's groups are the trimmed, non-blank names among the own group and
the siblings, each once, in the order of their first mention, the own group first when it is not
blank.  With no such name, both the live instances and the capacity fail, naming the local
instance, before any client is opened.  Otherwise each opens one client with the credentials of
its account's scope (for the capacity, drawn from the own provider) and asks once for the
description of exactly those groups; a fault of that call is the answer, and otherwise the live
instances are the described members, group by group, whose state is not a departed one in any
ASCII case, and the capacity is the sum of the groups' maximum sizes, which fits in 64 bits for
fewer than 2^32 groups. -/
theorem autoScaling_membership (conn : CloudConnector m) (c : CloudMembership m)
    (hk : c.kind = .autoScaling) (a : Account) :
    let candidates :=
      ((c.info.autoScalingGroup :: c.settings.siblingAsgNames.items).map Text.trim).filter (· ≠ "")
    let names := groupNames c.info c.settings
    let describe (k : Credentials) :=
      conn.autoscaling k c.info.region >>= fun client => client.describeAutoScalingGroups names
    names.Nodup ∧ (∀ x, x ∈ names ↔ x ∈ candidates) ∧
      names.Pairwise (fun x y => candidates.idxOf x < candidates.idxOf y) ∧
      (Text.trim c.info.autoScalingGroup ≠ "" →
        names.head? = some (Text.trim c.info.autoScalingGroup)) ∧
      (∀ s, isLiveState s = true ↔ Text.lowerAscii s ∉ departedStates) ∧
      (∀ k, strategyLive conn (fun _ => pure ()) c.kind (c.scopeWith a k) =
        (if names = [] then pure (.error (.missingAutoScalingGroup c.info.instanceId))
        else describe k >>= fun r =>
          pure (liveMembers <$> r.mapError (.cloud "describe_auto_scaling_groups" a)))) ∧
      c.racMembershipSize conn (fun _ => pure ()) =
        (c.own.credentials >>= fun k =>
          if names = [] then pure (.error (.missingAutoScalingGroup c.info.instanceId))
          else describe k >>= fun r =>
            pure (declaredCapacity <$> r.mapError (.cloud "describe_auto_scaling_groups" .own))) ∧
      (∀ gs : List AutoScalingGroup, gs.length < Nat.pow 2 32 →
        declaredCapacity gs < Nat.pow 2 64) := by
  intro candidates names describe
  refine ⟨nodup_eraseDups candidates, fun x => List.mem_eraseDups,
    pairwise_idxOf_eraseDups candidates, fun hown => ?_, isLiveState_iff, fun k => ?_, ?_,
    declaredCapacity_lt⟩
  · -- the own group, trimmed, heads the candidates
    show candidates.eraseDups.head? = _
    rw [head?_eraseDups]
    simp [candidates, hown]
  · rw [hk, strategyLive_autoScaling, describeGroups_scopeWith]
  · rw [racMembershipSize_eq, hk]
    refine bind_congr fun k => ?_
    rw [strategySize_autoScaling, describeGroups_scopeWith]

theorem autoScaling_membership_of_padded_groups :
    let c : CloudMembership (StateM MemoryCloud) :=
      { kind := .autoScaling, settings := { siblingAsgNames := ⟨["cass-b", "cass-a"]⟩ },
        info := (InstanceInfo.make "i-local" "us-east-1" "us-east-1a").withAutoScalingGroup
          " cass-a ",
        own := .fixed ⟨"own-key", "own-secret", none⟩,
        cross := .fixed ⟨"own-key", "own-secret", none⟩ }
    let gs : List AutoScalingGroup := [⟨"cass-a", 4294967295, []⟩, ⟨"cass-b", 4294967295, []⟩]
    c.kind = .autoScaling ∧ Text.trim c.info.autoScalingGroup ≠ "" ∧
      (groupNames c.info c.settings).head? = some (Text.trim c.info.autoScalingGroup) ∧
      gs.length < Nat.pow 2 32 ∧ declaredCapacity gs < Nat.pow 2 64 := by
  intro c gs
  have hk : c.kind = .autoScaling := rfl
  have hown : Text.trim c.info.autoScalingGroup ≠ "" := by decide
  have hlen : gs.length < Nat.pow 2 32 := by decide
  have laws := autoScaling_membership (MemoryCloud.connector get set) c hk .own
  exact ⟨hk, hown, laws.2.2.2.1 hown, hlen, laws.2.2.2.2.2.2.2 gs hlen⟩

example :
    groupNames ((InstanceInfo.make "i-local" "us-east-1" "us-east-1a").withAutoScalingGroup
      " cass-a ") { siblingAsgNames := ⟨["cass-a", "x", "cass-a", "x"]⟩ } = ["cass-a", "x"] := by
  decide

end CloudMembership

end RingIdentity
