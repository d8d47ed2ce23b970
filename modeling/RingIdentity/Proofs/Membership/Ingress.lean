import RingIdentity.Proofs.Membership.Alive
/-! # Ingress rules of the cluster's security group

Rule changes and lookups go to the cluster's security group with the own account's credentials,
drawn from the own provider once for each.  A change with no address range does nothing, asks no
provider and opens no client.  Otherwise a client is opened
and the group is addressed by its name in the flat network; in an isolated network it is looked
up by name within the network first, and addressed by the id of the first group found.  An
isolated network needs its id: without one, or with a blank one, the change fails before any
call, and a lookup that finds no group fails before any change (`changeAcl_quiet`,
`groupTarget_classic`, `groupTarget_vpc`).

Listing the rules asks for the group by name in the flat network and within the network in an
isolated one, where the network id is checked before any client is opened (`listAcl_of_query`,
`listAcl_vpc_missing`).
The answer is the set of address ranges of the rules that cover exactly the ports asked for, in
byte order: the ranges are inserted one by one into a sorted list free of repeats
(`sorted_coveredRanges`, `mem_coveredRanges`).

Main statement: `CloudMembership.ingress_routing`.
-/
namespace RingIdentity

/-! ## Sorted sets of ranges -/

theorem mem_insertSorted {x y : String} {l : List String} :
    x ∈ insertSorted y l ↔ x = y ∨ x ∈ l := by
  induction l with
  | nil => simp [insertSorted]
  | cons z l ih =>
    simp only [insertSorted]
    split_ifs with h₁ h₂
    · subst h₁
      simp
    · simp
    · simp only [List.mem_cons, ih]
      tauto

theorem sorted_insertSorted (y : String) {l : List String} (h : l.Pairwise (· < ·)) :
    (insertSorted y l).Pairwise (· < ·) := by
  induction l with
  | nil => simp [insertSorted]
  | cons z l ih =>
    obtain ⟨hz, hl⟩ := List.pairwise_cons.mp h
    simp only [insertSorted]
    split_ifs with h₁ h₂
    · exact h
    · -- the new range goes first: it is below `z`, hence below every later one
      refine List.pairwise_cons.mpr ⟨fun w hw => ?_, h⟩
      rcases List.mem_cons.mp hw with rfl | hw
      · exact h₂
      · exact h₂.trans (hz w hw)
    · have hlt : z < y := lt_of_le_of_ne (not_lt.mp h₂) (Ne.symm h₁)
      refine List.pairwise_cons.mpr ⟨fun w hw => ?_, ih hl⟩
      rcases mem_insertSorted.mp hw with rfl | hw
      · exact hlt
      · exact hz w hw

/-- Inserting ranges in turn into a sorted list keeps it sorted, and adds exactly them. -/
theorem foldl_insertSorted (rs : List String) {acc : List String} (h : acc.Pairwise (· < ·)) :
    (rs.foldl (fun acc r => insertSorted r acc) acc).Pairwise (· < ·) ∧
      ∀ x, x ∈ rs.foldl (fun acc r => insertSorted r acc) acc ↔ x ∈ acc ∨ x ∈ rs := by
  induction rs generalizing acc with
  | nil => simpa using h
  | cons r rs ih =>
    obtain ⟨hsorted, hmem⟩ := ih (sorted_insertSorted r h)
    refine ⟨hsorted, fun x => ?_⟩
    rw [List.foldl_cons, hmem, mem_insertSorted, List.mem_cons]
    tauto

theorem sorted_coveredRanges (gs : List SecurityGroup) (fromPort toPort : Nat) :
    (coveredRanges gs fromPort toPort).Pairwise (· < ·) :=
  (foldl_insertSorted _ List.Pairwise.nil).1

/-- The ranges listed are those of the rules, of any group found, that cover exactly the ports
asked for. -/
theorem mem_coveredRanges {gs : List SecurityGroup} {fromPort toPort : Nat} {x : String} :
    x ∈ coveredRanges gs fromPort toPort ↔
      ∃ g ∈ gs, ∃ p ∈ g.permissions, p.fromPort = fromPort ∧ p.toPort = toPort ∧
        x ∈ p.ipRanges := by
  rw [coveredRanges, (foldl_insertSorted _ List.Pairwise.nil).2]
  simp only [List.not_mem_nil, false_or, List.mem_flatMap, List.mem_filter,
    IpPermission.coversExactly, Bool.and_eq_true, beq_iff_eq]
  constructor
  · rintro ⟨p, ⟨⟨g, hg, hp⟩, hf, ht⟩, hx⟩
    exact ⟨g, hg, p, hp, hf, ht, hx⟩
  · rintro ⟨g, hg, p, hp, hf, ht, hx⟩
    exact ⟨p, ⟨⟨g, hg, hp⟩, hf, ht⟩, hx⟩

namespace CloudMembership

/-! ## The network id -/

variable {m : Type → Type}

theorem requireVpcId_eq_ok_iff (c : CloudMembership m) (v : String) :
    c.requireVpcId = .ok v ↔ c.info.vpcId = some v ∧ Text.isBlankText v = false := by
  unfold requireVpcId
  cases c.info.vpcId with
  | none => simp
  | some w =>
    by_cases hb : Text.isBlankText w = true
    · simp only [hb, ↓reduceIte, reduceCtorEq, Option.some.injEq, false_iff, not_and]
      rintro rfl
      simp [hb]
    · simp only [hb, Bool.false_eq_true, ↓reduceIte, Except.ok.injEq, Option.some.injEq]
      constructor
      · rintro rfl
        exact ⟨rfl, by simpa using hb⟩
      · rintro ⟨rfl, -⟩
        rfl

/-- Without a network id, or with a blank one, the id is missing. -/
theorem requireVpcId_of_blank {c : CloudMembership m}
    (h : ∀ v, c.info.vpcId = some v → Text.isBlankText v = true) :
    c.requireVpcId = .error .missingVpcId := by
  unfold requireVpcId
  split
  · rename_i w hw
    simp [h w hw]
  · rfl

/-! ## Rule changes -/

section Programs

variable [Monad m]

/-- The change of rules itself: one call adding (`grant`) or removing them, its fault reported
as a failed call of the own account. -/
def ingressCall (client : CloudClient m) (grant : Bool) (target : GroupTarget)
    (perms : List IpPermission) : m (Except MembershipError Unit) :=
  (if grant then client.authorizeIngress target perms else client.revokeIngress target perms) >>=
    fun r => pure (r.mapError (.cloud (if grant then "authorize_security_group_ingress"
      else "revoke_security_group_ingress") .own))

variable (c : CloudMembership m) (client : CloudClient m) (conn : CloudConnector m)

theorem groupTarget_classic (h : c.info.networkMode = .classic) :
    c.groupTarget (fun _ => pure ()) client = pure (.ok (.name c.settings.aclGroupName)) := by
  simp [groupTarget, h, NetworkMode.isVpc]

theorem groupTarget_vpc_missing (h : c.info.networkMode = .vpc) {e : MembershipError}
    (he : c.requireVpcId = .error e) :
    c.groupTarget (fun _ => pure ()) client = pure (.error e) := by
  simp [groupTarget, h, NetworkMode.isVpc, he]

theorem changeAcl_nil (grant : Bool) (fromPort toPort : Nat) :
    c.changeAcl conn (fun _ => pure ()) grant [] fromPort toPort = pure (.ok ()) := rfl

/-- Listing with an isolated network's id missing fails before any client. -/
theorem listAcl_vpc_missing (h : c.info.networkMode = .vpc) {e : MembershipError}
    (he : c.requireVpcId = .error e) (fromPort toPort : Nat) :
    c.listAcl conn (fun _ => pure ()) fromPort toPort = pure (.error .missingVpcId) := by
  simp [listAcl, h, NetworkMode.isVpc, he]

variable [LawfulMonad m]

/-- In an isolated network the group is looked up by name within the network; the first group
found is addressed by its id. -/
theorem groupTarget_vpc (h : c.info.networkMode = .vpc) {v : String}
    (hv : c.requireVpcId = .ok v) :
    c.groupTarget (fun _ => pure ()) client =
      client.describeSecurityGroups (.byNameInVpc c.settings.aclGroupName v) >>= fun
        | .error e => pure (.error (.cloud "describe_security_groups" .own e))
        | .ok [] => pure (.error (.securityGroupNotFound c.settings.aclGroupName v))
        | .ok (g :: _) => pure (.ok (.id g.groupId)) := by
  simp only [groupTarget, h, NetworkMode.isVpc, Bool.not_true, Bool.false_eq_true, ↓reduceIte,
    hv]
  refine bind_congr fun r => ?_
  rcases r with e | _ | ⟨g, gs⟩ <;> simp

/-- A change of rules for some ranges: a client is opened with credentials drawn from the own
provider, the group resolved, and the change made once. -/
theorem changeAcl_quiet (grant : Bool) {ranges : List String} (hr : ranges ≠ [])
    (fromPort toPort : Nat) :
    c.changeAcl conn (fun _ => pure ()) grant ranges fromPort toPort =
      (c.own.credentials >>= fun k => conn.compute k c.info.region) >>=
        fun (client : CloudClient m) =>
        c.groupTarget (fun _ => pure ()) client >>= fun
          | .error e => pure (.error e)
          | .ok target =>
            ingressCall client grant target [IpPermission.tcp ranges fromPort toPort] := by
  simp only [changeAcl, List.isEmpty_iff, hr, ↓reduceIte, bind_assoc]
  refine bind_congr fun k => bind_congr fun client => bind_congr fun r => ?_
  rcases r with e | target
  · rfl
  · -- the change is made once, by the call `grant` picks, and its answer passed on
    cases grant <;>
    · simp only [ingressCall, Bool.false_eq_true, ↓reduceIte]
      refine bind_congr fun r => ?_
      cases r <;> simp [Except.mapError]

/-- Listing asks one client for the groups a query finds, and keeps the ranges that cover the
ports exactly. -/
theorem listAcl_of_query {q : SecurityGroupQuery}
    (hq : (if c.info.networkMode.isVpc then
        (SecurityGroupQuery.byNameInVpc c.settings.aclGroupName ·) <$> c.requireVpcId
      else .ok (.byNames [c.settings.aclGroupName]) : Except MembershipError _) = .ok q)
    (fromPort toPort : Nat) :
    c.listAcl conn (fun _ => pure ()) fromPort toPort =
      (c.own.credentials >>= fun k => conn.compute k c.info.region) >>=
        fun (client : CloudClient m) =>
        client.describeSecurityGroups q >>= fun r =>
          pure ((coveredRanges · fromPort toPort) <$>
            r.mapError (.cloud "describe_security_groups" .own)) := by
  simp only [listAcl, hq, bind_assoc]
  refine bind_congr fun k => bind_congr fun client => bind_congr fun r => ?_
  cases r <;> simp [Except.mapError, Functor.map, Except.map]

/-- **Routing of ingress rules by network.**  For every cloud membership, cloud, ranges and pair
of ports, with the change adding rules (`grant`, for `addAcl`) or removing them (for
`removeAcl`): a change of no range succeeds at once, with no provider asked and no client.  In the
flat network a change draws credentials from the own provider, opens one client with them and
makes one call to the group of the
cluster's name, with one TCP rule of the ranges, in order, and the ports; a listing asks that
client for the groups of that name.  In an isolated network without an id, or with a blank one,
a change opens its client and fails for the missing id with no call, and a listing fails so
before any client.  With an id, a change first looks the group up by name within the network,
fails if none is found with no change made, and otherwise changes the rules of the first group
found, by id; a listing asks for the groups of that name within the network.  A listing answers
the ranges, sorted in byte order and each once, of every rule of every group found that covers
exactly the ports asked for; a failed call of the cloud is reported as such, against the own
account. -/
theorem ingress_routing (conn : CloudConnector m) (c : CloudMembership m) (grant : Bool)
    (ranges : List String) (fromPort toPort : Nat) :
    let name := c.settings.aclGroupName
    let perms := [IpPermission.tcp ranges fromPort toPort]
    let change := c.changeAcl conn (fun _ => pure ()) grant ranges fromPort toPort
    let list := c.listAcl conn (fun _ => pure ()) fromPort toPort
    let opened := c.own.credentials >>= fun k => conn.compute k c.info.region
    let listed (r : Except CloudError (List SecurityGroup)) :
        Except MembershipError (List String) :=
      (coveredRanges · fromPort toPort) <$> r.mapError (.cloud "describe_security_groups" .own)
    (ranges = [] → change = pure (.ok ())) ∧
      (c.info.networkMode = .classic →
        (ranges ≠ [] →
          change = opened >>= fun client => ingressCall client grant (.name name) perms) ∧
        list = opened >>= fun client =>
          client.describeSecurityGroups (.byNames [name]) >>= fun r => pure (listed r)) ∧
      (c.info.networkMode = .vpc → (∀ v, c.info.vpcId = some v → Text.isBlankText v = true) →
        (ranges ≠ [] → change = opened >>= fun _ => pure (.error .missingVpcId)) ∧
        list = pure (.error .missingVpcId)) ∧
      (∀ v, c.info.networkMode = .vpc → c.info.vpcId = some v → Text.isBlankText v = false →
        (ranges ≠ [] → change = opened >>= fun client =>
          client.describeSecurityGroups (.byNameInVpc name v) >>= fun
            | .error e => pure (.error (.cloud "describe_security_groups" .own e))
            | .ok [] => pure (.error (.securityGroupNotFound name v))
            | .ok (g :: _) => ingressCall client grant (.id g.groupId) perms) ∧
        list = opened >>= fun client =>
          client.describeSecurityGroups (.byNameInVpc name v) >>= fun r => pure (listed r)) ∧
      (∀ gs, (coveredRanges gs fromPort toPort).Pairwise (· < ·) ∧
        ∀ x, x ∈ coveredRanges gs fromPort toPort ↔
          ∃ g ∈ gs, ∃ p ∈ g.permissions, p.fromPort = fromPort ∧ p.toPort = toPort ∧
            x ∈ p.ipRanges) := by
  dsimp only
  refine ⟨fun hr => hr ▸ changeAcl_nil c conn grant fromPort toPort, fun h => ⟨fun hr => ?_, ?_⟩,
    fun h hblank => ⟨fun hr => ?_, ?_⟩, fun v h hv hb => ?_,
    fun gs => ⟨sorted_coveredRanges gs fromPort toPort, fun x => mem_coveredRanges⟩⟩
  · -- the flat network: the group goes by name
    simp only [changeAcl_quiet c conn grant hr, groupTarget_classic c _ h, pure_bind]
  · exact listAcl_of_query c conn (by simp [h, NetworkMode.isVpc]) fromPort toPort
  · -- an isolated network without its id: no call after the client is opened
    simp only [changeAcl_quiet c conn grant hr,
      groupTarget_vpc_missing c _ h (requireVpcId_of_blank hblank), pure_bind]
  · exact listAcl_vpc_missing c conn h (requireVpcId_of_blank hblank) fromPort toPort
  · -- an isolated network with its id: the group is looked up first
    have hid : c.requireVpcId = .ok v := (requireVpcId_eq_ok_iff c v).mpr ⟨hv, hb⟩
    refine ⟨fun hr => ?_,
      listAcl_of_query c conn (by simp [h, NetworkMode.isVpc, hid]) fromPort toPort⟩
    rw [changeAcl_quiet c conn grant hr]
    refine bind_congr fun client => ?_
    rw [groupTarget_vpc c client h hid, bind_assoc]
    refine bind_congr fun r => ?_
    rcases r with e | _ | ⟨g, gs⟩ <;> simp

end Programs

theorem ingress_routing_in_vpc :
    let c : CloudMembership (StateM MemoryCloud) :=
      { kind := .autoScaling, settings := { aclGroupName := "cass-sg" },
        info := (InstanceInfo.make "i-local" "us-east-1" "us-east-1a").inVpc "vpc-1",
        own := .fixed ⟨"own-key", "own-secret", none⟩,
        cross := .fixed ⟨"own-key", "own-secret", none⟩ }
    let conn : CloudConnector (StateM MemoryCloud) := MemoryCloud.connector get set
    let ranges := ["10.0.0.1/32", "10.0.0.2/32"]
    c.info.networkMode = .vpc ∧ c.info.vpcId = some "vpc-1" ∧ Text.isBlankText "vpc-1" = false ∧
      ranges ≠ [] ∧
      c.changeAcl conn (fun _ => pure ()) true ranges 7000 7001 =
        (c.own.credentials >>= fun k => conn.compute k c.info.region) >>= fun client =>
          client.describeSecurityGroups (.byNameInVpc "cass-sg" "vpc-1") >>= fun
            | .error e => pure (.error (.cloud "describe_security_groups" .own e))
            | .ok [] => pure (.error (.securityGroupNotFound "cass-sg" "vpc-1"))
            | .ok (g :: _) =>
              ingressCall client true (.id g.groupId) [IpPermission.tcp ranges 7000 7001] := by
  intro c conn ranges
  have h : c.info.networkMode = .vpc := rfl
  have hv : c.info.vpcId = some "vpc-1" := rfl
  have hb : Text.isBlankText "vpc-1" = false := by decide
  have hr : ranges ≠ [] := by simp [ranges]
  exact ⟨h, hv, hb, hr,
    ((ingress_routing conn c true ranges 7000 7001).2.2.2.1 "vpc-1" h hv hb).1 hr⟩

end CloudMembership

end RingIdentity
