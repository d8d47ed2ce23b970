import RingIdentity.Proofs.Membership.Merge
import RingIdentity.Cloud.Memory
/-! # Whether a record's instance is alive

A cloud membership answers whether the instance holding a record is alive from the live instances
of its accounts.  A placeholder is never alive, and for it nothing is asked: the answer comes
without a single call, to the cloud or to a credential provider.  Otherwise the own account's
provider is asked for credentials and the own account's snapshot taken with them, and its
failure is the answer; a single-account cluster answers from it alone.  A dual-account cluster
then asks the cross provider given, or the own one again when none was, and takes the cross
account's snapshot with what it gives; its failure is the answer, and otherwise the instance is
alive when either snapshot holds it.  Providers are asked anew for each snapshot, so the
statements hold of providers whose credentials change from one call to the next.

A snapshot is what the strategy finds for the scope of an account: the account, the credentials
drawn for it, the local instance and the settings (`scope_bind`).  The logger is silent here:
logging decides nothing.  Each stage is stated once (`snapshot_quiet`, `liveInstances_quiet`,
`isInstanceAlive_quiet`) and the main statement, `CloudMembership.isInstanceAlive_created`, is
assembled from them.
-/
namespace RingIdentity

namespace CloudMembership

variable {m : Type → Type} [Monad m]

theorem isInstanceAlive_quiet (conn : CloudConnector m) (c : CloudMembership m)
    (r : RingInstance) :
    (c.access conn (fun _ => pure ())).isInstanceAlive r =
      if r.isPlaceholder then pure (.ok false)
      else c.liveInstances conn (fun _ => pure ()) >>= fun x =>
        pure (x.map fun live => decide (r.instanceId ∈ live)) := by
  simp only [access]
  split
  · rfl
  · refine bind_congr fun x => ?_
    cases x <;> simp [Except.map]

variable [LawfulMonad m]

/-- A membership built silently keeps the cross provider given, or uses the own one. -/
theorem create_quiet (kind : MembershipKind) (settings : MembershipSettings) (info : InstanceInfo)
    (own : CredentialProvider m) (cross : Option (CredentialProvider m)) :
    create (fun _ => (pure () : m Unit)) kind settings info own cross =
      pure { kind, settings, info, own, cross := cross.getD own } := by
  simp only [create]
  split <;> simp

/-- Drawing an account's scope asks the account's provider once. -/
theorem scope_bind {β : Type} (c : CloudMembership m) (a : Account) (f : AccountScope → m β) :
    c.scope a >>= f = (c.providerOf a).credentials >>= fun k => f (c.scopeWith a k) := by
  simp [scope]

theorem snapshot_quiet (conn : CloudConnector m) (c : CloudMembership m) (s : AccountScope) :
    c.snapshot conn (fun _ => pure ()) s = strategyLive conn (fun _ => pure ()) c.kind s := by
  simp only [snapshot]
  conv => rhs; rw [← bind_pure (strategyLive conn _ c.kind s)]
  refine bind_congr fun r => ?_
  cases r <;> simp

/-- The live instances of the cluster: the own snapshot, with credentials drawn from the own
provider, and in a dual-account cluster the cross one after it, with credentials drawn from the
cross provider then, merged; the first failure ends the query. -/
theorem liveInstances_quiet (conn : CloudConnector m) (c : CloudMembership m) :
    c.liveInstances conn (fun _ => pure ()) =
      c.own.credentials >>= fun k =>
        strategyLive conn (fun _ => pure ()) c.kind (c.scopeWith .own k) >>= fun
        | .error e => pure (.error e)
        | .ok own =>
          if c.settings.dualAccount then
            c.cross.credentials >>= fun k' =>
              strategyLive conn (fun _ => pure ()) c.kind (c.scopeWith .cross k') >>= fun
              | .error e => pure (.error e)
              | .ok cross => pure (.ok (mergeSnapshots own cross))
          else pure (.ok own) := by
  simp only [liveInstances, scope_bind, snapshot_quiet, providerOf]
  refine bind_congr fun k => bind_congr fun r => ?_
  rcases r with e | own
  · rfl
  · cases c.settings.dualAccount with
    | false => simp
    | true =>
      simp only [Bool.not_true, Bool.false_eq_true, ↓reduceIte]
      refine bind_congr fun k' => bind_congr fun r => ?_
      cases r <;> simp

/-- **Whether a record's instance is alive.**  For every strategy, settings, local instance,
credential providers and cloud: a placeholder is answered not alive at once, with no call made,
to the cloud or to a provider.  Any other record is looked up in the own account's snapshot
first, taken with credentials drawn from the own provider, whose failure is the answer; a
single-account cluster answers whether that snapshot holds the instance.  A dual-account cluster
then draws credentials from the cross provider given, or else from the own one again, and takes
the cross account's snapshot with them; its failure is the answer, and otherwise the instance is
alive when either snapshot holds it. -/
theorem isInstanceAlive_created (conn : CloudConnector m) (kind : MembershipKind)
    (settings : MembershipSettings) (info : InstanceInfo) (own : CredentialProvider m)
    (cross : Option (CredentialProvider m)) (r : RingInstance) :
    (create (fun _ => pure ()) kind settings info own cross >>= fun c =>
        (c.access conn (fun _ => pure ())).isInstanceAlive r) =
      if r.isPlaceholder then pure (.ok false)
      else own.credentials >>= fun k =>
        strategyLive conn (fun _ => pure ()) kind
          { account := .own, credentials := k, info, settings } >>= fun
        | .error e => pure (.error e)
        | .ok ownLive =>
          if settings.dualAccount then
            (cross.getD own).credentials >>= fun k' =>
              strategyLive conn (fun _ => pure ()) kind
                { account := .cross, credentials := k', info, settings } >>= fun
              | .error e => pure (.error e)
              | .ok crossLive =>
                pure (.ok (decide (r.instanceId ∈ ownLive ∨ r.instanceId ∈ crossLive)))
          else pure (.ok (decide (r.instanceId ∈ ownLive))) := by
  rw [create_quiet, pure_bind, isInstanceAlive_quiet]
  split
  · rfl
  · rw [liveInstances_quiet, bind_assoc]
    refine bind_congr fun k => ?_
    rw [bind_assoc]
    refine bind_congr fun x => ?_
    rcases x with e | ownLive
    · simp [Except.map]
    · dsimp only
      split
      · rw [bind_assoc]
        refine bind_congr fun k' => ?_
        rw [bind_assoc]
        refine bind_congr fun y => ?_
        -- the merge holds exactly the instances of the two snapshots
        cases y <;> simp [Except.map, mem_mergeSnapshots]
      · simp [Except.map]

theorem isInstanceAlive_created_in_memory :
    let conn : CloudConnector (StateM MemoryCloud) := MemoryCloud.connector get set
    let settings : MembershipSettings := { dualAccount := true }
    let info := InstanceInfo.make "i-1" "us-east-1" "us-east-1a"
    let own : CredentialProvider (StateM MemoryCloud) :=
      .fixed { accessKeyId := "own-key", secretAccessKey := "own-secret" }
    let r := RingInstance.make "cass_cluster" 0 "i-2"
    (create (fun _ => pure ()) .autoScaling settings info own none >>= fun c =>
        (c.access conn (fun _ => pure ())).isInstanceAlive r) =
      if r.isPlaceholder then pure (.ok false)
      else own.credentials >>= fun k =>
        strategyLive conn (fun _ => pure ()) .autoScaling
          { account := .own, credentials := k, info, settings } >>= fun
        | .error e => pure (.error e)
        | .ok ownLive =>
          if settings.dualAccount then
            (none.getD own).credentials >>= fun k' =>
              strategyLive conn (fun _ => pure ()) .autoScaling
                { account := .cross, credentials := k', info, settings } >>= fun
              | .error e => pure (.error e)
              | .ok crossLive =>
                pure (.ok (decide (r.instanceId ∈ ownLive ∨ r.instanceId ∈ crossLive)))
          else pure (.ok (decide (r.instanceId ∈ ownLive))) :=
  isInstanceAlive_created _ _ _ _ _ _ _

end CloudMembership

end RingIdentity
