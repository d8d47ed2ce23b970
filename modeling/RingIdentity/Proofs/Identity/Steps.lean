import RingIdentity.Identity.Bootstrap
/-! # Bootstrap, one registry read at a time

Each stage of resolving an identity is a registry read followed by a decision on its answer.
With the logger silenced, which changes no decision, the stages read as such, in any lawful
monad:

* `scan_eq`: a scan reads its namespace and answers the first record of the node's instance;
* `claim_eq`: a single-shot strategy is handed the rack map of a fresh read of the live
  namespace, and its failure is tagged with the strategy;
* `mintAttempt_eq`: a mint attempt does the same, but a failed read is the attempt's failure;
* `resolve_eq`: the identity of a won record, built at once;
* `tryStrategies_cons`: the first strategy is asked, by minting or by a single claim, and an
  empty answer passes on to the rest.

Later proofs cite these and never unfold the stages again.
-/
namespace RingIdentity

namespace Identity

variable {m : Type → Type} [Monad m] [LawfulMonad m]

theorem scan_eq (ctx : IdentityContext m) (hlog : ctx.log = fun _ => pure ()) (space : String)
    (dead : Bool) :
    scan ctx space dead = ctx.registry.allIds space >>= fun x => pure (match x with
      | .error e => .error (.registry space e)
      | .ok rs => .ok (rs.find? (·.instanceId == ctx.info.instanceId))) := by
  rw [scan, hlog]
  refine bind_congr fun x => ?_
  cases x with
  | error e => rfl
  | ok rs =>
    simp only [pure_bind]
    split <;> rename_i h <;> rw [h]

theorem claim_eq (ctx : IdentityContext m) (acq : Acquisition) (retriever : TokenRetriever m) :
    claim ctx acq retriever = ctx.registry.allIds ctx.settings.app >>= fun x => match x with
      | .error e => pure (.error (.registry ctx.settings.app e))
      | .ok rs =>
        retriever (RackMap.ofInstances rs) >>= fun y => pure (y.mapError (.retriever acq)) := by
  simp only [claim, rackMapOf, loadRackMap, bind_assoc, pure_bind]
  refine bind_congr fun x => ?_
  cases x <;> rfl

theorem mintAttempt_eq (ctx : IdentityContext m) (hlog : ctx.log = fun _ => pure ()) (k : Nat) :
    mintAttempt ctx k = ctx.registry.allIds ctx.settings.app >>= fun x => match x with
      | .error e => pure (.error (.registry e))
      | .ok rs => ctx.new (RackMap.ofInstances rs) := by
  simp only [mintAttempt, loadRackMap, hlog, bind_assoc, pure_bind]
  refine bind_congr fun x => ?_
  cases x with
  | error e => rfl
  | ok rs =>
    dsimp only [Functor.map, Except.map]
    -- the warning on a failed attempt is the only thing done after the strategy answers
    conv => rhs; rw [← bind_pure (ctx.new _)]
    refine bind_congr fun r => ?_
    cases r <;> simp

theorem resolve_eq (ctx : IdentityContext m) (hlog : ctx.log = fun _ => pure ())
    (r : RingInstance) (acq : Acquisition) (outOfService : Bool) (replacedIp : Option String) :
    resolve ctx r acq outOfService replacedIp =
      pure { inst := r, info := ctx.info, settings := ctx.settings, acquisition := acq,
             outOfService, isReplace := acq == .dead, replacedIp := replacedIp.getD "",
             backupIdentifier := backupOf r } := by
  simp [resolve, hlog]

theorem tryStrategies_cons (ctx : IdentityContext m) (hlog : ctx.log = fun _ => pure ())
    (acq : Acquisition) (retriever : TokenRetriever m) (rest : List (Acquisition × TokenRetriever m)) :
    tryStrategies ctx ((acq, retriever) :: rest) =
      (if acq == .new then mint ctx else claim ctx acq retriever) >>= fun answer =>
        match answer with
        | .error e => pure (.error e)
        | .ok (some c) => resolve ctx c.inst acq false c.replacedIp >>= fun i => pure (.ok i)
        | .ok none => tryStrategies ctx rest := by
  rw [tryStrategies]
  -- the strategy's answer is bound under either branch of the choice of strategy
  split <;>
    refine bind_congr fun answer => ?_ <;>
    rcases answer with e | _ | c <;> simp [hlog]

end Identity

end RingIdentity
