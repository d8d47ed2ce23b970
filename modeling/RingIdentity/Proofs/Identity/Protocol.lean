import RingIdentity.Proofs.Program
import RingIdentity.Proofs.Identity.Steps
/-! # The bootstrap protocol

Run against a world that answers its calls, bootstrap is a tree of calls: reads of registry
namespaces, and answers of the three token strategies on rack maps.  `protocol` writes that tree
down as the contract of bootstrap states it, and `bootstrap_eq_protocol` proves the two equal for
all settings and instances.  Equal trees make the same calls in the same order and decide alike
on every answer, so the equality covers every content of the registry, every failed read and
every behaviour of the strategies.  The logger is silent here; it decides nothing.

The contract, as `protocol` has it:

* the node looks for its own record, the first of its instance, among the dead (`app-dead`), then
  among the live (`lookIn`); a record found is taken as it is, out of service when it was dead,
  and no strategy is asked; a failed read aborts, naming its namespace;
* otherwise the dead-token strategy and then the pre-generated one are asked, each once, on the
  rack map of a read of the live namespace made just before (`single`); a claim decides, a
  failure aborts with the strategy, and nothing on offer passes on (`conclude`);
* minting is refused when new tokens are forbidden; otherwise each attempt reads the live
  namespace afresh and asks the strategy (`attempt`), a failed read failing the attempt, and
  attempts go on while they fail, as many as the retry policy allows and at least one
  (`minting`); the last failure is reported with the number of attempts made;
* the identity taken on a record (`take`) holds it verbatim, and replaces another node exactly
  when it took over a dead peer's token.
-/
namespace RingIdentity

namespace Protocol

/-- What resolving an identity asks of its world: a registry operation, or a strategy's answer on
a rack map. -/
inductive Call where
  | registry (c : RegistryCall)
  | retrieve (acq : Acquisition) (map : RackMap)

/-- The answers a call may get. -/
def Call.Answer : Call → Type
  | .registry c => c.Answer
  | .retrieve _ _ => Except RetrieverError (Option TokenClaim)

/-- Programs whose calls are registry operations and strategy answers. -/
abbrev BootProg := Prog Call Call.Answer

/-- A read of a namespace. -/
def read (space : String) : BootProg (Except RegistryError (List RingInstance)) :=
  .call (.registry (.allIds space)) .done

/-- Asks a strategy on a rack map. -/
def ask (acq : Acquisition) (map : RackMap) : BootProg (Except RetrieverError (Option TokenClaim)) :=
  .call (.retrieve acq map) .done

/-- A node whose registry and strategies are left to the world: each registry operation and each
strategy answer is one call. -/
def context (settings : IdentitySettings) (info : InstanceInfo)
    (membership : MembershipAccess BootProg) : IdentityContext BootProg where
  settings := settings
  info := info
  registry := Prog.registryVia fun c => .call (.registry c) .done
  membership := membership
  dead := ask .dead
  preGenerated := ask .preGenerated
  new := ask .new
  log := fun _ => pure ()

section Spec

variable (settings : IdentitySettings) (info : InstanceInfo)

/-- The identity a node takes on a record: the record verbatim, with how it came by it; it
replaces another node exactly when it took over a dead peer's token. -/
def take (r : RingInstance) (acq : Acquisition) (outOfService : Bool)
    (replacedIp : Option String) : Identity where
  inst := r
  info := info
  settings := settings
  acquisition := acq
  outOfService := outOfService
  isReplace := acq == .dead
  replacedIp := replacedIp.getD ""
  backupIdentifier := Identity.backupOf r

/-- Looks for the node's own record, the first of its instance, in a namespace; `next` goes on
when it is not there. -/
def lookIn (space : String) (outOfService : Bool) (next : BootProg (Except IdentityError Identity)) :
    BootProg (Except IdentityError Identity) := do
  match ← read space with
  | .error e => return .error (.registry space e)
  | .ok rs =>
    match rs.find? (·.instanceId == info.instanceId) with
    | some r => return .ok (take settings info r .reclaimed outOfService none)
    | none => next

/-- A single-shot strategy, asked once on a fresh read of the live namespace. -/
def single (acq : Acquisition) : BootProg (Except IdentityError (Option TokenClaim)) := do
  match ← read settings.app with
  | .error e => return .error (.registry settings.app e)
  | .ok rs => return (← ask acq (RackMap.ofInstances rs)).mapError (.retriever acq)

/-- One mint attempt: a fresh read of the live namespace, then the strategy; a failed read fails
the attempt. -/
def attempt : BootProg (Except RetrieverError (Option TokenClaim)) := do
  match ← read settings.app with
  | .error e => return .error (.registry e)
  | .ok rs => ask .new (RackMap.ofInstances rs)

/-- Attempt `k` of minting, with `left` more attempts allowed after it: the first attempt that
does not fail decides, and the failure of the last is the run's, with its number. -/
def minting (k : Nat) : Nat → BootProg (Except (Exhausted RetrieverError) (Option TokenClaim))
  | 0 => do
    match ← attempt settings with
    | .ok v => return .ok v
    | .error e => return .error ⟨k, e⟩
  | left + 1 => do
    match ← attempt settings with
    | .ok v => return .ok v
    | .error _ => minting (k + 1) left

/-- Minting, refused when new tokens are forbidden: attempts from the first, as many as the
policy allows and at least one. -/
def mint : BootProg (Except IdentityError (Option TokenClaim)) :=
  if settings.createNewToken then
    minting settings 1 (settings.newTokenRetry.attempts - 1) >>= fun r =>
      pure (r.mapError fun x => .mintExhausted x.attempts x.lastError)
  else pure (.error .newTokenForbidden)

/-- A strategy's answer: a claim decides, a failure aborts, and nothing on offer goes on with
`next`. -/
def conclude (acq : Acquisition) (next : BootProg (Except IdentityError Identity)) :
    Except IdentityError (Option TokenClaim) → BootProg (Except IdentityError Identity)
  | .error e => pure (.error e)
  | .ok (some c) => pure (.ok (take settings info c.inst acq false c.replacedIp))
  | .ok none => next

/-- The protocol: the node's own record among the dead, then among the live; else a dead peer's
token, a pre-generated slot and a new token in turn. -/
def protocol : BootProg (Except IdentityError Identity) :=
  lookIn settings info settings.deadApp true (lookIn settings info settings.app false
    (single settings .dead >>= conclude settings info .dead
      (single settings .preGenerated >>= conclude settings info .preGenerated
        (mint settings >>= conclude settings info .new (pure (.error .exhausted))))))

end Spec

/-! ## Bootstrap follows the protocol -/

section Steps

variable {settings : IdentitySettings} {info : InstanceInfo} {membership : MembershipAccess BootProg}

theorem scan_eq_read (space : String) (dead : Bool) :
    Identity.scan (context settings info membership) space dead =
      read space >>= fun x => pure (match x with
        | .error e => .error (.registry space e)
        | .ok rs => .ok (rs.find? (·.instanceId == info.instanceId))) := by
  rw [Identity.scan_eq _ rfl]
  rfl

theorem resolve_eq_take (r : RingInstance) (acq : Acquisition) (outOfService : Bool)
    (replacedIp : Option String) :
    Identity.resolve (context settings info membership) r acq outOfService replacedIp =
      pure (take settings info r acq outOfService replacedIp) := by
  rw [Identity.resolve_eq _ rfl]
  rfl

theorem claim_eq_single (acq : Acquisition) (retriever : TokenRetriever BootProg)
    (hretriever : retriever = ask acq) :
    Identity.claim (context settings info membership) acq retriever = single settings acq := by
  rw [Identity.claim_eq, hretriever]
  rfl

theorem mintAttempt_eq_attempt (k : Nat) :
    Identity.mintAttempt (context settings info membership) k = attempt settings := by
  rw [Identity.mintAttempt_eq _ rfl]
  rfl

theorem runFrom_mintAttempt (k left : Nat) :
    RetryPolicy.runFrom (Identity.mintAttempt (context settings info membership)) k left =
      minting settings k left := by
  induction left generalizing k with
  | zero =>
    rw [RetryPolicy.runFrom, minting, mintAttempt_eq_attempt]
    refine bind_congr fun answer => ?_
    cases answer with
    | error e => rfl
    | ok v => rfl
  | succ left ih =>
    rw [RetryPolicy.runFrom, minting, mintAttempt_eq_attempt]
    refine bind_congr fun answer => ?_
    cases answer with
    | error e => exact ih (k + 1)
    | ok v => rfl

theorem mint_eq : Identity.mint (context settings info membership) = mint settings := by
  rw [Identity.mint, mint]
  show (if (!settings.createNewToken) = true then _ else _) = _
  cases settings.createNewToken with
  | false => rfl
  | true =>
    rw [if_neg (by decide), if_pos rfl, RetryPolicy.run, runFrom_mintAttempt]
    rfl

/-- One strategy asked: its answer decides, aborts, or passes on to the rest. -/
theorem tryStrategies_step (acq : Acquisition) (retriever : TokenRetriever BootProg)
    (rest : List (Acquisition × TokenRetriever BootProg))
    {first : BootProg (Except IdentityError (Option TokenClaim))}
    {next : BootProg (Except IdentityError Identity)}
    (hfirst : (if acq == .new then Identity.mint (context settings info membership)
      else Identity.claim (context settings info membership) acq retriever) = first)
    (hnext : Identity.tryStrategies (context settings info membership) rest = next) :
    Identity.tryStrategies (context settings info membership) ((acq, retriever) :: rest) =
      first >>= conclude settings info acq next := by
  rw [Identity.tryStrategies_cons _ rfl, hfirst, hnext]
  refine bind_congr fun answer => ?_
  rcases answer with e | _ | c
  · rfl
  · rfl
  · dsimp only
    rw [resolve_eq_take]
    rfl

theorem tryStrategies_eq :
    Identity.tryStrategies (context settings info membership)
        (Identity.strategies (context settings info membership)) =
      single settings .dead >>= conclude settings info .dead
        (single settings .preGenerated >>= conclude settings info .preGenerated
          (mint settings >>= conclude settings info .new (pure (.error .exhausted)))) := by
  refine tryStrategies_step _ _ _ ?_ (tryStrategies_step _ _ _ ?_ (tryStrategies_step _ _ _ ?_ ?_))
  · rw [if_neg (by decide)]
    exact claim_eq_single .dead _ rfl
  · rw [if_neg (by decide)]
    exact claim_eq_single .preGenerated _ rfl
  · rw [if_pos (by decide)]
    exact mint_eq
  · rw [Identity.tryStrategies]

end Steps

theorem bootstrap_eq_protocol (settings : IdentitySettings) (info : InstanceInfo)
    (membership : MembershipAccess BootProg) :
    Identity.bootstrap (context settings info membership) = protocol settings info := by
  rw [Identity.bootstrap, Identity.reclaim, scan_eq_read, scan_eq_read, tryStrategies_eq, protocol]
  unfold lookIn
  simp only [bind_assoc, pure_bind]
  -- the dead namespace is read first
  refine bind_congr fun dead => ?_
  rcases dead with e | rs
  · rfl
  · dsimp only
    cases hdead : rs.find? (·.instanceId == info.instanceId) with
    | some r => simp only [pure_bind, resolve_eq_take]
    | none =>
      -- not found among the dead: the live namespace is read
      simp only [bind_assoc]
      refine bind_congr fun live => ?_
      rcases live with e | rs
      · rfl
      · dsimp only
        cases hlive : rs.find? (·.instanceId == info.instanceId) with
        | some r => simp only [pure_bind, resolve_eq_take]
        | none => simp only [pure_bind]

end Protocol

end RingIdentity
