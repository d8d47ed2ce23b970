import RingIdentity.App.Launch
import RingIdentity.Proofs.Membership.Alive
/-! # Launching the sidecar

A launch first settles where the facts about the local instance and the own account's
credentials come from: the instance facts and provider passed in, else the instance facts
configured and a fixed provider of the credentials configured.  Without either it fails at once,
instance facts first, and makes no call at all (`launch_of_no_instance`,
`launch_of_no_credentials`).  Otherwise it builds the cloud membership of the configured kind and
resolves the identity with the configured identity settings; the launch fails exactly when that
resolution fails, with its error (`launch_quiet`).

Resolving an identity reads the registry and asks the strategies, and does nothing else with the
registry.  `Frame` says that of any property of programs that `pure` has and `>>=` keeps: a
launch has it as soon as the registry's listings, the strategies and the logger have it
(`launch_keeps`).  Leaving the registry's part of a state alone is one such property
(`Frame.ofState`): a launch whose strategies write nothing leaves the registry as it found it,
whether it fails or not.
-/
namespace RingIdentity

/-- A property of programs that `pure` has and `>>=` keeps, such as leaving some part of a state
alone: every program built from programs that have it has it too. -/
structure Frame (m : Type → Type) [Monad m] where
  Keeps : {α : Type} → m α → Prop
  pure_keeps : ∀ {α : Type} (a : α), Keeps (pure a)
  bind_keeps : ∀ {α β : Type} {x : m α} {f : α → m β}, Keeps x → (∀ a, Keeps (f a)) →
    Keeps (x >>= f)

namespace Frame

variable {m : Type → Type} [Monad m] (F : Frame m)

/-- Leaving alone the part of a state that `view` shows. -/
def ofState {σ ρ : Type} (view : σ → ρ) : Frame (StateM σ) where
  Keeps x := ∀ st, view (x.run st).2 = view st
  pure_keeps _ _ := rfl
  bind_keeps {_ _ x f} hx hf st := by
    rw [StateT.run_bind]
    exact (hf _ _).trans (hx st)

theorem ite_keeps {α : Type} {c : Prop} [Decidable c] {x y : m α} (hx : F.Keeps x)
    (hy : F.Keeps y) : F.Keeps (if c then x else y) := by
  split
  · exact hx
  · exact hy

/-- A program followed by a continuation that keeps the frame on every outcome of it. -/
theorem bind_except_keeps {ε α β : Type} {x : m (Except ε α)} {f : Except ε α → m β}
    (hx : F.Keeps x) (herror : ∀ e, F.Keeps (f (.error e))) (hok : ∀ a, F.Keeps (f (.ok a))) :
    F.Keeps (x >>= f) :=
  F.bind_keeps hx fun r => by
    cases r with
    | error e => exact herror e
    | ok a => exact hok a

end Frame

namespace RetryPolicy

variable {m : Type → Type} [Monad m] (F : Frame m)

/-- Retrying keeps what every attempt keeps; by induction on the attempts left. -/
theorem runFrom_keeps {ε α : Type} {op : Nat → m (Except ε α)} (hop : ∀ k, F.Keeps (op k))
    (k remaining : Nat) : F.Keeps (runFrom op k remaining) := by
  induction remaining generalizing k with
  | zero =>
    exact F.bind_except_keeps (hop k) (fun _ => F.pure_keeps _) (fun _ => F.pure_keeps _)
  | succ remaining ih =>
    exact F.bind_except_keeps (hop k) (fun _ => ih (k + 1)) (fun _ => F.pure_keeps _)

end RetryPolicy

/-! ## Resolving an identity keeps what its collaborators keep -/

/-- What the registry's listings, the strategies and the logger of a context keep. -/
structure IdentityContext.Keeps {m : Type → Type} [Monad m] (F : Frame m)
    (ctx : IdentityContext m) : Prop where
  allIds : ∀ app, F.Keeps (ctx.registry.allIds app)
  dead : ∀ map, F.Keeps (ctx.dead map)
  preGenerated : ∀ map, F.Keeps (ctx.preGenerated map)
  new : ∀ map, F.Keeps (ctx.new map)
  log : ∀ ev, F.Keeps (ctx.log ev)

namespace Identity

variable {m : Type → Type} [Monad m] {F : Frame m} {ctx : IdentityContext m}

theorem scan_keeps (h : ctx.Keeps F) (space : String) (dead : Bool) :
    F.Keeps (scan ctx space dead) := by
  unfold scan
  refine F.bind_except_keeps (h.allIds space) (fun _ => F.pure_keeps _) fun records => ?_
  refine F.bind_keeps (h.log _) fun _ => ?_
  split
  · exact F.pure_keeps _
  · exact F.bind_keeps (h.log _) fun _ => F.pure_keeps _

theorem reclaim_keeps (h : ctx.Keeps F) : F.Keeps (reclaim ctx) := by
  unfold reclaim
  refine F.bind_keeps (scan_keeps h _ true) fun found => ?_
  rcases found with e | _ | r
  · exact F.pure_keeps _
  · -- whatever the second scan finds is returned as it is
    exact F.bind_keeps (scan_keeps h _ false) fun found => by
      rcases found with e | _ | r <;> exact F.pure_keeps _
  · exact F.pure_keeps _

theorem claim_keeps (h : ctx.Keeps F) (acq : Acquisition) {retriever : TokenRetriever m}
    (hretriever : ∀ map, F.Keeps (retriever map)) : F.Keeps (claim ctx acq retriever) := by
  unfold claim rackMapOf loadRackMap
  refine F.bind_keeps (F.bind_keeps (F.bind_keeps (h.allIds _) fun _ => F.pure_keeps _)
    fun _ => F.pure_keeps _) fun answer => ?_
  cases answer with
  | error e => exact F.pure_keeps _
  | ok map => exact F.bind_keeps (hretriever map) fun _ => F.pure_keeps _

theorem mintAttempt_keeps (h : ctx.Keeps F) (attempt : Nat) :
    F.Keeps (mintAttempt ctx attempt) := by
  unfold mintAttempt loadRackMap
  refine F.bind_keeps (F.bind_keeps (h.allIds _) fun _ => F.pure_keeps _) fun answer => ?_
  cases answer with
  | error e => exact F.pure_keeps _
  | ok map =>
    refine F.bind_keeps (h.new map) fun r => ?_
    cases r with
    | error e => exact F.bind_keeps (h.log _) fun _ => F.pure_keeps _
    | ok c => exact F.pure_keeps _

theorem mint_keeps (h : ctx.Keeps F) : F.Keeps (mint ctx) := by
  unfold mint
  refine F.ite_keeps (F.pure_keeps _) ?_
  exact F.bind_keeps (RetryPolicy.runFrom_keeps F (mintAttempt_keeps h) _ _)
    fun _ => F.pure_keeps _

theorem resolve_keeps (h : ctx.Keeps F) (r : RingInstance) (acq : Acquisition)
    (outOfService : Bool) (replacedIp : Option String) :
    F.Keeps (resolve ctx r acq outOfService replacedIp) :=
  F.bind_keeps (h.log _) fun _ => F.pure_keeps _

/-- Asking strategies that keep the frame, in turn; by induction on those left. -/
theorem tryStrategies_keeps (h : ctx.Keeps F) :
    ∀ strats : List (Acquisition × TokenRetriever m),
      (∀ s ∈ strats, ∀ map, F.Keeps (s.2 map)) → F.Keeps (tryStrategies ctx strats)
  | [], _ => F.pure_keeps _
  | (acq, retriever) :: rest, hstrats => by
    have hrest := tryStrategies_keeps h rest fun s hs => hstrats s (List.mem_cons_of_mem _ hs)
    rw [tryStrategies]
    -- minting or a single claim, each followed by the same decision on its answer
    refine F.ite_keeps (F.bind_keeps (mint_keeps h) fun answer => ?_)
      (F.bind_keeps (claim_keeps h acq (hstrats _ List.mem_cons_self)) fun answer => ?_) <;> (
      rcases answer with e | _ | c
      · exact F.pure_keeps _
      · exact F.bind_keeps (h.log _) fun _ => hrest
      · exact F.bind_keeps (resolve_keeps h _ _ _ _) fun _ => F.pure_keeps _)

theorem bootstrap_keeps (h : ctx.Keeps F) : F.Keeps (bootstrap ctx) := by
  unfold bootstrap
  refine F.bind_keeps (reclaim_keeps h) fun found => ?_
  rcases found with e | _ | ⟨r, dead⟩
  · exact F.pure_keeps _
  · refine tryStrategies_keeps h _ fun s hs map => ?_
    simp only [strategies, List.mem_cons, List.not_mem_nil, or_false] at hs
    rcases hs with rfl | rfl | rfl
    · exact h.dead map
    · exact h.preGenerated map
    · exact h.new map
  · exact F.bind_keeps (resolve_keeps h _ _ _ _) fun _ => F.pure_keeps _

end Identity

/-! ## A launch -/

namespace CloudMembership

variable {m : Type → Type} [Monad m] {F : Frame m}

theorem create_keeps {log : Logger m} (hlog : ∀ ev, F.Keeps (log ev)) (kind : MembershipKind)
    (settings : MembershipSettings) (info : InstanceInfo) (own : CredentialProvider m)
    (cross : Option (CredentialProvider m)) : F.Keeps (create log kind settings info own cross) := by
  unfold create
  split
  · exact F.bind_keeps (hlog _) fun _ => F.pure_keeps _
  · exact F.pure_keeps _

end CloudMembership

namespace Collaborators

variable {m : Type → Type} [Monad m]

/-- The membership a launch builds for the instance facts and own provider it settled on: of the
configured kind and settings, with the cross provider passed in, else a fixed provider of the
cross credentials configured, else the own provider. -/
def launchMembership (c : Collaborators m) (s : AppSettings) (info : InstanceInfo)
    (own : CredentialProvider m) : CloudMembership m :=
  { kind := s.membership.kind, settings := s.membership, info, own,
    cross := (c.cross <|> s.crossCredentials.map CredentialProvider.fixed).getD own }

/-- The context a launch resolves the identity in. -/
def identityContext (c : Collaborators m) (log : Logger m) (s : AppSettings) (info : InstanceInfo)
    (mem : CloudMembership m) : IdentityContext m :=
  { settings := s.identity, info, registry := c.registry, membership := mem.access c.connector log,
    dead := c.dead, preGenerated := c.preGenerated, new := c.new, log }

end Collaborators

namespace Sidecar

variable {m : Type → Type} [Monad m]

theorem launch_of_no_instance (log : Logger m) (c : Collaborators m) (s : AppSettings)
    (h : (c.instanceInfo <|> s.instanceInfo) = none) :
    launch log c s = pure (.error .missingInstanceInfo) := by
  simp only [launch, h]

theorem launch_of_no_credentials (log : Logger m) (c : Collaborators m) (s : AppSettings)
    {info : InstanceInfo} (hinfo : (c.instanceInfo <|> s.instanceInfo) = some info)
    (hown : (c.own <|> s.credentials.map CredentialProvider.fixed) = none) :
    launch log c s = pure (.error (.missingCredentials .own)) := by
  simp only [launch, hinfo, hown]

theorem launch_keeps {F : Frame m} {log : Logger m} {c : Collaborators m} (s : AppSettings)
    (hreg : ∀ app, F.Keeps (c.registry.allIds app))
    (hret : ∀ map, F.Keeps (c.dead map) ∧ F.Keeps (c.preGenerated map) ∧ F.Keeps (c.new map))
    (hlog : ∀ ev, F.Keeps (log ev)) : F.Keeps (launch log c s) := by
  unfold launch
  split
  · rename_i info _
    split
    · rename_i own _
      refine F.bind_keeps (CloudMembership.create_keeps hlog _ _ _ _ _) fun mem => ?_
      have hctx : (c.identityContext log s info mem).Keeps F :=
        ⟨hreg, fun map => (hret map).1, fun map => (hret map).2.1, fun map => (hret map).2.2, hlog⟩
      exact F.bind_except_keeps (Identity.bootstrap_keeps hctx)
        (fun _ => F.bind_keeps (hlog _) fun _ => F.pure_keeps _)
        (fun _ => F.bind_keeps (hlog _) fun _ => F.pure_keeps _)
    · exact F.pure_keeps _
  · exact F.pure_keeps _

variable [LawfulMonad m]

theorem launch_quiet (c : Collaborators m) (s : AppSettings) {info : InstanceInfo}
    {own : CredentialProvider m} (hinfo : (c.instanceInfo <|> s.instanceInfo) = some info)
    (hown : (c.own <|> s.credentials.map CredentialProvider.fixed) = some own) :
    launch (fun _ => pure ()) c s =
      (fun r => (r.mapError .identity).map fun i =>
          { settings := s, membership := c.launchMembership s info own, identity := i }) <$>
        Identity.bootstrap
          (c.identityContext (fun _ => pure ()) s info (c.launchMembership s info own)) := by
  simp only [launch, hinfo, hown, CloudMembership.create_quiet, pure_bind, map_eq_pure_bind]
  refine bind_congr fun r => ?_
  cases r <;> simp [Except.mapError, Except.map, Collaborators.launchMembership]

/-- A launch, whatever its logger, collaborators and settings.  Without instance facts, passed in
or configured, it fails at once and makes no call; with them but without an own provider, passed
in, or credentials configured, the same.  With both and a silent logger it is the bootstrap of
the identity in the context and with the membership these select, and fails with bootstrap's
error exactly when bootstrap fails.  It keeps every frame that the registry's listings, the
strategies and the logger keep. -/
theorem launch_contract (log : Logger m) (c : Collaborators m) (s : AppSettings) :
    ((c.instanceInfo <|> s.instanceInfo) = none →
      launch log c s = pure (.error .missingInstanceInfo)) ∧
    (∀ info, (c.instanceInfo <|> s.instanceInfo) = some info →
      (c.own <|> s.credentials.map CredentialProvider.fixed) = none →
      launch log c s = pure (.error (.missingCredentials .own))) ∧
    (∀ info own, (c.instanceInfo <|> s.instanceInfo) = some info →
      (c.own <|> s.credentials.map CredentialProvider.fixed) = some own →
      log = (fun _ => pure ()) →
      launch log c s =
        (fun r => (r.mapError .identity).map fun i =>
            { settings := s, membership := c.launchMembership s info own, identity := i }) <$>
          Identity.bootstrap (c.identityContext log s info (c.launchMembership s info own))) ∧
    ∀ F : Frame m, (∀ app, F.Keeps (c.registry.allIds app)) →
      (∀ map, F.Keeps (c.dead map) ∧ F.Keeps (c.preGenerated map) ∧ F.Keeps (c.new map)) →
      (∀ ev, F.Keeps (log ev)) → F.Keeps (launch log c s) := by
  refine ⟨launch_of_no_instance log c s, fun _ hinfo => launch_of_no_credentials log c s hinfo,
    fun _ _ hinfo hown hlog => ?_, fun _ hreg hret hlog => launch_keeps s hreg hret hlog⟩
  subst hlog
  exact launch_quiet c s hinfo hown

/-- A launch over an in-memory registry, with strategies that find nothing, leaves the registry as
it was. -/
theorem launch_in_memory_leaves_registry :
    let c : Collaborators (StateM Registry) :=
      { connector := MemoryCloud.connector (pure {}) fun _ => pure (),
        registry := Registry.access get set fun _ => pure (),
        dead := fun _ => pure (.ok none), preGenerated := fun _ => pure (.ok none),
        new := fun _ => pure (.ok none) }
    let s : AppSettings :=
      { instanceInfo := some (InstanceInfo.make "i-1" "us-east-1" "us-east-1a"),
        credentials := some { accessKeyId := "own-key", secretAccessKey := "own-secret" } }
    let reg := Registry.ofRecords [RingInstance.make "cass_cluster" 0 "i-2"]
    ((launch (fun _ => pure ()) c s).run reg).2 = reg := by
  intro c s reg
  exact (launch_contract (fun _ => pure ()) c s).2.2.2 (Frame.ofState id) (fun _ _ => rfl)
    (fun _ => ⟨fun _ => rfl, fun _ => rfl, fun _ => rfl⟩) (fun _ _ => rfl) reg

end Sidecar

end RingIdentity
