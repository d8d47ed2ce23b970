import Mathlib.Data.List.Pairwise
import RingIdentity.Proofs.Program
import RingIdentity.Proofs.Identity.Steps
import RingIdentity.Identity.Script
/-! # Racing bootstraps claim distinct slots

Nodes resolve their identities at once against one shared registry.  Each node is a tree of
registry calls (`RegistryProg`), and a scheduler serves the calls of the nodes one at a time, in
any order it likes; a mint attempt may act on a rack map that other nodes have made stale.
Nothing about the order of calls is assumed: the guarantees come from the registry's conditional
writes alone.

The argument is a rely-guarantee one.  While the race runs, every registry the scheduler may show
a node is `Shared`: its live namespace holds records pairwise apart, and its dead namespace stays
empty.  Each call a node makes is `Permitted` (reads, and registers outside the dead namespace),
keeps `Shared` and drops no record (`Registry.Keeps`).  `Guarded Q p reg` says that a program
makes only permitted calls and ends satisfying `Q`, however the other nodes move between its
calls.  One lemma per stage of bootstrap shows that every node is guarded, ending with a record
of its own instance that is stored in the live namespace (`Owned`); `Cluster.Safe` carries this
along any schedule, and `Cluster.resolved_apart` concludes.
-/
namespace RingIdentity

open RingInstance

/-- A namespace is never its own dead namespace: the suffix makes the name longer. -/
theorem ne_dead (app : String) : app ≠ app ++ "-dead" := by
  intro h
  have := congrArg String.length h
  simp at this

namespace Registry

/-- Every record of the first registry is still stored in the second. -/
def Keeps (reg reg' : Registry) : Prop := ∀ k, ∀ r ∈ reg.records k, r ∈ reg'.records k

theorem Keeps.refl (reg : Registry) : reg.Keeps reg := fun _ _ h => h

theorem Keeps.trans {a b c : Registry} (h₁ : a.Keeps b) (h₂ : b.Keeps c) : a.Keeps c :=
  fun k r h => h₂ k r (h₁ k r h)

theorem keeps_register (reg : Registry) (r : RingInstance) : reg.Keeps (reg.register r).2 := by
  intro k x hx
  cases hc : findConflict (reg.records r.app) r none with
  | none =>
    rw [register_of_clear hc, records_setRecords]
    split
    · rename_i hk
      subst hk
      exact List.mem_append_left _ hx
    · exact hx
  | some y =>
    rw [register_of_held hc]
    exact hx

theorem mem_register_of_clear {reg : Registry} {r : RingInstance}
    (hc : findConflict (reg.records r.app) r none = none) :
    r ∈ (reg.register r).2.records r.app := by
  rw [register_of_clear hc, records_setRecords, if_pos rfl]
  exact List.mem_append_right _ (List.mem_singleton_self r)

end Registry

namespace Race

variable (app : String)

/-- The calls a racing node may make: reads of any namespace, and registers outside the dead
namespace. -/
def Permitted : RegistryCall → Prop
  | .allIds _ | .get .. => True
  | .register r => r.app ≠ app ++ "-dead"
  | .update .. | .delete _ => False

/-- What holds of every registry during the race. -/
structure Shared (reg : Registry) : Prop where
  live_apart : (reg.records app).Pairwise Apart
  dead_empty : reg.records (app ++ "-dead") = []

/-- The program makes only permitted calls and ends satisfying `Q`, however the other nodes change
the registry between its calls, so long as they keep it shared and drop no record. -/
def Guarded {α : Type} (Q : Registry → α → Prop) : RegistryProg α → Registry → Prop
  | .done a, reg => Q reg a
  | .call c k, reg => Permitted app c ∧
      ∀ reg', Shared app reg' → reg.Keeps reg' → Guarded Q (k (reg'.serve c).1) (reg'.serve c).2

/-- A minting strategy for the instance `id`: it reads, registers outside the dead namespace, and
claims only a record of the instance `id` in namespace `app` that it has itself stored, `stored`
being the records it has stored so far. -/
def Mints (id : String) :
    List RingInstance → RegistryProg (Except RetrieverError (Option TokenClaim)) → Prop
  | stored, .done (.ok (some c)) => c.inst ∈ stored ∧ c.inst.app = app ∧ c.inst.instanceId = id
  | _, .done _ => True
  | stored, .call (.allIds _) k => ∀ x, Mints id stored (k x)
  | stored, .call (.get ..) k => ∀ x, Mints id stored (k x)
  | stored, .call (.register r) k => r.app ≠ app ++ "-dead" ∧
      Mints id (r :: stored) (k (.ok r)) ∧ ∀ e, Mints id stored (k (.error e))
  | _, .call (.update ..) _ => False
  | _, .call (.delete _) _ => False

/-- A record of the instance `id`, stored in the live namespace. -/
def Owns (id : String) (reg : Registry) (r : RingInstance) : Prop :=
  r.instanceId = id ∧ r ∈ reg.records app

/-- A strategy's answer, when it claims a record, claims one the instance `id` owns. -/
def Claimed (id : String) {ε : Type} (reg : Registry) (y : Except ε (Option TokenClaim)) : Prop :=
  ∀ c, y = .ok (some c) → Owns app id reg c.inst

/-- A resolved identity, if any, is a record the instance `id` owns. -/
def Owned (id : String) (reg : Registry) (res : Except IdentityError Identity) : Prop :=
  ∀ i, res = .ok i → Owns app id reg i.inst

variable {app}

theorem Owns.keep {id : String} {reg reg' : Registry} {r : RingInstance} (h : Owns app id reg r)
    (hk : reg.Keeps reg') : Owns app id reg' r :=
  ⟨h.1, hk app r h.2⟩

theorem Owned.keep {id : String} {reg reg' : Registry} {res : Except IdentityError Identity}
    (h : Owned app id reg res) (hk : reg.Keeps reg') : Owned app id reg' res :=
  fun i hi => (h i hi).keep hk

/-! ## One call -/

theorem keeps_serve {reg : Registry} {c : RegistryCall} (hc : Permitted app c) :
    reg.Keeps (reg.serve c).2 := by
  cases c with
  | allIds _ | get _ _ _ => exact .refl reg
  | register r => exact reg.keeps_register r
  | update _ _ | delete _ => exact hc.elim

theorem Shared.serve {reg : Registry} {c : RegistryCall} (hs : Shared app reg)
    (hc : Permitted app c) : Shared app (reg.serve c).2 := by
  cases c with
  | allIds _ | get _ _ _ => exact hs
  | register r =>
    show Shared app (reg.register r).2
    cases hcl : Registry.findConflict (reg.records r.app) r none with
    | none =>
      have hclear := Registry.findConflict_eq_none_iff.mp hcl
      rw [Registry.register_of_clear hcl]
      refine ⟨?_, ?_⟩
      · rw [Registry.records_setRecords]
        split
        · -- the record joins the live namespace: it stands apart from all that is there
          rename_i h
          rw [h] at hs
          refine List.pairwise_append.mpr ⟨hs.live_apart, by simp, fun a ha b hb => ?_⟩
          rw [List.mem_singleton.mp hb]
          exact hclear a ha (by simp)
        · exact hs.live_apart
      · rw [Registry.records_setRecords, if_neg fun h => hc h.symm]
        exact hs.dead_empty
    | some y =>
      rw [Registry.register_of_held hcl]
      exact hs
  | update _ _ | delete _ => exact hc.elim

/-! ## Guarded programs -/

/-- A guarded program stays guarded when other nodes add records before it resumes, if its
postcondition survives added records. -/
theorem Guarded.keep {α : Type} {Q : Registry → α → Prop}
    (hQ : ∀ reg reg' a, Q reg a → reg.Keeps reg' → Q reg' a) {p : RegistryProg α}
    {reg reg' : Registry} (h : Guarded app Q p reg) (hk : reg.Keeps reg') :
    Guarded app Q p reg' := by
  cases p with
  | done a => exact hQ reg reg' a h hk
  | call c k =>
    obtain ⟨hc, hnext⟩ := h
    exact ⟨hc, fun reg'' hs hk' => hnext reg'' hs (hk.trans hk')⟩

/-- A guarded program followed by a continuation guarded from each result it may end with, in
each registry it may end in. -/
theorem Guarded.bind_of {α β : Type} {P : Registry → α → Prop} {Q : Registry → β → Prop}
    {f : α → RegistryProg β} {p : RegistryProg α} {reg : Registry}
    (hp : Guarded app P p reg) (hs : Shared app reg)
    (hf : ∀ reg' a, Shared app reg' → P reg' a → Guarded app Q (f a) reg') :
    Guarded app Q (p >>= f) reg := by
  induction p generalizing reg with
  | done a => exact hf reg a hs hp
  | call c k ih =>
    obtain ⟨hc, hnext⟩ := hp
    exact ⟨hc, fun reg' hs' hk => ih _ (hnext reg' hs' hk) (hs'.serve hc)⟩

/-- A read of a namespace answers its records in whatever registry the read is served on. -/
theorem Guarded.read_bind {β : Type} {Q : Registry → β → Prop} {space : String}
    {f : Except RegistryError (List RingInstance) → RegistryProg β} {reg : Registry}
    (h : ∀ reg', Shared app reg' → reg.Keeps reg' →
      Guarded app Q (f (.ok (reg'.records space))) reg') :
    Guarded app Q (RegistryProg.registry.allIds space >>= f) reg :=
  ⟨trivial, h⟩

/-! ## Minting strategies -/

/-- A minting strategy claims a record its instance owns, whatever the other nodes do: what it
has stored stays stored. -/
theorem Mints.guarded {id : String} {p : RegistryProg (Except RetrieverError (Option TokenClaim))}
    {stored : List RingInstance} {reg : Registry} (hm : Mints app id stored p)
    (hstored : ∀ r ∈ stored, r ∈ reg.records r.app) : Guarded app (Claimed app id) p reg := by
  induction p generalizing stored reg with
  | done y =>
    intro c hc
    subst hc
    obtain ⟨hmem, happ, hid⟩ := hm
    exact ⟨hid, happ ▸ hstored c.inst hmem⟩
  | call q k ih =>
    cases q with
    | allIds _ | get _ _ _ =>
      -- a read stores nothing: what the strategy stored is still there
      exact ⟨trivial, fun reg' _ hk => ih _ (hm _) fun r hr => hk _ r (hstored r hr)⟩
    | register r =>
      obtain ⟨hdead, hwon, hlost⟩ := hm
      refine ⟨hdead, fun reg' _ hk => ?_⟩
      have hstored' : ∀ x ∈ stored, x ∈ reg'.records x.app := fun x hx => hk _ x (hstored x hx)
      show Guarded app (Claimed app id) (k (reg'.register r).1) (reg'.register r).2
      cases hcl : Registry.findConflict (reg'.records r.app) r none with
      | none =>
        -- the register won: the record joins what the strategy has stored
        have hmem := Registry.mem_register_of_clear hcl
        have hkeep := reg'.keeps_register r
        rw [Registry.register_of_clear hcl] at hmem hkeep ⊢
        refine ih _ hwon fun x hx => ?_
        rcases List.mem_cons.mp hx with rfl | hx
        · exact hmem
        · exact hkeep _ x (hstored' x hx)
      | some y =>
        rw [Registry.register_of_held hcl]
        exact ih _ (hlost _) hstored'
    | update _ _ | delete _ => exact hm.elim

/-- The scripted strategy that stores the next slot of the local rack mints for its instance. -/
theorem mints_scripted_mint (info : InstanceInfo) (map : RackMap) :
    Mints app info.instanceId []
      (scripted [{ action := .mint }] RegistryProg.registry app info (fun _ => pure 0) map) :=
  ⟨ne_dead app, ⟨List.mem_singleton_self _, rfl, rfl⟩, fun _ => trivial⟩

/-! ## Racing nodes -/

/-- A strategy with nothing to offer. -/
def noToken : TokenRetriever RegistryProg := fun _ => pure (.ok none)

/-- A node of the race: its settings, its instance, its membership, and its strategy for minting
new tokens. -/
structure Node where
  settings : IdentitySettings
  info : InstanceInfo
  membership : MembershipAccess RegistryProg
  new : TokenRetriever RegistryProg

/-- The node's context: the shared registry reached through calls, no dead or pre-generated
token on offer, and no log. -/
def Node.context (n : Node) : IdentityContext RegistryProg where
  settings := n.settings
  info := n.info
  registry := RegistryProg.registry
  membership := n.membership
  dead := noToken
  preGenerated := noToken
  new := n.new
  log := fun _ => pure ()

section Stages

variable {n : Node} {reg : Registry}

theorem Guarded.scan {Q : Registry → Except IdentityError (Option RingInstance) → Prop}
    {space : String} {dead : Bool}
    (h : ∀ reg', Shared app reg' → reg.Keeps reg' →
      Q reg' (.ok ((reg'.records space).find? (·.instanceId == n.info.instanceId)))) :
    Guarded app Q (Identity.scan n.context space dead) reg := by
  rw [Identity.scan_eq n.context rfl]
  exact Guarded.read_bind h

/-- The dead namespace stays empty, so a node never finds itself there. -/
theorem Guarded.scan_dead (happ : n.settings.app = app) :
    Guarded app (fun _ y => y = .ok none)
      (Identity.scan n.context n.context.settings.deadApp true) reg :=
  Guarded.scan fun reg' hs _ => by
    show Except.ok ((reg'.records (n.settings.app ++ "-dead")).find? _) = _
    rw [happ, hs.dead_empty]
    rfl

/-- A record a node finds in the live namespace is one of its own instance. -/
theorem Guarded.scan_live (happ : n.settings.app = app) :
    Guarded app (fun reg y => ∀ r, y = .ok (some r) → Owns app n.info.instanceId reg r)
      (Identity.scan n.context n.context.settings.app false) reg :=
  Guarded.scan fun reg' _ _ r hr => by
    have hfound : (reg'.records n.settings.app).find? (·.instanceId == n.info.instanceId) =
        some r := Except.ok.inj hr
    refine ⟨?_, happ ▸ List.mem_of_find?_eq_some hfound⟩
    simpa using List.find?_some hfound

theorem Guarded.reclaim (happ : n.settings.app = app) (hs : Shared app reg) :
    Guarded app (fun reg y => ∀ r dead, y = .ok (some (r, dead)) →
      Owns app n.info.instanceId reg r) (Identity.reclaim n.context) reg := by
  rw [Identity.reclaim]
  refine Guarded.bind_of (Guarded.scan_dead happ) hs ?_
  rintro reg' y hs' rfl
  refine Guarded.bind_of (Guarded.scan_live happ) hs' ?_
  rintro reg'' (e | _ | r) - hfound
  · intro r dead h
    cases h
  · intro r dead h
    cases h
  · intro r' dead h
    cases h
    exact hfound r rfl

/-- A strategy with nothing to offer claims nothing, whatever the read before it answers. -/
theorem Guarded.claim_noToken (acq : Acquisition) :
    Guarded app (Claimed app n.info.instanceId) (Identity.claim n.context acq noToken) reg := by
  rw [Identity.claim_eq]
  refine Guarded.read_bind fun _ _ _ c hc => ?_
  cases hc

theorem Guarded.mintAttempt (hmint : ∀ map, Mints app n.info.instanceId [] (n.new map))
    (k : Nat) :
    Guarded app (Claimed app n.info.instanceId) (Identity.mintAttempt n.context k) reg := by
  rw [Identity.mintAttempt_eq n.context rfl]
  exact Guarded.read_bind fun _ _ _ => (hmint _).guarded fun _ h => nomatch h

/-- Retrying keeps what every attempt guarantees: the attempt that succeeds decides. -/
theorem Guarded.runFrom {ε : Type} {id : String}
    {op : Nat → RegistryProg (Except ε (Option TokenClaim))}
    (hop : ∀ k reg, Guarded app (Claimed app id) (op k) reg) (remaining k : Nat)
    (hs : Shared app reg) :
    Guarded app (Claimed app id) (RetryPolicy.runFrom op k remaining) reg := by
  induction remaining generalizing k reg with
  | zero =>
    rw [RetryPolicy.runFrom]
    refine Guarded.bind_of (hop k reg) hs ?_
    rintro reg' (e | v) - hv c hc
    · cases hc
    · cases hc
      exact hv c rfl
  | succ remaining ih =>
    rw [RetryPolicy.runFrom]
    refine Guarded.bind_of (hop k reg) hs ?_
    rintro reg' (e | v) hs' hv
    · exact ih (k + 1) hs'
    · intro c hc
      cases hc
      exact hv c rfl

theorem Guarded.mint (hmint : ∀ map, Mints app n.info.instanceId [] (n.new map))
    (hs : Shared app reg) :
    Guarded app (Claimed app n.info.instanceId) (Identity.mint n.context) reg := by
  rw [Identity.mint]
  split
  · intro c hc
    cases hc
  · rw [RetryPolicy.run]
    refine Guarded.bind_of (Guarded.runFrom (fun k _ => Guarded.mintAttempt hmint k) _ 1 hs) hs ?_
    rintro reg' (e | v) - hv c hc
    · cases hc
    · cases hc
      exact hv c rfl

/-- Asking strategies in turn ends with a record the node owns, if each strategy claims only
such records. -/
theorem Guarded.tryStrategies {strats : List (Acquisition × TokenRetriever RegistryProg)}
    (hstrat : ∀ s ∈ strats, ∀ reg, Shared app reg →
      Guarded app (Claimed app n.info.instanceId)
        (if s.1 == .new then Identity.mint n.context else Identity.claim n.context s.1 s.2) reg)
    (hs : Shared app reg) :
    Guarded app (Owned app n.info.instanceId) (Identity.tryStrategies n.context strats) reg := by
  induction strats generalizing reg with
  | nil =>
    intro i hi
    cases hi
  | cons s rest ih =>
    rw [Identity.tryStrategies_cons n.context rfl]
    refine Guarded.bind_of (hstrat s List.mem_cons_self reg hs) hs ?_
    rintro reg' (e | _ | c) hs' hc
    · intro i hi
      cases hi
    · -- nothing on offer: the next strategy is asked
      exact ih (fun s hmem reg hreg => hstrat s (List.mem_cons_of_mem _ hmem) reg hreg) hs'
    · dsimp only
      rw [Identity.resolve_eq n.context rfl]
      intro i hi
      cases hi
      exact hc c rfl

/-- Every node of the race ends, if it resolves an identity, with a record of its own instance
stored in the live namespace. -/
theorem Guarded.bootstrap (happ : n.settings.app = app)
    (hmint : ∀ map, Mints app n.info.instanceId [] (n.new map)) (hs : Shared app reg) :
    Guarded app (Owned app n.info.instanceId) (Identity.bootstrap n.context) reg := by
  rw [Identity.bootstrap]
  refine Guarded.bind_of (Guarded.reclaim happ hs) hs ?_
  rintro reg' (e | _ | ⟨r, dead⟩) hs' hr
  · intro i hi
    cases hi
  · refine Guarded.tryStrategies ?_ hs'
    intro s hmem reg'' hs''
    simp only [Identity.strategies, List.mem_cons, List.not_mem_nil, or_false] at hmem
    rcases hmem with rfl | rfl | rfl
    · exact Guarded.claim_noToken .dead
    · exact Guarded.claim_noToken .preGenerated
    · exact Guarded.mint hmint hs''
  · dsimp only
    rw [Identity.resolve_eq n.context rfl]
    intro i hi
    cases hi
    exact hr r dead rfl

end Stages

/-! ## Schedules -/

/-- The nodes of a race, each with its instance id and what remains of its bootstrap, and the
registry they share. -/
structure Cluster where
  registry : Registry
  nodes : List (String × RegistryProg (Except IdentityError Identity))

/-- The identity a finished bootstrap resolved. -/
def identity? : RegistryProg (Except IdentityError Identity) → Option Identity
  | .done (.ok i) => some i
  | _ => none

theorem identity?_eq_some {p : RegistryProg (Except IdentityError Identity)} {i : Identity} :
    identity? p = some i ↔ p = .done (.ok i) := by
  cases p with
  | done y => cases y <;> simp [identity?]
  | call c k => simp [identity?]

namespace Cluster

/-- Every node about to start its bootstrap. -/
def start (reg : Registry) (racers : List Node) : Cluster where
  registry := reg
  nodes := racers.map fun n => (n.info.instanceId, Identity.bootstrap n.context)

/-- The scheduler serves the next call of node `i`; a node that has finished, or no such node,
leaves the cluster as it is. -/
def advance (cl : Cluster) (i : Nat) : Cluster :=
  match cl.nodes[i]? with
  | some (owner, .call c k) =>
    { registry := (cl.registry.serve c).2,
      nodes := cl.nodes.set i (owner, k (cl.registry.serve c).1) }
  | _ => cl

/-- Serves calls in the order of a schedule of node indices. -/
def run (cl : Cluster) (schedule : List Nat) : Cluster := schedule.foldl advance cl

/-- The identities resolved by the nodes that have finished with one. -/
def resolved (cl : Cluster) : List Identity := cl.nodes.filterMap fun node => identity? node.2

theorem ids_advance (cl : Cluster) (i : Nat) :
    (cl.advance i).nodes.map Prod.fst = cl.nodes.map Prod.fst := by
  unfold advance
  split
  · rename_i owner c k hnode
    obtain ⟨hlt, hget⟩ := List.getElem?_eq_some_iff.mp hnode
    have hlen : i < (cl.nodes.map Prod.fst).length := by simpa using hlt
    show (cl.nodes.set i _).map Prod.fst = _
    calc (cl.nodes.set i (owner, k (cl.registry.serve c).1)).map Prod.fst
        = (cl.nodes.map Prod.fst).set i (cl.nodes.map Prod.fst)[i] := by simp [List.map_set, hget]
      _ = cl.nodes.map Prod.fst := List.set_getElem_self hlen
  · rfl

theorem ids_run (cl : Cluster) (schedule : List Nat) :
    (cl.run schedule).nodes.map Prod.fst = cl.nodes.map Prod.fst := by
  induction schedule generalizing cl with
  | nil => rfl
  | cons i rest ih => exact (ih (cl.advance i)).trans (cl.ids_advance i)

/-- The race invariant: the registry is shared, and every node is guarded to end with a record
of its own instance. -/
structure Safe (app : String) (cl : Cluster) : Prop where
  shared : Shared app cl.registry
  guarded : ∀ node ∈ cl.nodes, Guarded app (Owned app node.1) node.2 cl.registry

theorem Safe.start {reg : Registry} {racers : List Node} (hs : Shared app reg)
    (happ : ∀ n ∈ racers, n.settings.app = app)
    (hmint : ∀ n ∈ racers, ∀ map, Mints app n.info.instanceId [] (n.new map)) :
    (start reg racers).Safe app := by
  refine ⟨hs, fun node hmem => ?_⟩
  obtain ⟨n, hn, rfl⟩ := List.mem_map.mp hmem
  exact Guarded.bootstrap (happ n hn) (hmint n hn) hs

/-- Serving one call keeps the race invariant: the node served goes on as its guarantee says, and
every other node only sees records added. -/
theorem Safe.advance {cl : Cluster} (h : cl.Safe app) (i : Nat) : (cl.advance i).Safe app := by
  unfold Cluster.advance
  split
  · rename_i owner c k hnode
    obtain ⟨hc, hnext⟩ := h.guarded _ (List.mem_of_getElem? hnode)
    have hk : cl.registry.Keeps (cl.registry.serve c).2 := keeps_serve hc
    refine ⟨h.shared.serve hc, fun node hmem => ?_⟩
    rcases List.mem_or_eq_of_mem_set hmem with hold | rfl
    · exact (h.guarded node hold).keep (fun _ _ _ ho hk => ho.keep hk) hk
    · exact hnext cl.registry h.shared (.refl _)
  · exact h

theorem Safe.run {cl : Cluster} (h : cl.Safe app) (schedule : List Nat) :
    (cl.run schedule).Safe app := by
  induction schedule generalizing cl with
  | nil => exact h
  | cons i rest ih => exact ih (h.advance i)

theorem Safe.owns {cl : Cluster} (h : cl.Safe app) {node : String × _} (hmem : node ∈ cl.nodes)
    {i : Identity} (hi : identity? node.2 = some i) : Owns app node.1 cl.registry i.inst := by
  have hguarded := h.guarded node hmem
  rw [identity?_eq_some.mp hi] at hguarded
  exact hguarded i rfl

/-- Nodes of distinct instances racing on a registry whose live and dead namespaces start empty,
each minting only records of its own instance that it has stored itself, resolve identities on
pairwise distinct slots and pairwise distinct tokens, each stored in the live namespace when the
schedule ends, whatever the schedule. -/
theorem resolved_apart {reg : Registry} {racers : List Node}
    (hlive : reg.records app = []) (hdead : reg.records (app ++ "-dead") = [])
    (happ : ∀ n ∈ racers, n.settings.app = app)
    (hids : (racers.map (·.info.instanceId)).Nodup)
    (hmint : ∀ n ∈ racers, ∀ map, Mints app n.info.instanceId [] (n.new map))
    (schedule : List Nat) :
    let final := (start reg racers).run schedule
    final.resolved.Pairwise (fun i j =>
        (i.inst.rac, i.inst.id) ≠ (j.inst.rac, j.inst.id) ∧
        ∀ t, i.inst.token = some t → j.inst.token ≠ some t) ∧
      ∀ i ∈ final.resolved, i.inst ∈ final.registry.records app := by
  intro final
  have hsafe : final.Safe app := (Safe.start ⟨hlive ▸ .nil, hdead⟩ happ hmint).run schedule
  have hnodup : (final.nodes.map Prod.fst).Nodup := by
    rw [ids_run]
    simpa [start, List.map_map, Function.comp_def] using hids
  refine ⟨List.pairwise_filterMap.mpr ((List.pairwise_map.mp hnodup).imp_of_mem ?_), ?_⟩
  · -- two finished nodes of distinct instances own distinct records of the live namespace
    intro a b ha hb hab i hi j hj
    have hown := hsafe.owns ha hi
    have hown' := hsafe.owns hb hj
    have hne : i.inst ≠ j.inst := fun h => hab (hown.1 ▸ hown'.1 ▸ congrArg RingInstance.instanceId h)
    have hapart : Apart i.inst j.inst := hsafe.shared.live_apart.forall hown.2 hown'.2 hne
    exact ⟨fun h => hapart.1 (Prod.mk.inj h), hapart.2⟩
  · intro i hi
    obtain ⟨node, hmem, hnode⟩ := List.mem_filterMap.mp hi
    exact (hsafe.owns hmem hnode).2

theorem resolved_apart_of_racing_minters :
    let app := "cass_cluster"
    let info := fun id : String =>
      ({ instanceId := id, region := "us-east-1", rac := "us-east-1a", hostName := id,
         hostIp := "10.0.0.7" } : InstanceInfo)
    let racer := fun id : String =>
      ({ settings := { app }, info := info id, membership := MembershipAccess.fixed 1 (.ok 3),
         new := scripted [{ action := .mint }] RegistryProg.registry app (info id)
           fun _ => pure 0 } : Node)
    let racers := [racer "i-first", racer "i-second"]
    (Registry.empty.records app = [] ∧ Registry.empty.records (app ++ "-dead") = [] ∧
      (∀ n ∈ racers, n.settings.app = app) ∧ (racers.map (·.info.instanceId)).Nodup ∧
      ∀ n ∈ racers, ∀ map, Mints app n.info.instanceId [] (n.new map)) ∧
    let final := (start Registry.empty racers).run [0, 1, 0, 1, 0, 1, 0, 1, 0, 1, 0, 1, 1, 1]
    final.resolved.Pairwise (fun i j =>
        (i.inst.rac, i.inst.id) ≠ (j.inst.rac, j.inst.id) ∧
        ∀ t, i.inst.token = some t → j.inst.token ≠ some t) ∧
      ∀ i ∈ final.resolved, i.inst ∈ final.registry.records app := by
  intro app info racer racers
  have hlive : Registry.empty.records app = [] := rfl
  have hdead : Registry.empty.records (app ++ "-dead") = [] := rfl
  have happ : ∀ n ∈ racers, n.settings.app = app := by
    intro n hn
    simp only [racers, List.mem_cons, List.not_mem_nil, or_false] at hn
    rcases hn with rfl | rfl <;> rfl
  have hids : (racers.map (·.info.instanceId)).Nodup := by simp [racers, racer, info]
  have hmint : ∀ n ∈ racers, ∀ map, Mints app n.info.instanceId [] (n.new map) := by
    intro n hn map
    simp only [racers, List.mem_cons, List.not_mem_nil, or_false] at hn
    rcases hn with rfl | rfl <;> exact mints_scripted_mint _ map
  exact ⟨⟨hlive, hdead, happ, hids, hmint⟩, resolved_apart hlive hdead happ hids hmint _⟩

end Cluster

end Race

end RingIdentity
