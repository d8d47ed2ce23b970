import RingIdentity.Proofs.Identity.Minted
/-! # Racing minters fill their racks

Nodes that find no record of their own mint one with the scripted minter: each attempt reads the
live namespace afresh and stores the slot after the last of the node's rack.  Racing against each
other, such nodes may lose their slot to a faster node of their rack, and retry.  When new tokens
are allowed and each node may make as many attempts as its rack has nodes, every node ends with a
new identity, whatever the schedule, and the ids of each rack are then `0, 1, …, n - 1` for its
`n` nodes.

The argument is a rely-guarantee one with a budget of calls.  A `Contract` says what every
registry shown to a node satisfies (here `Minted`), what the other nodes may do between its calls
(`Rely`: drop no record, store none of its instance) and what each of its calls may do (`Guar`:
drop no record, store only its own).  `Runs C Q n p reg` says that `p` makes at most `n` calls
and ends satisfying `Q`, under the contract.  One lemma per stage of bootstrap shows that a
minting node runs, within twice its attempts and four more calls, to a new identity on a record of
its own.  The count behind the retries: an attempt that fails has seen its rack grow past the rack
map it read (`Minted.overtaken`), and while the node holds no record its rack has fewer records
than nodes (`Minted.length_rackOf_lt_quota`), so the last attempt allowed cannot fail.
`Racing` carries the contracts of all nodes along any schedule (`Racing.run`), and the last
section reads off what a race of minters achieves.
-/
namespace RingIdentity

namespace Minting

open Race ScriptStep

/-! ## Contracts and runs within a budget -/

/-- What a node of a race relies on and guarantees: the invariant that every registry shown to it
satisfies, the moves the other nodes may make between its calls, and the moves each of its own
calls may make.  Standing still is a move of both kinds, and moves of the others compose. -/
structure Contract where
  inv : Registry → Prop
  rely : Registry → Registry → Prop
  guar : Registry → Registry → Prop
  rely_refl : ∀ reg, rely reg reg
  rely_trans : ∀ {a b c}, rely a b → rely b c → rely a c
  guar_refl : ∀ reg, guar reg reg

/-- From `reg`, the program makes at most `n` calls and ends satisfying `Q`, however the other
nodes move the registry before each of its calls, so long as they keep `C.inv` and stay within
`C.rely`; each of its own calls keeps `C.inv` and stays within `C.guar`. -/
def Runs (C : Contract) {α : Type} (Q : Registry → α → Prop) :
    Nat → RegistryProg α → Registry → Prop
  | _, .done a, reg => Q reg a
  | 0, .call _ _, _ => False
  | n + 1, .call c k, reg => ∀ reg', C.inv reg' → C.rely reg reg' →
      C.inv (reg'.serve c).2 ∧ C.guar reg' (reg'.serve c).2 ∧
        Runs C Q n (k (reg'.serve c).1) (reg'.serve c).2

namespace Runs

variable {C : Contract} {α β : Type} {Q : Registry → α → Prop} {reg reg' : Registry}

theorem done_iff {n : Nat} {x : α} : Runs C Q n (.done x) reg ↔ Q reg x := by
  cases n <;> rfl

theorem done {n : Nat} {x : α} (h : Q reg x) : Runs C Q n (.done x) reg := done_iff.mpr h

/-- A program that has used up its budget has finished. -/
theorem eq_done {p : RegistryProg α} (h : Runs C Q 0 p reg) : ∃ x, p = .done x := by
  cases p with
  | done x => exact ⟨x, rfl⟩
  | call c k => exact h.elim

theorem mono_budget {p : RegistryProg α} {a b : Nat} (h : Runs C Q a p reg) (hab : a ≤ b) :
    Runs C Q b p reg := by
  induction p generalizing a b reg with
  | done x => exact done (done_iff.mp h)
  | call c k ih =>
    cases a with
    | zero => exact h.elim
    | succ a =>
      obtain ⟨b, rfl⟩ : ∃ b', b = b' + 1 := ⟨b - 1, by omega⟩
      intro reg' hinv hrely
      obtain ⟨hinv', hguar, hnext⟩ := h reg' hinv hrely
      exact ⟨hinv', hguar, ih _ hnext (by omega)⟩

/-- A program runs on from any registry the others may move to, if its postcondition survives
their moves. -/
theorem keep (hQ : ∀ reg reg' x, Q reg x → C.rely reg reg' → Q reg' x) {n : Nat}
    {p : RegistryProg α} (h : Runs C Q n p reg) (hr : C.rely reg reg') : Runs C Q n p reg' := by
  cases p with
  | done x => exact done (hQ _ _ x (done_iff.mp h) hr)
  | call c k =>
    cases n with
    | zero => exact h.elim
    | succ n => exact fun reg'' hinv hr' => h reg'' hinv (C.rely_trans hr hr')

/-- A program followed by a continuation that runs from each result it may end with, in each
registry it may end in; the budgets add up. -/
theorem bind_of {P : Registry → α → Prop} {Q : Registry → β → Prop} {p : RegistryProg α}
    {f : α → RegistryProg β} {a b : Nat} (hp : Runs C P a p reg) (hinv : C.inv reg)
    (hf : ∀ reg' x, C.inv reg' → P reg' x → Runs C Q b (f x) reg') :
    Runs C Q (a + b) (p >>= f) reg := by
  induction p generalizing a reg with
  | done x => exact (hf reg x hinv (done_iff.mp hp)).mono_budget (by omega)
  | call c k ih =>
    cases a with
    | zero => exact hp.elim
    | succ a =>
      rw [show a + 1 + b = (a + b) + 1 by omega]
      intro reg' hinv' hr
      obtain ⟨hinv'', hguar, hnext⟩ := hp reg' hinv' hr
      exact ⟨hinv'', hguar, ih _ hnext hinv''⟩

/-- A read of a namespace answers its records on whatever registry it is served. -/
theorem read_bind {Q : Registry → β → Prop} {space : String}
    {f : Except RegistryError (List RingInstance) → RegistryProg β} {n : Nat}
    (h : ∀ reg', C.inv reg' → C.rely reg reg' → Runs C Q n (f (.ok (reg'.records space))) reg') :
    Runs C Q (n + 1) (RegistryProg.registry.allIds space >>= f) reg :=
  fun reg' hinv hr => ⟨hinv, C.guar_refl reg', h reg' hinv hr⟩

end Runs

/-! ## The contract of a minting node -/

section Contract

variable (app : String) (racers : List InstanceInfo)

/-- What the other nodes may do between two calls of the node of instance `id`: drop no record,
and store no live record of that instance. -/
def Rely (id : String) (reg reg' : Registry) : Prop :=
  reg.Keeps reg' ∧ ∀ x ∈ reg'.records app, x.instanceId = id → x ∈ reg.records app

/-- What a call of the node of instance `id` may do: drop no record, and store live records of
its own instance only. -/
def Guar (id : String) (reg reg' : Registry) : Prop :=
  reg.Keeps reg' ∧ ∀ x ∈ reg'.records app, x ∉ reg.records app → x.instanceId = id

/-- The contract of the node of instance `id` in a race of minters. -/
def contract (id : String) : Contract where
  inv := Minted app racers
  rely := Rely app id
  guar := Guar app id
  rely_refl reg := ⟨.refl reg, fun _ hx _ => hx⟩
  rely_trans h₁ h₂ := ⟨h₁.1.trans h₂.1, fun x hx hid => h₁.2 x (h₂.2 x hx hid) hid⟩
  guar_refl _ := ⟨.refl _, fun _ hx hnot => absurd hx hnot⟩

/-- A record of the node's own instance, in its rack, stored in the live namespace. -/
def Holds (me : InstanceInfo) (r : RingInstance) (reg : Registry) : Prop :=
  r ∈ reg.records app ∧ r.instanceId = me.instanceId ∧ r.rac = me.rac

/-- The node resolved a new identity, on a record it holds. -/
def Resolved (me : InstanceInfo) (reg : Registry) (res : Except IdentityError Identity) : Prop :=
  ∃ i, res = .ok i ∧ i.acquisition = .new ∧ Holds app me i.inst reg

variable {app}

/-- A move of one node is one that the nodes of every other instance rely on. -/
theorem rely_of_guar {id id' : String} (hne : id ≠ id') {reg reg' : Registry}
    (h : Guar app id reg reg') : Rely app id' reg reg' := by
  refine ⟨h.1, fun x hx hid => ?_⟩
  by_contra hnot
  exact hne ((h.2 x hx hnot).symm.trans hid)

theorem Fresh.rely {id : String} {reg reg' : Registry} (hf : Fresh app id reg)
    (hr : Rely app id reg reg') : Fresh app id reg' :=
  fun x hx hid => hf x (hr.2 x hx hid) hid

theorem Resolved.keep {me : InstanceInfo} {reg reg' : Registry}
    {res : Except IdentityError Identity} (h : Resolved app me reg res) (hk : reg.Keeps reg') :
    Resolved app me reg' res := by
  obtain ⟨i, hi, hacq, hmem, hid⟩ := h
  exact ⟨i, hi, hacq, hk app _ hmem, hid⟩

/-- Storing the next slot of its rack is a move of the node's own. -/
theorem guar_register (me : InstanceInfo) (map : RackMap) (reg : Registry) :
    Guar app me.instanceId reg
      (reg.setRecords app (reg.records app ++ [mintedRecord app me map])) := by
  refine ⟨fun k x hx => ?_, fun x hx hnot => ?_⟩
  · rw [Registry.records_setRecords]
    split
    · rename_i hk
      subst hk
      exact List.mem_append_left _ hx
    · exact hx
  · rw [Registry.records_setRecords, if_pos rfl] at hx
    rcases List.mem_append.mp hx with hx | hx
    · exact absurd hx hnot
    · rw [List.mem_singleton.mp hx]
      rfl

end Contract

/-! ## A minting node -/

/-- A node that mints with the scripted minter in the namespace `app`, with new tokens allowed. -/
structure Minter (app : String) (n : Race.Node) : Prop where
  app_eq : n.settings.app = app
  create : n.settings.createNewToken = true
  new_eq : n.new = scripted [{ action := .mint }] RegistryProg.registry app n.info fun _ => pure 0

section Stages

variable {app : String} {racers : List InstanceInfo} {n : Race.Node} {reg : Registry}
  (hn : Minter app n) (hme : n.info ∈ racers) (htok : TokensApart racers)

theorem quota_pos {me : InstanceInfo} (hme : me ∈ racers) : 0 < quota racers me.rac :=
  List.countP_pos_iff.mpr ⟨me, hme, by simp⟩

/-- A scan of a namespace that holds no record of the node, on any registry the node may be
shown, finds nothing. -/
theorem runs_scan_none {space : String} {dead : Bool} (hf : Fresh app n.info.instanceId reg)
    (hspace : ∀ reg', Minted app racers reg' → Rely app n.info.instanceId reg reg' →
      Fresh space n.info.instanceId reg') :
    Runs (contract app racers n.info.instanceId)
      (fun reg' y => y = .ok none ∧ Fresh app n.info.instanceId reg') 1
      (Identity.scan n.context space dead) reg := by
  rw [Identity.scan_eq n.context rfl]
  refine Runs.read_bind fun reg' hm' hr => Runs.done ⟨?_, hf.rely hr⟩
  show Except.ok ((reg'.records space).find? (·.instanceId == n.info.instanceId)) = _
  rw [List.find?_eq_none.mpr fun x hx => by simpa using hspace reg' hm' hr x hx]

include hn in
/-- A node without a record finds none, among the dead or the live. -/
theorem runs_reclaim (hf : Fresh app n.info.instanceId reg) (hm : Minted app racers reg) :
    Runs (contract app racers n.info.instanceId)
      (fun reg' y => y = .ok none ∧ Fresh app n.info.instanceId reg') 2
      (Identity.reclaim n.context) reg := by
  rw [Identity.reclaim]
  show Runs _ _ (1 + 1) _ _
  refine Runs.bind_of (runs_scan_none hf fun reg' hm' _ => ?_) hm ?_
  · -- the dead namespace stays empty
    show Fresh (n.settings.app ++ "-dead") _ reg'
    rw [hn.app_eq, Fresh, hm'.dead_empty]
    exact fun _ h => absurd h List.not_mem_nil
  rintro reg' _ hm' ⟨rfl, hf'⟩
  show Runs _ _ (1 + 0) _ _
  refine Runs.bind_of (runs_scan_none hf' fun reg'' _ hr => ?_) hm' ?_
  · show Fresh n.settings.app _ reg''
    rw [hn.app_eq]
    exact hf'.rely hr
  rintro reg'' _ _ ⟨rfl, hf''⟩
  exact Runs.done ⟨rfl, hf''⟩

/-- A strategy with nothing to offer offers nothing, after one read. -/
theorem runs_claim_noToken (acq : Acquisition) (hf : Fresh app n.info.instanceId reg) :
    Runs (contract app racers n.info.instanceId)
      (fun reg' y => y = .ok none ∧ Fresh app n.info.instanceId reg') 1
      (Identity.claim n.context acq noToken) reg := by
  rw [Identity.claim_eq]
  exact Runs.read_bind fun reg' _ hr => Runs.done ⟨rfl, hf.rely hr⟩

/-- How a mint attempt started on `reg` ends on `reg'`: with a record the node holds, or failed,
the node still without a record and its rack grown past what the attempt started from. -/
def Attempted (app : String) (me : InstanceInfo) (reg reg' : Registry)
    (y : Except RetrieverError (Option TokenClaim)) : Prop :=
  (∃ c, y = .ok (some c) ∧ Holds app me c.inst reg') ∨
    ((∃ e, y = .error e) ∧ Fresh app me.instanceId reg' ∧
      (rackOf app reg me.rac).length < (rackOf app reg' me.rac).length)

include hn hme htok in
/-- One mint attempt: the node reads the rack map, and stores the size of its rack as its slot;
the store fails only when the rack has grown since the read. -/
theorem runs_mintAttempt (hf : Fresh app n.info.instanceId reg) (hm : Minted app racers reg)
    (k : Nat) :
    Runs (contract app racers n.info.instanceId) (Attempted app n.info reg) 2
      (Identity.mintAttempt n.context k) reg := by
  rw [Identity.mintAttempt_eq n.context rfl]
  refine Runs.read_bind fun reg₁ hm₁ hr₁ => ?_
  show Runs _ _ 1 (n.new (RackMap.ofInstances (reg₁.records n.settings.app))) reg₁
  rw [hn.new_eq, hn.app_eq]
  intro reg₂ hm₂ hr₂
  have hid := hm₁.mintedRecord_id n.info
  have hgrown := hm.length_rackOf_le hr₁.1 n.info.rac
  have hgrown₁ := hm₁.length_rackOf_le hr₂.1 n.info.rac
  have hf₂ : Fresh app n.info.instanceId reg₂ := (hf.rely hr₁).rely hr₂
  have hclear := hm₂.clear_iff htok hme rfl (mintedRecord_token app n.info
    (RackMap.ofInstances (reg₁.records app)))
  set r := mintedRecord app n.info (RackMap.ofInstances (reg₁.records app))
  have hserve : reg₂.serve (.register r) = reg₂.register r := rfl
  rw [hserve]
  cases hcl : Registry.findConflict (reg₂.records app) r none with
  | none =>
    -- nobody took the slot since the read: it is stored, and the rack grows by it
    have hlen : r.id = (rackOf app reg₂ n.info.rac).length := by
      have := hclear.mp hcl
      omega
    rw [Registry.register_of_clear hcl]
    refine ⟨hm₂.register hme hf₂ hlen, guar_register n.info _ reg₂,
      Runs.done (Or.inl ⟨_, rfl, ?_, rfl, rfl⟩)⟩
    rw [Registry.records_setRecords, if_pos (show app = r.app from rfl)]
    exact List.mem_append_right _ (List.mem_singleton_self _)
  | some x =>
    -- the slot is taken: the rack has grown past the read, and nothing changes
    have hlt : r.id < (rackOf app reg₂ n.info.rac).length :=
      Nat.lt_of_not_le fun hle => by simp [hclear.mpr hle] at hcl
    rw [Registry.register_of_held hcl]
    refine ⟨hm₂, (contract app racers _).guar_refl reg₂, Runs.done (Or.inr ⟨⟨_, rfl⟩, hf₂, ?_⟩)⟩
    show (rackOf app reg n.info.rac).length < (rackOf app reg₂ n.info.rac).length
    omega

include hn hme htok in
/-- Retrying: a node without a record, with as many attempts left as its rack has places free
for it, ends with a record it holds, within two calls an attempt. -/
theorem runs_runFrom (rem k : Nat) (hf : Fresh app n.info.instanceId reg)
    (hm : Minted app racers reg)
    (hquota : quota racers n.info.rac ≤ (rackOf app reg n.info.rac).length + rem + 1) :
    Runs (contract app racers n.info.instanceId)
      (fun reg' y => ∃ c, y = .ok (some c) ∧ Holds app n.info c.inst reg') (2 + 2 * rem)
      (RetryPolicy.runFrom (Identity.mintAttempt n.context) k rem) reg := by
  induction rem generalizing k reg with
  | zero =>
    rw [RetryPolicy.runFrom]
    refine Runs.bind_of (runs_mintAttempt hn hme htok hf hm k) hm ?_
    rintro reg' y hm' (⟨c, rfl, hholds⟩ | ⟨⟨e, rfl⟩, hf', hlt⟩)
    · exact Runs.done ⟨c, rfl, hholds⟩
    · -- the last attempt cannot fail: the rack still has a place for the node
      have := hm'.length_rackOf_lt_quota hme hf'
      omega
  | succ rem ih =>
    rw [RetryPolicy.runFrom]
    rw [show 2 + 2 * (rem + 1) = 2 + (2 + 2 * rem) by omega]
    refine Runs.bind_of (runs_mintAttempt hn hme htok hf hm k) hm ?_
    rintro reg' y hm' (⟨c, rfl, hholds⟩ | ⟨⟨e, rfl⟩, hf', hlt⟩)
    · exact Runs.done ⟨c, rfl, hholds⟩
    · -- a failed attempt is paid for by a record of the rack
      exact ih (k + 1) hf' hm' (by omega)

include hn hme htok in
/-- Minting, with new tokens allowed and as many attempts as the rack has nodes, ends with a
record the node holds, within two calls an attempt. -/
theorem runs_mint (hf : Fresh app n.info.instanceId reg) (hm : Minted app racers reg)
    (hattempts : quota racers n.info.rac ≤ n.settings.newTokenRetry.attempts) :
    Runs (contract app racers n.info.instanceId)
      (fun reg' y => ∃ c, y = .ok (some c) ∧ Holds app n.info c.inst reg')
      (2 * n.settings.newTokenRetry.attempts) (Identity.mint n.context) reg := by
  have hpos : 0 < quota racers n.info.rac := quota_pos hme
  have hsettings : n.context.settings = n.settings := rfl
  rw [Identity.mint, hsettings, hn.create]
  show Runs _ _ _ (RetryPolicy.run _ _ >>= _) reg
  rw [RetryPolicy.run]
  refine (Runs.bind_of (runs_runFrom hn hme htok _ 1 hf hm (by omega)) hm fun reg' y _ hy => ?_ :
    Runs _ _ (_ + 0) _ _).mono_budget (by omega)
  obtain ⟨c, rfl, hholds⟩ := hy
  exact Runs.done ⟨c, rfl, hholds⟩

include hn hme htok in
/-- With nothing on offer from the dead and the pre-generated, the node mints, and resolves a new
identity on the record it stored. -/
theorem runs_tryStrategies (hf : Fresh app n.info.instanceId reg) (hm : Minted app racers reg)
    (hattempts : quota racers n.info.rac ≤ n.settings.newTokenRetry.attempts) :
    Runs (contract app racers n.info.instanceId) (Resolved app n.info)
      (2 * n.settings.newTokenRetry.attempts + 2)
      (Identity.tryStrategies n.context (Identity.strategies n.context)) reg := by
  rw [Identity.strategies, Identity.tryStrategies_cons n.context rfl, if_neg (by decide),
    show 2 * n.settings.newTokenRetry.attempts + 2 =
      1 + (1 + (2 * n.settings.newTokenRetry.attempts + 0)) by omega]
  refine Runs.bind_of (runs_claim_noToken .dead hf) hm ?_
  rintro reg₁ _ hm₁ ⟨rfl, hf₁⟩
  dsimp only
  rw [Identity.tryStrategies_cons n.context rfl, if_neg (by decide)]
  refine Runs.bind_of (runs_claim_noToken .preGenerated hf₁) hm₁ ?_
  rintro reg₂ _ hm₂ ⟨rfl, hf₂⟩
  dsimp only
  rw [Identity.tryStrategies_cons n.context rfl, if_pos (by decide)]
  refine Runs.bind_of (runs_mint hn hme htok hf₂ hm₂ hattempts) hm₂ ?_
  rintro reg₃ _ _ ⟨c, rfl, hholds⟩
  dsimp only
  rw [Identity.resolve_eq n.context rfl]
  exact Runs.done ⟨_, rfl, rfl, hholds⟩

include hn hme htok in
/-- A node without a record, on a minted registry, with as many attempts as its rack has nodes,
resolves a new identity on a record of its own, within twice its attempts and four more calls. -/
theorem runs_bootstrap (hf : Fresh app n.info.instanceId reg) (hm : Minted app racers reg)
    (hattempts : quota racers n.info.rac ≤ n.settings.newTokenRetry.attempts) :
    Runs (contract app racers n.info.instanceId) (Resolved app n.info)
      (2 * n.settings.newTokenRetry.attempts + 4) (Identity.bootstrap n.context) reg := by
  rw [Identity.bootstrap, show 2 * n.settings.newTokenRetry.attempts + 4 =
    2 + (2 * n.settings.newTokenRetry.attempts + 2) by omega]
  refine Runs.bind_of (runs_reclaim hn hf hm) hm ?_
  rintro reg' _ hm' ⟨rfl, hf'⟩
  exact runs_tryStrategies hn hme htok hf' hm' hattempts

end Stages

end Minting

/-! ## Racing nodes -/

namespace Race.Cluster

variable {cl : Cluster} {i : Nat}

theorem advance_of_call {owner : String} {c : RegistryCall}
    {k : c.Answer → RegistryProg (Except IdentityError Identity)}
    (h : cl.nodes[i]? = some (owner, .call c k)) :
    cl.advance i = ⟨(cl.registry.serve c).2, cl.nodes.set i (owner, k (cl.registry.serve c).1)⟩ := by
  unfold advance
  rw [h]

theorem advance_of_not_call (h : ∀ owner c k, cl.nodes[i]? ≠ some (owner, .call c k)) :
    cl.advance i = cl := by
  unfold advance
  split
  · exact absurd ‹_› (h _ _ _)
  · rfl

/-- Nodes at distinct places of a cluster whose instances are distinct have distinct
instances. -/
theorem fst_ne_of_nodup (hnd : (cl.nodes.map Prod.fst).Nodup) {j j' : Nat}
    {node node' : String × RegistryProg (Except IdentityError Identity)}
    (hj : cl.nodes[j]? = some node) (hj' : cl.nodes[j']? = some node') (hne : j ≠ j') :
    node.1 ≠ node'.1 := by
  intro heq
  have hlt : j < (cl.nodes.map Prod.fst).length := by
    simpa using (List.getElem?_eq_some_iff.mp hj).1
  refine hne ((List.getElem?_inj hlt hnd).mp ?_)
  simp [List.getElem?_map, hj, hj', heq]

end Race.Cluster

namespace Minting

open Race ScriptStep

/-- Each node's budget of calls, by its place in the race: twice its attempts and four more. -/
def budget (racers : List Race.Node) (j : Nat) : Nat :=
  ((racers[j]?).map fun n => 2 * n.settings.newTokenRetry.attempts + 4).getD 0

/-- The race invariant, with `b j` calls left to the node at place `j`: the registry is minted,
the instances of the nodes are distinct, and every node runs within its budget to a new identity on
a record of its own, under its contract. -/
structure Racing (app : String) (racers : List InstanceInfo) (cl : Cluster) (b : Nat → Nat) :
    Prop where
  minted : Minted app racers cl.registry
  ids_nodup : (cl.nodes.map Prod.fst).Nodup
  runs : ∀ j node, cl.nodes[j]? = some node → ∃ me ∈ racers, node.1 = me.instanceId ∧
    Runs (contract app racers me.instanceId) (Resolved app me) (b j) node.2 cl.registry

namespace Racing

variable {app : String} {racers : List InstanceInfo} {cl : Cluster} {b : Nat → Nat}

/-- At the start every node is about to bootstrap, with its whole budget. -/
theorem start {reg : Registry} {nodes : List Race.Node} (hlive : reg.records app = [])
    (hdead : reg.records (app ++ "-dead") = []) (hminters : ∀ n ∈ nodes, Minter app n)
    (hids : (nodes.map (·.info.instanceId)).Nodup) (htok : TokensApart (nodes.map (·.info)))
    (hattempts : ∀ n ∈ nodes,
      quota (nodes.map (·.info)) n.info.rac ≤ n.settings.newTokenRetry.attempts) :
    Racing app (nodes.map (·.info)) (Cluster.start reg nodes) (budget nodes) := by
  have hm : Minted app (nodes.map (·.info)) reg := minted_of_empty hlive hdead
  have hfresh : ∀ id, Fresh app id reg := fun _ x hx => by simp [hlive] at hx
  refine ⟨hm, ?_, fun j node hj => ?_⟩
  · simpa [Cluster.start, List.map_map, Function.comp_def] using hids
  · simp only [Cluster.start, List.getElem?_map] at hj
    obtain ⟨n, hn, rfl⟩ := Option.map_eq_some_iff.mp hj
    have hmem := List.mem_of_getElem? hn
    refine ⟨n.info, List.mem_map_of_mem hmem, rfl, ?_⟩
    rw [show budget nodes j = 2 * n.settings.newTokenRetry.attempts + 4 by simp [budget, hn]]
    exact runs_bootstrap (hminters n hmem) (List.mem_map_of_mem hmem) htok (hfresh _) hm
      (hattempts n hmem)

/-- Serving one call keeps the race invariant: the node served spends a call of its budget and
goes on as its contract says, and every other node sees a move it relies on. -/
theorem advance (h : Racing app racers cl b) (i : Nat) :
    Racing app racers (cl.advance i) (Function.update b i (b i - 1)) := by
  have hids : ((cl.advance i).nodes.map Prod.fst).Nodup := (cl.ids_advance i).symm ▸ h.ids_nodup
  by_cases hcall : ∃ owner c k, cl.nodes[i]? = some (owner, .call c k)
  · obtain ⟨owner, c, k, hnode⟩ := hcall
    rw [Cluster.advance_of_call hnode] at hids ⊢
    obtain ⟨me, hme, howner, hruns⟩ := h.runs i _ hnode
    obtain ⟨m, hb⟩ : ∃ m, b i = m + 1 := by
      cases hbi : b i with
      | zero => rw [hbi] at hruns; exact hruns.elim
      | succ m => exact ⟨m, rfl⟩
    rw [hb] at hruns
    obtain ⟨hinv, hguar, hnext⟩ :=
      hruns cl.registry h.minted ((contract app racers _).rely_refl _)
    refine ⟨hinv, hids, fun j node hj => ?_⟩
    rw [List.getElem?_set] at hj
    by_cases hij : i = j
    · -- the node served goes on with the answer it got
      subst hij
      rw [if_pos rfl, if_pos (List.getElem?_eq_some_iff.mp hnode).1] at hj
      obtain rfl := Option.some.inj hj
      exact ⟨me, hme, howner, by simpa [hb] using hnext⟩
    · -- another node: the move served is one it relies on
      rw [if_neg hij] at hj
      obtain ⟨me', hme', hid', hruns'⟩ := h.runs j node hj
      have hne : me.instanceId ≠ me'.instanceId := by
        rw [← howner, ← hid']
        exact Cluster.fst_ne_of_nodup h.ids_nodup hnode hj hij
      refine ⟨me', hme', hid', ?_⟩
      rw [Function.update_of_ne (Ne.symm hij)]
      exact hruns'.keep (fun _ _ _ hres hr => hres.keep hr.1) (rely_of_guar hne hguar)
  · -- nothing is served: only the budget of a finished node shrinks
    simp only [not_exists] at hcall
    rw [Cluster.advance_of_not_call hcall]
    refine ⟨h.minted, h.ids_nodup, fun j node hj => ?_⟩
    obtain ⟨me, hme, hid, hruns⟩ := h.runs j node hj
    refine ⟨me, hme, hid, ?_⟩
    by_cases hij : j = i
    · subst hij
      obtain ⟨owner, p⟩ := node
      cases p with
      | done y => exact Runs.done (Runs.done_iff.mp hruns)
      | call c k => exact absurd hj (hcall owner c k)
    · rwa [Function.update_of_ne hij]

/-- Along any schedule, the race invariant holds, each node having spent a call for each time it
was served. -/
theorem run (h : Racing app racers cl b) (schedule : List Nat) :
    Racing app racers (cl.run schedule) fun j => b j - schedule.count j := by
  induction schedule generalizing cl b with
  | nil => exact h
  | cons i rest ih =>
    have hb : (fun j => Function.update b i (b i - 1) j - rest.count j) =
        fun j => b j - (i :: rest).count j := by
      funext j
      by_cases hji : j = i
      · subst hji
        simp only [Function.update_self, List.count_cons, beq_self_eq_true, if_true]
        omega
      · simp [Function.update_of_ne hji, Ne.symm hji]
    exact hb ▸ ih (h.advance i)

theorem resolved (h : Racing app racers cl b) {j : Nat}
    {node : String × RegistryProg (Except IdentityError Identity)}
    (hj : cl.nodes[j]? = some node) {y : Except IdentityError Identity} (hy : node.2 = .done y) :
    ∃ me ∈ racers, node.1 = me.instanceId ∧ Resolved app me cl.registry y := by
  obtain ⟨me, hme, hid, hruns⟩ := h.runs j node hj
  rw [hy] at hruns
  exact ⟨me, hme, hid, Runs.done_iff.mp hruns⟩

/-- A node whose budget is spent has finished. -/
theorem finished (h : Racing app racers cl b) {j : Nat}
    {node : String × RegistryProg (Except IdentityError Identity)}
    (hj : cl.nodes[j]? = some node) (hb : b j = 0) : ∃ y, node.2 = .done y := by
  obtain ⟨me, -, -, hruns⟩ := h.runs j node hj
  rw [hb] at hruns
  exact hruns.eq_done

end Racing

/-! ## What a race of minters achieves -/

/-- A rack's quota among the instances of the nodes is the number of its nodes. -/
theorem quota_map_info (racers : List Race.Node) (rac : String) :
    quota (racers.map (·.info)) rac = racers.countP (·.info.rac == rac) := by
  simp [quota, List.countP_map, Function.comp_def]

/-- What a race of minters has achieved once the scheduler, from the cluster `start`, has served
the calls of `schedule`: every registry along the way is minted, each record live with the token
of its slot and every rack holding the ids `0, 1, …, k - 1`; every node served as often as its
budget has finished with a new identity; every node that has finished resolved a new identity on a
live record of its own; once all nodes have finished, every rack holds the ids `0, 1, …` up to the
number of its nodes; and every failed store of the slot a node chose on a read of a minted
registry `reg₁` (as every registry of the run is) is due to another node of its rack, that stored
that slot after the read. -/
structure Completes (app : String) (racers : List Race.Node) (start : Cluster)
    (schedule : List Nat) : Prop where
  minted : ∀ k, Minted app (racers.map (·.info)) (start.run (schedule.take k)).registry
  finished : ∀ j n, racers[j]? = some n →
    2 * n.settings.newTokenRetry.attempts + 4 ≤ schedule.count j →
      ∃ i, (start.run schedule).nodes[j]? = some (n.info.instanceId, .done (.ok i)) ∧
        i.acquisition = .new
  resolved : ∀ node ∈ (start.run schedule).nodes, ∀ y, node.2 = .done y →
    ∃ i, y = .ok i ∧ i.acquisition = .new ∧ i.inst ∈ (start.run schedule).registry.records app ∧
      i.inst.instanceId = node.1
  contiguous : ∀ rac, ((rackOf app (start.run schedule).registry rac).map (·.id)).Perm
    (List.range (rackOf app (start.run schedule).registry rac).length)
  filled : (∀ node ∈ (start.run schedule).nodes, ∃ y, node.2 = .done y) → ∀ rac,
    ((rackOf app (start.run schedule).registry rac).map (·.id)).Perm
      (List.range (racers.countP (·.info.rac == rac)))
  overtaken : ∀ n ∈ racers, ∀ reg₁ reg₂ : Registry, Minted app (racers.map (·.info)) reg₁ →
    Minted app (racers.map (·.info)) reg₂ → Fresh app n.info.instanceId reg₂ →
    ∀ e, (reg₂.register (mintedRecord app n.info (RackMap.ofInstances (reg₁.records app)))).1 =
      .error e →
    ∃ x ∈ reg₂.records app, x ∉ reg₁.records app ∧ x.rac = n.info.rac ∧
      x.id = (mintedRecord app n.info (RackMap.ofInstances (reg₁.records app))).id ∧
      x.instanceId ≠ n.info.instanceId

/-- Nodes of distinct instances racing on a registry whose live and dead namespaces start empty,
each minting with new tokens allowed through the scripted minter, on racks whose tokens tell slots
apart, and each allowed as many attempts as its rack has nodes, complete the race whatever the
schedule: each ends with a new identity within twice its attempts and four more calls, and the
ids of each rack are then `0, 1, …, n - 1` for its `n` nodes. -/
theorem racing_minters_fill_racks {app : String} {reg : Registry} {racers : List Race.Node}
    (hlive : reg.records app = []) (hdead : reg.records (app ++ "-dead") = [])
    (happ : ∀ n ∈ racers, n.settings.app = app)
    (hcreate : ∀ n ∈ racers, n.settings.createNewToken = true)
    (hnew : ∀ n ∈ racers,
      n.new = scripted [{ action := .mint }] RegistryProg.registry app n.info fun _ => pure 0)
    (hids : (racers.map (·.info.instanceId)).Nodup) (htok : TokensApart (racers.map (·.info)))
    (hattempts : ∀ n ∈ racers,
      racers.countP (·.info.rac == n.info.rac) ≤ n.settings.newTokenRetry.attempts)
    (schedule : List Nat) :
    Completes app racers (Cluster.start reg racers) schedule := by
  have hquota : ∀ n ∈ racers,
      quota (racers.map (·.info)) n.info.rac ≤ n.settings.newTokenRetry.attempts := by
    intro n hn
    rw [quota_map_info]
    exact hattempts n hn
  have hstart := Racing.start hlive hdead (fun n hn => ⟨happ n hn, hcreate n hn, hnew n hn⟩) hids
    htok hquota
  have hrace := hstart.run schedule
  -- the nodes keep their places and instances along the schedule
  have hplaces : ((Cluster.start reg racers).run schedule).nodes.map Prod.fst =
      racers.map (·.info.instanceId) := by
    rw [Cluster.ids_run]
    simp [Cluster.start, Function.comp_def]
  have hnode : ∀ (j : Nat) (n : Race.Node), racers[j]? = some n → ∃ p,
      ((Cluster.start reg racers).run schedule).nodes[j]? = some (n.info.instanceId, p) := by
    intro j n hj
    have hfst := congrArg (·[j]?) hplaces
    simp only [List.getElem?_map, hj, Option.map_some] at hfst
    obtain ⟨node, hnode, hfst⟩ := Option.map_eq_some_iff.mp hfst
    exact ⟨node.2, by rw [hnode, ← hfst]⟩
  refine ⟨fun k => (hstart.run (schedule.take k)).minted, fun j n hj hcount => ?_,
    fun node hmem y hy => ?_, hrace.minted.ids_range,
    fun hall rac => ?_, fun n hn reg₁ reg₂ hm₁ hm₂ hf e he => ?_⟩
  · -- a node served as often as its budget has spent it
    obtain ⟨p, hp⟩ := hnode j n hj
    have hbudget : budget racers j - schedule.count j = 0 := by
      simp only [budget, hj, Option.map_some, Option.getD_some]
      omega
    obtain ⟨y, rfl⟩ := hrace.finished hp hbudget
    obtain ⟨me, -, -, i, rfl, hacq, -⟩ := hrace.resolved hp rfl
    exact ⟨i, hp, hacq⟩
  · obtain ⟨j, hj⟩ := List.mem_iff_getElem?.mp hmem
    obtain ⟨me, -, hid, i, rfl, hacq, hinst, hiid, -⟩ := hrace.resolved hj hy
    exact ⟨i, rfl, hacq, hinst, hiid.trans hid.symm⟩
  · -- every node holds a record of its rack, so every rack is full
    have hinfos : ((racers.map (·.info)).map (·.instanceId)).Nodup := by
      simpa [List.map_map, Function.comp_def] using hids
    rw [← quota_map_info]
    refine hrace.minted.ids_perm_quota hinfos (fun me hme => ?_) rac
    obtain ⟨n, hn, rfl⟩ := List.mem_map.mp hme
    obtain ⟨j, hj⟩ := List.mem_iff_getElem?.mp hn
    obtain ⟨p, hp⟩ := hnode j n hj
    obtain ⟨y, hy⟩ := hall _ (List.mem_of_getElem? hp)
    obtain ⟨me', hme', hid, i, -, -, hinst, hiid, hirac⟩ := hrace.resolved hp hy
    -- the node's instance names one node of the race
    have hsame : me' = n.info :=
      List.inj_on_of_nodup_map hinfos hme' (List.mem_map_of_mem hn) hid.symm
    exact ⟨i.inst, hinst, hiid.trans (congrArg _ hsame), hirac.trans (congrArg _ hsame)⟩
  · refine hm₁.overtaken hm₂ htok (List.mem_map_of_mem hn) hf fun hcl => ?_
    rw [Registry.register_of_clear hcl] at he
    cases he

/-- Three nodes on two racks, two of them in one rack with two attempts each. -/
theorem racing_minters_fill_two_racks :
    let app := "cass_cluster"
    let info := fun id rac : String =>
      ({ instanceId := id, region := "us-east-1", rac, hostName := id ++ ".internal",
         hostIp := "10.0.0.7" } : InstanceInfo)
    let racer := fun (id rac : String) (attempts : Nat) =>
      ({ settings := { app, newTokenRetry := RetryPolicy.make attempts (Duration.ofMillis 1) },
         info := info id rac, membership := MembershipAccess.fixed 2 (.ok 2),
         new := scripted [{ action := .mint }] RegistryProg.registry app (info id rac)
           fun _ => pure 0 } : Race.Node)
    let racers := [racer "i-1" "us-east-1a" 2, racer "i-2" "us-east-1a" 2,
      racer "i-3" "us-east-1b" 1]
    let schedule := [0, 1, 2, 0, 1, 2, 0, 1, 2, 0, 1, 2, 0, 1, 2, 0, 1, 2, 0, 1, 0, 1]
    (Registry.empty.records app = [] ∧ Registry.empty.records (app ++ "-dead") = [] ∧
      (∀ n ∈ racers, n.settings.app = app) ∧ (∀ n ∈ racers, n.settings.createNewToken = true) ∧
      (∀ n ∈ racers,
        n.new = scripted [{ action := .mint }] RegistryProg.registry app n.info fun _ => pure 0) ∧
      (racers.map (·.info.instanceId)).Nodup ∧ TokensApart (racers.map (·.info)) ∧
      ∀ n ∈ racers,
        racers.countP (·.info.rac == n.info.rac) ≤ n.settings.newTokenRetry.attempts) ∧
    Completes app racers (Cluster.start Registry.empty racers) schedule := by
  intro app info racer racers schedule
  have hlive : Registry.empty.records app = [] := rfl
  have hdead : Registry.empty.records (app ++ "-dead") = [] := rfl
  have happ : ∀ n ∈ racers, n.settings.app = app := by simp [racers, racer]
  have hcreate : ∀ n ∈ racers, n.settings.createNewToken = true := by simp [racers, racer]
  have hnew : ∀ n ∈ racers,
      n.new = scripted [{ action := .mint }] RegistryProg.registry app n.info fun _ => pure 0 := by
    simp [racers, racer]
  have hids : (racers.map (·.info.instanceId)).Nodup := by decide
  have htok : TokensApart (racers.map (·.info)) := tokensApart_of_tokenByte (by decide +kernel)
  have hattempts : ∀ n ∈ racers,
      racers.countP (·.info.rac == n.info.rac) ≤ n.settings.newTokenRetry.attempts := by
    decide
  exact ⟨⟨hlive, hdead, happ, hcreate, hnew, hids, htok, hattempts⟩,
    racing_minters_fill_racks hlive hdead happ hcreate hnew hids htok hattempts schedule⟩

/-- With new tokens forbidden, a lone node on an empty registry ends its bootstrap refused, four
calls in: completeness needs minting allowed. -/
theorem lone_node_without_minting_fails :
    let info : InstanceInfo :=
      { instanceId := "i-1", region := "us-east-1", rac := "a", hostName := "i-1.internal",
        hostIp := "10.0.0.0" }
    let node : Race.Node :=
      { settings := { createNewToken := false }, info,
        membership := MembershipAccess.fixed 3 (.ok 0),
        new := scripted [{ action := .mint }] RegistryProg.registry "cass_cluster" info
          fun _ => pure 0 }
    ((Cluster.start Registry.empty [node]).run [0, 0, 0, 0]).nodes =
      [("i-1", .done (.error .newTokenForbidden))] := by
  rfl

end Minting

end RingIdentity
