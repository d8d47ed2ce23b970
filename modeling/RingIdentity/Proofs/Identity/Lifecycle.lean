import RingIdentity.Proofs.Program
import RingIdentity.Identity.Bootstrap
/-! # An identity after bootstrap

Bootstrap builds an identity in one place, `resolve`, and there a node replaces another exactly
when it took over a dead peer's token (`Identity.Fresh`).  That holds of every identity bootstrap
may return, whatever its registry, strategies, membership and logger answer
(`bootstrap_fresh`): run in `Prog`, bootstrap is a tree of calls, and `Prog.Yields` says that
every value at a leaf of the tree has a property.

Afterwards only two calls change an identity: one records the address of the node it replaces,
the other overrides its backup key (`Update`).  One call (`apply_eq`) and then any sequence of
them (`applyAll_eq`) leave the record, the instance facts, the settings and how the identity was
won as they were; the address and the key are those of the last call of their kind; and the node
is a replacement once it was one or once any recorded address was nonblank.  From a fresh
identity the last makes "replacement" mean: a dead peer's token was taken over, or some nonblank
address was recorded so far (`AfterCalls`), and it never goes back.
-/
namespace RingIdentity

namespace Prog

variable {Q : Type} {A : Q → Type} {α β : Type}

/-- Every value the program may end with satisfies `P`, however its calls are answered. -/
def Yields (P : α → Prop) : Prog Q A α → Prop
  | done a => P a
  | call _ k => ∀ x, Yields P (k x)

theorem Yields.of_forall {P : α → Prop} (h : ∀ a, P a) (p : Prog Q A α) : p.Yields P := by
  induction p with
  | done a => exact h a
  | call q k ih => exact ih

theorem Yields.mono {P P' : α → Prop} (h : ∀ a, P a → P' a) {p : Prog Q A α}
    (hp : p.Yields P) : p.Yields P' := by
  induction p with
  | done a => exact h a hp
  | call q k ih => exact fun x => ih x (hp x)

theorem Yields.bind {P : β → Prop} {p : Prog Q A α} {f : α → Prog Q A β}
    (h : p.Yields fun a => (f a).Yields P) : (p >>= f).Yields P := by
  induction p with
  | done a => exact h
  | call q k ih => exact fun x => ih x (h x)

/-- Whatever a program ends with, a continuation that yields `P` on every value makes the whole
yield `P`. -/
theorem Yields.bind_of_forall {P : β → Prop} (p : Prog Q A α) {f : α → Prog Q A β}
    (h : ∀ a, (f a).Yields P) : (p >>= f).Yields P :=
  Yields.bind (Yields.of_forall h p)

end Prog

namespace Identity

/-! ## What bootstrap builds -/

/-- A node fresh from bootstrap replaces another exactly when it took over a dead peer's
token. -/
def Fresh (i : Identity) : Prop := i.isReplace = (i.acquisition == .dead)

/-- An outcome whose identity, if there is one, is fresh. -/
def FreshOutcome (r : Except IdentityError Identity) : Prop := ∀ i, r = .ok i → i.Fresh

theorem freshOutcome_error (e : IdentityError) : FreshOutcome (.error e) := by
  intro i h
  cases h

theorem freshOutcome_ok {i : Identity} (h : i.Fresh) : FreshOutcome (.ok i) := by
  intro j hj
  cases hj
  exact h

section Bootstrap

variable {Q : Type} {A : Q → Type} (ctx : IdentityContext (Prog Q A))

theorem resolve_fresh (r : RingInstance) (acq : Acquisition) (outOfService : Bool)
    (replacedIp : Option String) : (resolve ctx r acq outOfService replacedIp).Yields Fresh :=
  Prog.Yields.bind_of_forall _ fun _ => rfl

/-- A won record becomes a fresh identity, returned as the outcome. -/
theorem resolve_ok_fresh (r : RingInstance) (acq : Acquisition) (outOfService : Bool)
    (replacedIp : Option String) :
    (resolve ctx r acq outOfService replacedIp >>= fun i => pure (.ok i)).Yields FreshOutcome :=
  Prog.Yields.bind (Prog.Yields.mono (fun _ hi => freshOutcome_ok hi)
    (resolve_fresh ctx r acq outOfService replacedIp))

/-- Asking the strategies in turn, by induction on those left. -/
theorem tryStrategies_fresh :
    ∀ strats : List (Acquisition × TokenRetriever (Prog Q A)),
      (tryStrategies ctx strats).Yields FreshOutcome
  | [] => freshOutcome_error .exhausted
  | (acq, retriever) :: rest => by
    rw [tryStrategies]
    -- the strategy's answer is bound under either branch of the choice of strategy
    split <;> (
      refine Prog.Yields.bind_of_forall _ fun answer => ?_
      rcases answer with e | _ | c
      · exact freshOutcome_error e
      · exact Prog.Yields.bind_of_forall _ fun _ => tryStrategies_fresh rest
      · exact resolve_ok_fresh ctx c.inst acq false c.replacedIp)

/-- Every identity bootstrap may return is fresh. -/
theorem bootstrap_fresh : (bootstrap ctx).Yields FreshOutcome := by
  rw [bootstrap]
  refine Prog.Yields.bind_of_forall _ fun found => ?_
  rcases found with e | _ | ⟨r, dead⟩
  · exact freshOutcome_error e
  · exact tryStrategies_fresh ctx _
  · exact resolve_ok_fresh ctx r .reclaimed dead none

end Bootstrap

/-! ## Calls after bootstrap -/

/-- A call that changes an identity after bootstrap. -/
inductive Update where
  /-- Records the address of the node replaced. -/
  | replacedIp (ip : String)
  /-- Overrides the backup key. -/
  | backupIdentifier (b : String)
  deriving DecidableEq, Repr

namespace Update

/-- The address a call records, if it records one. -/
def replacedIp? : Update → Option String
  | .replacedIp ip => some ip
  | .backupIdentifier _ => none

/-- The backup key a call sets, if it sets one. -/
def backupIdentifier? : Update → Option String
  | .replacedIp _ => none
  | .backupIdentifier b => some b

end Update

/-- An identity after one call. -/
def apply (i : Identity) : Update → Identity
  | .replacedIp ip => i.setReplacedIp ip
  | .backupIdentifier b => i.setBackupIdentifier b

/-- An identity after calls, in order. -/
def applyAll (i : Identity) (us : List Update) : Identity := us.foldl apply i

/-- One call: it sets what it names, and makes the node a replacement once its address is
nonblank. -/
theorem apply_eq (i : Identity) (u : Update) :
    i.apply u = { i with
      isReplace := i.isReplace || u.replacedIp?.any (!·.isEmpty)
      replacedIp := u.replacedIp?.getD i.replacedIp
      backupIdentifier := u.backupIdentifier?.getD i.backupIdentifier } := by
  cases u <;> simp [apply, setReplacedIp, setBackupIdentifier, Update.replacedIp?,
    Update.backupIdentifier?]

theorem getD_getLast?_filterMap_cons (f : Update → Option String) (u : Update)
    (us : List Update) (x : String) :
    (((u :: us).filterMap f).getLast?).getD x =
      ((us.filterMap f).getLast?).getD ((f u).getD x) := by
  cases h : f u <;> simp [h, List.getLast?_cons]

/-- Any sequence of calls, by induction on it from the front, the identity generalized. -/
theorem applyAll_eq (i : Identity) (us : List Update) :
    i.applyAll us = { i with
      isReplace := i.isReplace || (us.filterMap Update.replacedIp?).any (!·.isEmpty)
      replacedIp := ((us.filterMap Update.replacedIp?).getLast?).getD i.replacedIp
      backupIdentifier :=
        ((us.filterMap Update.backupIdentifier?).getLast?).getD i.backupIdentifier } := by
  induction us generalizing i with
  | nil => simp [applyAll]
  | cons u us ih =>
    have hstep : i.applyAll (u :: us) = (i.apply u).applyAll us := rfl
    rw [hstep, ih, apply_eq, getD_getLast?_filterMap_cons, getD_getLast?_filterMap_cons]
    cases u <;> simp [Update.replacedIp?, Bool.or_assoc]

/-- Once a replacement, always one. -/
theorem isReplace_applyAll_append {i : Identity} {us : List Update}
    (h : (i.applyAll us).isReplace = true) (vs : List Update) :
    (i.applyAll (us ++ vs)).isReplace = true := by
  have hsplit : i.applyAll (us ++ vs) = (i.applyAll us).applyAll vs := List.foldl_append ..
  rw [hsplit, applyAll_eq]
  simp [h]

/-- What calls `us` leave of an identity `i` in the identity `j`. -/
structure AfterCalls (i : Identity) (us : List Update) (j : Identity) : Prop where
  inst_eq : j.inst = i.inst
  info_eq : j.info = i.info
  settings_eq : j.settings = i.settings
  acquisition_eq : j.acquisition = i.acquisition
  outOfService_eq : j.outOfService = i.outOfService
  isTokenPregenerated_eq : j.isTokenPregenerated = i.isTokenPregenerated
  /-- The address of the last call that records one, else the one bootstrap left. -/
  replacedIp_eq : j.replacedIp = ((us.filterMap Update.replacedIp?).getLast?).getD i.replacedIp
  /-- The key of the last call that sets one, else the one bootstrap left. -/
  backupIdentifier_eq :
    j.backupIdentifier = ((us.filterMap Update.backupIdentifier?).getLast?).getD i.backupIdentifier
  isReplace_iff :
    j.isReplace = true ↔ i.acquisition = .dead ∨ ∃ ip ∈ us.filterMap Update.replacedIp?, ip ≠ ""

theorem Fresh.afterCalls {i : Identity} (h : i.Fresh) (us : List Update) :
    AfterCalls i us (i.applyAll us) := by
  rw [applyAll_eq]
  refine ⟨rfl, rfl, rfl, rfl, rfl, rfl, rfl, rfl, ?_⟩
  rw [h]
  simp only [Bool.or_eq_true, beq_iff_eq, List.any_eq_true]
  refine or_congr_right (exists_congr fun ip => and_congr_right fun _ => ?_)
  simp

/-- Every identity bootstrap may return, followed by any calls: its record, instance, settings
and how it was won stay; the replaced address and the backup key are those of the last call of
their kind, or bootstrap's; it replaces another node exactly when it took over a dead peer's token
or some call recorded a nonblank address, and once it does it always does. -/
theorem bootstrap_then_calls {Q : Type} {A : Q → Type} (ctx : IdentityContext (Prog Q A)) :
    (bootstrap ctx).Yields fun r => ∀ i, r = .ok i →
      (∀ us, AfterCalls i us (i.applyAll us)) ∧
      ∀ us vs, (i.applyAll us).isReplace = true → (i.applyAll (us ++ vs)).isReplace = true :=
  Prog.Yields.mono
    (fun _ hr i hi => ⟨(hr i hi).afterCalls, fun _ vs h => isReplace_applyAll_append h vs⟩)
    (bootstrap_fresh ctx)

end Identity

end RingIdentity
