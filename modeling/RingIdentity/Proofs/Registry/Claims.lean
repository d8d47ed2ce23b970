import RingIdentity.Proofs.Registry.Invariant
/-! # Racing claims: at most one wins

Writes to the registry are conditional, and its interface promises that of any number of claims
on the same slot or token, at most one succeeds and the others are refused.  A claim is a
`register` of a new record or an `update` of a stored one; every call completes under the
registry's lock, so any interleaving of racing claims is some order of them, run one after
another (`Registry.submitAll`).

The argument follows the order of the run.  Until a claim wins, every claim is refused and the
registry is unchanged (`submit_error`).  The winner's record was not stored before
(`record_not_mem_of_won`) and is stored after; from then on it stands in the way of every later
claim (`submit_refused_of_held`), because no later update is exempted from it: an update names a
record stored before the run, which the winner's record is not.  An update that names its own
replacement wins without changing anything, which is why the replacement must differ.
-/
namespace RingIdentity

namespace Registry

open RingInstance

/-- A conditional write racing for a slot or a token. -/
inductive Claim where
  /-- Stores a new record. -/
  | register (r : RingInstance)
  /-- Swaps a stored record for another in its slot. -/
  | update (current replacement : RingInstance)

namespace Claim

/-- The record a claim would store. -/
def record : Claim → RingInstance
  | .register r => r
  | .update _ r => r

/-- A claim issued against a registry: an update names a record the registry stores, and a
replacement that differs from it. -/
def IssuedAgainst (reg : Registry) : Claim → Prop
  | .register _ => True
  | .update c r => (∃ k, c ∈ reg.records k) ∧ r ≠ c

end Claim

/-- Runs a claim against the registry. -/
def submit (reg : Registry) : Claim → Except RegistryError RingInstance × Registry
  | .register r => reg.register r
  | .update c r => reg.update c r

/-- Runs claims one after another: the answer of each, and the registry after the last. -/
def submitAll : Registry → List Claim → List (Except RegistryError RingInstance) × Registry
  | reg, [] => ([], reg)
  | reg, x :: xs =>
    let step := reg.submit x
    let rest := step.2.submitAll xs
    (step.1 :: rest.1, rest.2)

/-- A refusal of a claim: a conflict, or a missing record. -/
def Refusal (e : RegistryError) : Prop :=
  (∃ app rac i, e = .conflict app rac i) ∨ ∃ app rac i, e = .notFound app rac i

theorem refusal_conflictOf (r : RingInstance) : Refusal (conflictOf r) := .inl ⟨_, _, _, rfl⟩

theorem refusal_notFoundOf (r : RingInstance) : Refusal (notFoundOf r) := .inr ⟨_, _, _, rfl⟩

/-! ## One claim -/

/-- **A refused claim changes nothing**, and is refused as a conflict or a missing record. -/
theorem submit_error {reg : Registry} {x : Claim} {e : RegistryError}
    (h : (reg.submit x).1 = .error e) : (reg.submit x).2 = reg ∧ Refusal e := by
  cases x with
  | register r =>
    cases hc : findConflict (reg.records r.app) r none with
    | none => simp [submit, register_of_clear hc] at h
    | some w =>
      simp only [submit, register_of_held hc, Except.error.injEq] at h ⊢
      exact ⟨trivial, h ▸ refusal_conflictOf r⟩
  | update c r =>
    rcases update_cases reg c r with ⟨e', he, hk⟩ | ⟨as, bs, -, -, -, -, -, he⟩
    · simp only [submit, he, Except.error.injEq] at h ⊢
      refine ⟨trivial, h ▸ ?_⟩
      rcases hk with rfl | rfl
      · exact refusal_conflictOf r
      · exact refusal_notFoundOf c
    · simp [submit, he] at h

/-- A claim that wins stores its record, in its own namespace. -/
theorem record_mem_of_won {reg : Registry} {x : Claim} {v : RingInstance}
    (h : (reg.submit x).1 = .ok v) : x.record ∈ (reg.submit x).2.records x.record.app := by
  cases x with
  | register r =>
    cases hc : findConflict (reg.records r.app) r none with
    | none => simp [submit, Claim.record, register_of_clear hc]
    | some w => simp [submit, register_of_held hc] at h
  | update c r =>
    rcases update_cases reg c r with ⟨e, he, -⟩ | ⟨as, bs, -, -, -, happ, -, he⟩
    · simp [submit, he] at h
    · simp [submit, Claim.record, he, happ]

/-- **A claim that wins stores a record the registry did not hold.**  A register is refused by
its own record, and an update by any record equal to its replacement but the one it names. -/
theorem record_not_mem_of_won {reg : Registry} {x : Claim} {v : RingInstance}
    (hx : x.IssuedAgainst reg) (h : (reg.submit x).1 = .ok v) :
    x.record ∉ reg.records x.record.app := by
  cases x with
  | register r =>
    cases hc : findConflict (reg.records r.app) r none with
    | none => exact fun hr => not_apart_self r (findConflict_eq_none_iff.mp hc r hr (by simp))
    | some w => simp [submit, register_of_held hc] at h
  | update c r =>
    rcases update_cases reg c r with ⟨e, he, -⟩ | ⟨as, bs, hrs, -, -, happ, hc, he⟩
    · simp [submit, he] at h
    · intro hr
      simp only [Claim.record, ← happ, hrs] at hr
      have hne : some c ≠ some r := fun he => hx.2 (Option.some.inj he).symm
      exact not_apart_self r (findConflict_eq_none_iff.mp hc r hr hne)

/-- **A stored record refuses every claim it contends with**, unless the claim is an update
naming that very record. -/
theorem submit_refused_of_held {reg : Registry} {w : RingInstance} {x : Claim}
    (hw : w ∈ reg.records x.record.app) (hwx : ¬Apart w x.record)
    (hex : ∀ c r, x = .update c r → c ≠ w) :
    ∃ e, (reg.submit x).1 = .error e := by
  cases x with
  | register r =>
    cases hc : findConflict (reg.records r.app) r none with
    | none => exact absurd (findConflict_eq_none_iff.mp hc w hw (by simp)) hwx
    | some y => exact ⟨conflictOf r, by simp [submit, register_of_held hc]⟩
  | update c r =>
    rcases update_cases reg c r with ⟨e, he, -⟩ | ⟨as, bs, hrs, -, -, happ, hc, -⟩
    · exact ⟨e, by simp [submit, he]⟩
    · simp only [Claim.record, ← happ, hrs] at hw
      have hne : some c ≠ some w := fun he => hex c r rfl (Option.some.inj he)
      exact absurd (findConflict_eq_none_iff.mp hc w hw hne) hwx

/-! ## A run of claims -/

/-- **After a winner, every claim is refused.**  Once the record `w` is stored in namespace
`app`, a run of claims on `app` that contend with `w`, none an update naming `w`, is refused
claim by claim and leaves the registry unchanged. -/
theorem submitAll_refused_of_held {app : String} {w : RingInstance} :
    ∀ (reg : Registry) (xs : List Claim), w ∈ reg.records app →
      (∀ x ∈ xs, x.record.app = app ∧ ¬Apart w x.record ∧ ∀ c r, x = .update c r → c ≠ w) →
      ∀ res ∈ (reg.submitAll xs).1, ∃ e, res = .error e ∧ Refusal e
  | _, [], _, _ => by simp [submitAll]
  | reg, x :: xs, hw, hxs => by
    obtain ⟨happ, hwx, hex⟩ := hxs x List.mem_cons_self
    obtain ⟨e, he⟩ := submit_refused_of_held (happ ▸ hw) hwx hex
    obtain ⟨hreg, hrefusal⟩ := submit_error he
    intro res hres
    simp only [submitAll, List.mem_cons] at hres
    rcases hres with rfl | hres
    · exact ⟨e, he, hrefusal⟩
    · rw [hreg] at hres
      exact submitAll_refused_of_held reg xs hw (fun y hy => hxs y (List.mem_cons_of_mem _ hy))
        res hres

/-- **A racing claim contends with a winner's record**, and, issued before that record was
stored, cannot name it in an update. -/
theorem contends_of_race {reg : Registry} (hwf : reg.WellFormed) {x y : Claim}
    (hfresh : x.record ∉ reg.records x.record.app) (hy : y.IssuedAgainst reg)
    (hshare : x.record.app = y.record.app ∧
      ((x.record.rac = y.record.rac ∧ x.record.id = y.record.id) ∨
        ∃ t, x.record.token = some t ∧ y.record.token = some t)) :
    y.record.app = x.record.app ∧ ¬Apart x.record y.record ∧
      ∀ c r, y = .update c r → c ≠ x.record := by
  obtain ⟨happ, hshare⟩ := hshare
  refine ⟨happ.symm, ?_, ?_⟩
  · rintro ⟨hslot, htoken⟩
    rcases hshare with hs | ⟨t, ht, ht'⟩
    · exact hslot hs
    · exact htoken t ht ht'
  · -- an update names a stored record, and the winner's record was not stored
    rintro c r rfl rfl
    obtain ⟨⟨k, hk⟩, -⟩ := hy
    have hck : x.record.app = k := (hwf.records k).app_eq _ hk
    exact hfresh (hck ▸ hk)

/-- **At most one of a set of racing claims wins.**  Claims issued against a reachable
registry, whose records pairwise belong to one namespace and share a slot or a token, run one
after another in any order: at most one of them succeeds, and every other is refused as a
conflict or a missing record. -/
theorem Reachable.at_most_one_claim_wins {reg : Registry} (hreg : reg.Reachable) (xs : List Claim)
    (hissued : ∀ x ∈ xs, x.IssuedAgainst reg)
    (hrace : xs.Pairwise fun x y => x.record.app = y.record.app ∧
      ((x.record.rac = y.record.rac ∧ x.record.id = y.record.id) ∨
        ∃ t, x.record.token = some t ∧ y.record.token = some t)) :
    (reg.submitAll xs).1.countP (·.isOk) ≤ 1 ∧
    ∀ e, .error e ∈ (reg.submitAll xs).1 → Refusal e := by
  have hwf := hreg.wellFormed
  induction xs with
  | nil => simp [submitAll]
  | cons x xs ih =>
    obtain ⟨hx, hrest⟩ := List.pairwise_cons.mp hrace
    have ih' := ih (fun y hy => hissued y (List.mem_cons_of_mem _ hy)) hrest
    cases hres : (reg.submit x).1 with
    | error e =>
      -- a refused claim leaves the registry as it was, so the rest race from it too
      obtain ⟨hreg', hrefusal⟩ := submit_error hres
      simp only [submitAll, hres, hreg', List.countP_cons, List.mem_cons]
      refine ⟨by simpa [Except.isOk, Except.toBool] using ih'.1, fun e' he' => ?_⟩
      rcases he' with he' | he'
      · cases he'
        exact hrefusal
      · exact ih'.2 e' he'
    | ok v =>
      -- the winner's record, stored now and not before, refuses every later claim
      have hwon := record_mem_of_won hres
      have hfresh := record_not_mem_of_won (hissued x List.mem_cons_self) hres
      have hlater : ∀ y ∈ xs, y.record.app = x.record.app ∧ ¬Apart x.record y.record ∧
          ∀ c r, y = .update c r → c ≠ x.record := fun y hy =>
        contends_of_race hwf hfresh (hissued y (List.mem_cons_of_mem _ hy)) (hx y hy)
      have hrefused := submitAll_refused_of_held _ xs hwon hlater
      have hcount : ((reg.submit x).2.submitAll xs).1.countP (·.isOk) = 0 := by
        rw [List.countP_eq_zero]
        intro res hmem
        obtain ⟨e, rfl, -⟩ := hrefused res hmem
        simp [Except.isOk, Except.toBool]
      simp only [submitAll, hres, List.countP_cons, hcount, List.mem_cons]
      refine ⟨by simp [Except.isOk, Except.toBool], fun e he => ?_⟩
      rcases he with he | he
      · cases he
      · obtain ⟨e', he', hrefusal⟩ := hrefused _ he
        cases he'
        exact hrefusal

/-- Two nodes racing to take over a placeholder's slot with the same token: at most one update
wins. -/
theorem at_most_one_claim_wins_for_placeholder :
    let placeholder : RingInstance :=
      { id := 3, app := "cass_cluster", instanceId := "new_slot", rac := "us-east-1a" }
    let first : RingInstance :=
      { id := 3, app := "cass_cluster", instanceId := "i-first", rac := "us-east-1a",
        token := some "300" }
    let second : RingInstance :=
      { id := 3, app := "cass_cluster", instanceId := "i-second", rac := "us-east-1a",
        token := some "300" }
    let reg := ofRecords [placeholder]
    let xs := [Claim.update placeholder first, Claim.update placeholder second]
    reg.Reachable ∧ (∀ x ∈ xs, x.IssuedAgainst reg) ∧
    xs.Pairwise (fun x y => x.record.app = y.record.app ∧
      ((x.record.rac = y.record.rac ∧ x.record.id = y.record.id) ∨
        ∃ t, x.record.token = some t ∧ y.record.token = some t)) ∧
    (reg.submitAll xs).1.countP (·.isOk) ≤ 1 ∧
    ∀ e, .error e ∈ (reg.submitAll xs).1 → Refusal e := by
  intro placeholder first second reg xs
  have hreg : reg.Reachable := .seeded _
  have hissued : ∀ x ∈ xs, x.IssuedAgainst reg := by
    intro x hx
    simp only [xs, List.mem_cons, List.not_mem_nil, or_false] at hx
    rcases hx with rfl | rfl
    · exact ⟨⟨"cass_cluster", by decide⟩, by decide⟩
    · exact ⟨⟨"cass_cluster", by decide⟩, by decide⟩
  have hrace : xs.Pairwise (fun x y => x.record.app = y.record.app ∧
      ((x.record.rac = y.record.rac ∧ x.record.id = y.record.id) ∨
        ∃ t, x.record.token = some t ∧ y.record.token = some t)) := by
    refine List.pairwise_cons.mpr ⟨fun y hy => ?_, List.pairwise_singleton _ _⟩
    rw [List.mem_singleton] at hy
    subst hy
    exact ⟨rfl, .inl ⟨rfl, rfl⟩⟩
  exact ⟨hreg, hissued, hrace, Reachable.at_most_one_claim_wins hreg xs hissued hrace⟩

end Registry

end RingIdentity
