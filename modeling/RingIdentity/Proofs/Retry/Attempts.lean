import RingIdentity.Retry.Run
/-! # The attempts of a retry run

A retry run calls its operation with attempt numbers one, two, … in turn, until an attempt
succeeds or the last allowed attempt has failed.  To see every call, the operation is run in a
state that records each call with its attempt number and outcome (`logged`), and its outcome is
any function of the attempt number and of the outcomes of all calls before.  Called with
attempts `1, …, n` one after another, such an operation makes the calls `script f n`.

One call of the loop records the next entry of the script (`logged_run`), so a run started after
attempt `n` stops at some attempt `k` in the sense of `StoppedAt`: the attempts between failed,
the calls are those of the script up to `k`, and the result is attempt `k`'s success, or its error
when `k` was the last attempt allowed (`runFrom_stoppedAt`, by induction on the attempts left).

Main statement: `run_attempts`.
-/
namespace RingIdentity

namespace RetryPolicy

variable {ε α : Type}

/-- An operation whose outcome is decided from the attempt number and the outcomes of the calls
before it, recording each call with its attempt number and outcome. -/
def logged (f : Nat → List (Except ε α) → Except ε α) (k : Nat) :
    StateM (List (Nat × Except ε α)) (Except ε α) := do
  let calls ← get
  let o := f k (calls.map Prod.snd)
  set (calls ++ [(k, o)])
  return o

/-- The calls of an operation called with attempts `1, …, n` in turn. -/
def script (f : Nat → List (Except ε α) → Except ε α) : Nat → List (Nat × Except ε α)
  | 0 => []
  | n + 1 => script f n ++ [(n + 1, f (n + 1) ((script f n).map Prod.snd))]

/-- The outcome of attempt `k`, made after attempts `1, …, k - 1`. -/
def outcome (f : Nat → List (Except ε α) → Except ε α) (k : Nat) : Except ε α :=
  f k ((script f (k - 1)).map Prod.snd)

variable (f : Nat → List (Except ε α) → Except ε α)

theorem script_succ (n : Nat) : script f (n + 1) = script f n ++ [(n + 1, outcome f (n + 1))] :=
  rfl

/-- The attempts of the script are `1, …, n`, in order and without a gap. -/
theorem attempts_script (n : Nat) : (script f n).map Prod.fst = List.range' 1 n := by
  induction n with
  | zero => rfl
  | succ n ih =>
    rw [script_succ, List.map_append, ih, List.range'_concat, Nat.one_mul, Nat.add_comm 1 n]
    rfl

/-- A logged call of the next attempt records the next entry of the script. -/
theorem logged_run (n : Nat) :
    (logged f (n + 1)).run (script f n) = (outcome f (n + 1), script f (n + 1)) :=
  rfl

/-- The run started after attempt `n`, with `last` the last attempt allowed, has stopped at
attempt `k`: every attempt in between failed, the calls made are those of attempts `1, …, k`, and
the run returned attempt `k`'s success, or its error with `k` when `k` was the last. -/
structure StoppedAt (n last k : Nat) (res : Except (Exhausted ε) α × List (Nat × Except ε α)) :
    Prop where
  after : n < k
  within : k ≤ last
  failed : ∀ i, n < i → i < k → ∃ e, outcome f i = .error e
  calls : res.2 = script f k
  result : (∃ v, outcome f k = .ok v ∧ res.1 = .ok v) ∨
    (∃ e, outcome f k = .error e ∧ k = last ∧ res.1 = .error ⟨k, e⟩)

theorem runFrom_zero_run (n : Nat) :
    (runFrom (logged f) (n + 1) 0).run (script f n) =
      ((match outcome f (n + 1) with
        | .ok v => .ok v
        | .error e => .error ⟨n + 1, e⟩), script f (n + 1)) := by
  simp only [runFrom, StateT.run_bind, logged_run]
  cases outcome f (n + 1) <;> rfl

theorem runFrom_succ_run (n r : Nat) :
    (runFrom (logged f) (n + 1) (r + 1)).run (script f n) =
      match outcome f (n + 1) with
      | .ok v => (.ok v, script f (n + 1))
      | .error _ => (runFrom (logged f) (n + 2) r).run (script f (n + 1)) := by
  simp only [runFrom, StateT.run_bind, logged_run]
  cases outcome f (n + 1) <;> rfl

/-- A run started after attempt `n` with `r` more attempts allowed after the next stops within
them. -/
theorem runFrom_stoppedAt (r n : Nat) :
    ∃ k, StoppedAt f n (n + 1 + r) k ((runFrom (logged f) (n + 1) r).run (script f n)) := by
  induction r generalizing n with
  | zero =>
    refine ⟨n + 1, ⟨by omega, by omega, fun i h₁ h₂ => by omega, ?_, ?_⟩⟩
    · rw [runFrom_zero_run]
    · rw [runFrom_zero_run]
      cases outcome f (n + 1) with
      | ok v => exact .inl ⟨v, rfl, rfl⟩
      | error e => exact .inr ⟨e, rfl, rfl, rfl⟩
  | succ r ih =>
    rw [runFrom_succ_run]
    cases hk : outcome f (n + 1) with
    | ok v =>
      -- the next attempt succeeds: the run stops there
      exact ⟨n + 1, by omega, by omega, fun i h₁ h₂ => by omega, rfl, .inl ⟨v, hk, rfl⟩⟩
    | error e =>
      -- the next attempt fails: the rest of the run starts after it
      obtain ⟨k, hs⟩ := ih (n + 1)
      refine ⟨k, by have := hs.after; omega, by have := hs.within; omega, fun i h₁ h₂ => ?_,
        hs.calls, ?_⟩
      · rcases Nat.lt_or_ge (n + 1) i with h | h
        · exact hs.failed i h h₂
        · exact ⟨e, (Nat.le_antisymm h₁ h : n + 1 = i) ▸ hk⟩
      · rcases hs.result with ⟨v, hv, hres⟩ | ⟨e', he', hlast, hres⟩
        · exact .inl ⟨v, hv, hres⟩
        · exact .inr ⟨e', he', by omega, hres⟩

/-- A policy made with any number of attempts allows at least one. -/
theorem make_attempts_pos (attempts : Nat) (delay : Duration) :
    0 < (make attempts delay).attempts :=
  Nat.lt_of_lt_of_le Nat.one_pos (Nat.le_max_right attempts 1)

/-- **The attempts of a retry run.**  Under a policy of at least one attempt, a run calls the
operation with attempts `1, …, k` in order and without a gap, each call seeing the outcomes of
those before, for `k` the first successful attempt when it comes within the policy and the
policy's attempts otherwise; it returns that success, or gives up with `k` attempts and the
`k`-th error.  No attempt number exceeds the policy's attempts. -/
theorem run_attempts (p : RetryPolicy) (hp : 0 < p.attempts) :
    ∃ k, StoppedAt f 0 p.attempts k ((p.run (logged f)).run []) ∧
      ((p.run (logged f)).run []).2.map Prod.fst = List.range' 1 k := by
  obtain ⟨k, hs⟩ := runFrom_stoppedAt f (p.attempts - 1) 0
  have hlast : 0 + 1 + (p.attempts - 1) = p.attempts := by omega
  -- the run is the loop from attempt one, before any call
  have hrun : (p.run (logged f)).run [] =
      (runFrom (logged f) (0 + 1) (p.attempts - 1)).run (script f 0) := rfl
  rw [hlast] at hs
  rw [hrun]
  exact ⟨k, hs, by rw [hs.calls, attempts_script]⟩

theorem run_attempts_of_four :
    0 < (make 4 (Duration.ofMillis 1)).attempts ∧
      ∃ k, StoppedAt (fun k _ => (.error k : Except Nat Unit)) 0
          (make 4 (Duration.ofMillis 1)).attempts k
          (((make 4 (Duration.ofMillis 1)).run (logged fun k _ => .error k)).run []) ∧
        (((make 4 (Duration.ofMillis 1)).run (logged fun k _ => (.error k : Except Nat Unit))).run
          []).2.map Prod.fst = List.range' 1 k :=
  ⟨make_attempts_pos 4 _, run_attempts _ _ (make_attempts_pos 4 _)⟩

end RetryPolicy

end RingIdentity
