import RingIdentity.Retry.Policy
/-!
Running an operation under a retry policy. Attempts are numbered from one; the first success is
returned at once, and a failure of the last allowed attempt ends the run as `Exhausted`, with the
number of attempts made and the last error. Between attempts the policy's delay passes; every
wait is the same length.
-/
namespace RingIdentity

/-- A run that failed every attempt: how many were made, and the error of the last. -/
structure Exhausted (ε : Type) where
  attempts : Nat
  lastError : ε
  deriving Repr

namespace Exhausted

/-- `gave up after N attempt(s), last error: E`, with the error's own message. -/
def message {ε : Type} (x : Exhausted ε) (render : ε → String) : String :=
  "gave up after " ++ toString x.attempts ++ " attempt(s), last error: " ++ render x.lastError

/-- The record form `RetryExhausted { attempts: N, last_error: E }` with the error's own record
form. -/
def record {ε : Type} (x : Exhausted ε) (render : ε → String) : String :=
  "RetryExhausted \x7b attempts: " ++ toString x.attempts ++ ", last_error: " ++
    render x.lastError ++ " \x7d"

end Exhausted

namespace RetryPolicy

/-- The wait before the next attempt: always the policy's delay. -/
def nextDelay (p : RetryPolicy) : Duration := p.delay

/-- Runs `op` on attempts `k`, `k + 1`, … while they fail, with `remaining` more attempts
allowed after `k`. -/
def runFrom {m : Type → Type} [Monad m] {ε α : Type} (op : Nat → m (Except ε α)) (k : Nat) :
    Nat → m (Except (Exhausted ε) α)
  | 0 => do
    match ← op k with
    | .ok v => pure (.ok v)
    | .error e => pure (.error ⟨k, e⟩)
  | remaining + 1 => do
    match ← op k with
    | .ok v => pure (.ok v)
    | .error _ => runFrom op (k + 1) remaining

/-- Runs an operation under the policy, from attempt one. -/
def run {m : Type → Type} [Monad m] {ε α : Type} (p : RetryPolicy) (op : Nat → m (Except ε α)) :
    m (Except (Exhausted ε) α) :=
  runFrom op 1 (p.attempts - 1)

end RetryPolicy

end RingIdentity
