import RingIdentity.Json.Value
/-!
Durations as whole seconds and the nanoseconds below them, the way delays are configured and
reported. Seconds range over the unsigned 64-bit numbers and nanoseconds stay below a second.
-/
namespace RingIdentity

/-- A span of time: `secs` seconds and `nanos` nanoseconds, `nanos < 10^9`. -/
structure Duration where
  secs : Nat
  nanos : Nat
  deriving DecidableEq, Repr, Inhabited

namespace Duration

/-- Nanoseconds in a second. -/
def nanosPerSec : Nat := 1000000000

/-- The duration of a number of nanoseconds. -/
def ofNanos (n : Nat) : Duration := ⟨n / nanosPerSec, n % nanosPerSec⟩

/-- The duration of a number of milliseconds. -/
def ofMillis (ms : Nat) : Duration := ofNanos (ms * 1000000)

/-- The whole length in nanoseconds. -/
def toNanos (d : Duration) : Nat := d.secs * nanosPerSec + d.nanos

/-- No time. -/
def zero : Duration := ⟨0, 0⟩

/-- The JSON form: an object of `secs` and `nanos`. -/
def toJson (d : Duration) : Json := .obj [("secs", .int d.secs), ("nanos", .int d.nanos)]

/-- Splitting the nanoseconds of a duration gives the duration back. -/
theorem ofNanos_toNanos (d : Duration) (h : d.nanos < nanosPerSec) : ofNanos d.toNanos = d := by
  unfold ofNanos toNanos
  cases d with
  | mk s n =>
    simp only at h ⊢
    have hp : 0 < nanosPerSec := by decide
    congr 1
    · rw [Nat.add_comm, Nat.add_mul_div_right _ _ hp, Nat.div_eq_of_lt h, Nat.zero_add]
    · rw [Nat.add_comm, Nat.add_mul_mod_self_right, Nat.mod_eq_of_lt h]

end Duration

end RingIdentity
