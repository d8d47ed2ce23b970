import RingIdentity.Duration.Human
import RingIdentity.Decode.Section
/-!
Retry policies: how many attempts an operation gets and how long to wait between them. A policy
has at least one attempt; by default it has 100 attempts, 100 ms apart.

A policy is configured as a map with the fields `attempts` (aliases `max_attempts`, `retries`,
`count`), an unsigned 32-bit count, and `delay` (aliases `interval`, `wait`, `pause`), a
human-readable duration. The delay may be given more than once, the last one winning; a delay
that does not read is refused with the reader's own message, and one that cannot be represented
stops the program.
-/
namespace RingIdentity

/-- How often to try an operation, and how long to wait between tries. -/
structure RetryPolicy where
  attempts : Nat
  delay : Duration
  deriving DecidableEq, Repr, Inhabited

namespace RetryPolicy

/-- A policy with the given attempts, at least one, and delay. -/
def make (attempts : Nat) (delay : Duration) : RetryPolicy := ⟨max attempts 1, delay⟩

/-- 100 attempts, 100 ms apart. -/
def default : RetryPolicy := make 100 (Duration.ofMillis 100)

/-- The JSON form of a policy. -/
def toJson (p : RetryPolicy) : Json :=
  .obj [("attempts", .int p.attempts), ("delay", p.delay.toJson)]

/-- The fields of a retry policy. -/
inductive Field where
  | attempts
  | delay
  deriving DecidableEq, Repr

instance : BEq Field := ⟨fun a b => decide (a = b)⟩

/-- The layout of a retry policy section. -/
def layout : Layout Field where
  fields := [.attempts, .delay]
  names
    | .attempts => ["attempts", "max_attempts", "retries", "count"]
    | .delay => ["delay", "interval", "wait", "pause"]
  repeatable
    | .delay => true
    | .attempts => false

/-- A value of a retry policy field. -/
inductive Value where
  | attempts (n : Nat)
  | delay (d : Duration)

/-- Reads the value of one field. -/
def readField (d : Dialect) : Field → String → Node → Except DecodeError Value
  | .attempts, key, n => Value.attempts <$> d.under (.key key) (n.readU32 d)
  | .delay, key, n => do
    let text ← d.under (.key key) (n.readString d)
    match Duration.parseHuman text with
    | .ok x => .ok (.delay x)
    | .error .unrepresentable => .error (.halt HumanDurationError.unrepresentable.message)
    | .error e => .error (.refused e.message)

/-- What a retry policy section is read from. -/
def expecting : String := "a map of retry configuration"

/-- Reads a retry policy section. -/
def read (d : Dialect) (n : Node) : Except DecodeError RetryPolicy := do
  let met ← layout.collect (readField d) (← n.readMap expecting)
  let attempts := (lastValue met fun | .attempts k => some k | _ => none).getD 100
  let delay := (lastValue met fun | .delay x => some x | _ => none).getD (Duration.ofMillis 100)
  .ok (make attempts delay)

end RetryPolicy

end RingIdentity
