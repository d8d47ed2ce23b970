import RingIdentity.Scenario.Request
import RingIdentity.Registry.Faults
import RingIdentity.Cloud.Memory
import RingIdentity.Logging.Format
import RingIdentity.Identity.Script
/-!
The world a scenario runs in: an in-memory registry with injected faults, an in-memory cloud,
the sizes of the rack maps handed to each token strategy, and the log.
-/
namespace RingIdentity

namespace Scenario

/-- Everything a scenario's run can change. -/
structure World where
  registry : Registry := Registry.empty
  faults : RegistryFaults := {}
  /-- How many listings the registry answered so far. -/
  listings : Nat := 0
  cloud : MemoryCloud := {}
  /-- The sizes of the rack maps handed to each strategy, latest first. -/
  deadCalls : List Nat := []
  preGeneratedCalls : List Nat := []
  newCalls : List Nat := []
  journal : Journal := {}
  deriving Inhabited

/-- Runs in a world. -/
abbrev Sim := StateM World

namespace World

/-- Writes an event to the world's log. -/
def log : Logger Sim := fun e => modify fun w => { w with journal := w.journal.emit e }

/-- Installs a log writer unless one is installed. -/
def install (s : LogSettings) : Sim Bool := do
  let w ← get
  if w.journal.writer.isSome then return false
  set { w with journal := { w.journal with writer := some s } }
  return true

/-- The in-memory registry alone, without faults. -/
def plainRegistry : RegistryAccess Sim :=
  Registry.access (do return (← get).registry) (fun r => modify fun w => { w with registry := r }) log

/-- The registry with its injected faults. -/
def registryAccess : RegistryAccess Sim :=
  plainRegistry.withFaults (do return (← get).faults)
    (modifyGet fun w => (w.listings, { w with listings := w.listings + 1 }))

/-- The connector of the world's cloud. -/
def connector : CloudConnector Sim :=
  MemoryCloud.connector (do return (← get).cloud) (fun c => modify fun w => { w with cloud := c })

/-- Records the size of a rack map handed to a strategy; answers how many calls came before. -/
def countCall (acq : Acquisition) (size : Nat) : Sim Nat :=
  modifyGet fun w =>
    match acq with
    | .dead => (w.deadCalls.length, { w with deadCalls := size :: w.deadCalls })
    | .preGenerated => (w.preGeneratedCalls.length, { w with preGeneratedCalls := size :: w.preGeneratedCalls })
    | _ => (w.newCalls.length, { w with newCalls := size :: w.newCalls })

/-- A scripted strategy of the world. -/
def strategy (acq : Acquisition) (steps : List ScriptStep) (app : String) (info : InstanceInfo) :
    TokenRetriever Sim :=
  scripted steps registryAccess app info (countCall acq)

/-- The calls the cloud recorded since a mark, in order, with the clients opened since. -/
def cloudSince (w : World) (callsBefore clientsBefore : Nat) : List CloudCall × Nat :=
  ((w.cloud.calls.take (w.cloud.calls.length - callsBefore)).reverse,
    w.cloud.clientsOpened - clientsBefore)

end World

end Scenario

end RingIdentity
