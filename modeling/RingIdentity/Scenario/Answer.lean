import RingIdentity.Scenario.Sections
import RingIdentity.Scenario.Runs
import RingIdentity.Scenario.Values
import RingIdentity.Scenario.Config
import RingIdentity.Scenario.Boot
import RingIdentity.Json.Reader
/-!
Answering a request: the operation it names picks the scenario, and the reply is its value or
its error object.
-/
namespace RingIdentity

namespace Scenario

/-- The scenario an operation names. -/
def dispatch (op : String) (req : Json) : Reply Json :=
  if op = "parse" then parse req
  else if op = "name_lookup" then nameLookup req
  else if op = "slug" then slug req
  else if op = "listing_csv" then listingCsv req
  else if op = "listing_api" then listingApi req
  else if op = "ring_instance" then ringInstance req
  else if op = "ring_instance_fields" then ringInstanceFields req
  else if op = "info_build" then infoBuild req
  else if op = "identity_config_build" then identityBuild req
  else if op = "membership_config_build" then membershipBuild req
  else if op = "tracing_config_build" then logBuild req
  else if op = "registry" then registry req
  else if op = "membership" then membership req
  else if op = "bootstrap" then bootstrap req
  else if op = "concurrent_bootstrap" then concurrentBootstrap req
  else if op = "launch" then launch req
  else if op = "rack_map" then rackMap req
  else if op = "seed_select" then seedSelect req
  else if op = "merge_snapshots" then mergeSnapshotsOf req
  else if op = "cloud_misc" then cloudMisc req
  else if op = "error_display" then errorDisplay req
  else if op = "retry" then retry req
  else if op = "retry_typed" then retryTyped req
  else if op = "token_claim" then tokenClaim req
  else if op = "profile" then profile req
  else if op = "config_file" then configFile req
  else if op = "config_sort" then configSort req
  else if op = "scanner" then scanner req
  else if op = "app_config_overrides" then appConfigOverrides req
  else if op = "assemble" then assemble req
  else if op = "boot" then boot req
  else .error (malformed ("unknown op `" ++ op ++ "`"))

/-- The reply to a request. -/
def answer (req : Json) : Json :=
  Reply.merge do
    let op ← needText req "op"
    dispatch op req

/-- The reply to a request line; a line that is not JSON is a malformed request, named by the
first fault of its text. -/
def answerLine (line : String) : Json :=
  match Json.parse? line with
  | .ok req => answer req
  | .error e => malformed ("expected a JSON object: " ++ e.message)

end Scenario

end RingIdentity
