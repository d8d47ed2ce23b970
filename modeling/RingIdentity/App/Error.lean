import RingIdentity.Decode.Error
import RingIdentity.Identity.Error
/-!
Failures of loading the configuration and of launching the sidecar.

Loading fails while assembling the sources (a file that does not parse, for instance) or while
reading the assembled tree into the settings; either way the error may point at a key. Launching
fails when the configuration does not load, when no facts about the local instance or no
credentials for the own account were given, or when the identity cannot be resolved.
-/
namespace RingIdentity

/-- Why the configuration did not load. -/
inductive AppConfigError where
  /-- A source could not be read or merged. -/
  | build (e : SettingError)
  /-- The merged tree does not fit the settings. -/
  | parse (e : SettingError)
  deriving DecidableEq, Repr, Inhabited

namespace AppConfigError

/-- The message of a failure. -/
def message : AppConfigError → String
  | .build e => "failed to assemble the application configuration: " ++ e.message
  | .parse e => "failed to parse the application configuration: " ++ e.message

/-- The key a failure points at, if known. -/
def key? : AppConfigError → Option String
  | .build e => e.key?
  | .parse e => e.key?

/-- Whether a failure stops the program rather than being reported. -/
def halts : AppConfigError → Bool
  | .build e => e.halts
  | .parse e => e.halts

/-- The kind of a failure. -/
def kind : AppConfigError → String
  | .build _ => "AppConfigError.Build"
  | .parse _ => "AppConfigError.Parse"

/-- The error object of a failure. -/
def toJson (e : AppConfigError) : Json :=
  .obj [("error", .str e.kind), ("message", .str e.message), ("key", Json.optStr e.key?)]

end AppConfigError

/-- Why launching the sidecar failed. -/
inductive LaunchError where
  | config (e : AppConfigError)
  | missingInstanceInfo
  | missingCredentials (a : Account)
  | identity (e : IdentityError)
  deriving DecidableEq, Repr, Inhabited

namespace LaunchError

/-- The message of a failure. -/
def message : LaunchError → String
  | .config e => "failed to resolve the configuration: " ++ e.message
  | .missingInstanceInfo => "no instance facts were supplied or configured"
  | .missingCredentials a => "no credentials were supplied or configured for the " ++ a.name ++ " account"
  | .identity e => "failed to resolve the instance identity: " ++ e.message

/-- Whether a failure stops the program rather than being reported. -/
def halts : LaunchError → Bool
  | .config e => e.halts
  | _ => false

/-- The kind of a failure. -/
def kind : LaunchError → String
  | .config _ => "LaunchError.Config"
  | .missingInstanceInfo => "LaunchError.MissingInstanceInfo"
  | .missingCredentials _ => "LaunchError.MissingCredentials"
  | .identity _ => "LaunchError.Identity"

/-- The error object of a failure; an identity failure says whether it is fatal. -/
def toJson (e : LaunchError) : Json :=
  match e with
  | .identity i => .obj [("error", .str e.kind), ("message", .str e.message), ("fatal", .bool i.isFatal)]
  | _ => .obj [("error", .str e.kind), ("message", .str e.message)]

end LaunchError

end RingIdentity
