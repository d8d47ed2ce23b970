import RingIdentity.Logging.Settings
import RingIdentity.Membership.Settings
import RingIdentity.Identity.Settings
import RingIdentity.Cloud.Credentials
/-!
Application settings: the root of the settings tree. It names the cluster and holds the log,
membership and identity sections, each by default when absent, and optionally the facts of the
local instance and the credentials of the two accounts, which an embedding program may also
pass in directly.

As a section, the root is a map with the fields `name`, `tracing` (alias `logging`),
`membership`, `identity`, `instance` (`instance_info`), `credentials` (`own_credentials`) and
`cross_credentials` (`cross_account_credentials`). The name defaults to `ringside`.
-/
namespace RingIdentity

/-- The whole configuration of the sidecar. -/
structure AppSettings where
  name : String := "ringside"
  log : LogSettings := LogSettings.default
  membership : MembershipSettings := MembershipSettings.default
  identity : IdentitySettings := IdentitySettings.default
  instanceInfo : Option InstanceInfo := none
  credentials : Option Credentials := none
  crossCredentials : Option Credentials := none
  deriving DecidableEq, Repr, Inhabited

namespace AppSettings

/-- The default settings. -/
def default : AppSettings := {}

/-- The JSON form of the settings. -/
def toJson (s : AppSettings) : Json :=
  .obj [("name", .str s.name), ("tracing", s.log.toJson),
    ("membership", s.membership.toJson), ("identity", s.identity.toJson),
    ("instance", match s.instanceInfo with | some i => i.toJson | none => .null),
    ("credentials", match s.credentials with | some c => c.toJson | none => .null),
    ("cross_credentials", match s.crossCredentials with | some c => c.toJson | none => .null)]

/-- The fields of the root section. -/
inductive Field where
  | name | log | membership | identity | instanceInfo | credentials | crossCredentials
  deriving DecidableEq, Repr

instance : BEq Field := ⟨fun a b => decide (a = b)⟩

/-- The layout of the root section. -/
def layout : Layout Field where
  fields := [.name, .log, .membership, .identity, .instanceInfo, .credentials, .crossCredentials]
  names
    | .name => ["name"]
    | .log => ["tracing", "logging"]
    | .membership => ["membership"]
    | .identity => ["identity"]
    | .instanceInfo => ["instance", "instance_info"]
    | .credentials => ["credentials", "own_credentials"]
    | .crossCredentials => ["cross_credentials", "cross_account_credentials"]

/-- A value of a root field. -/
inductive Value where
  | text (s : String)
  | log (l : LogSettings)
  | membership (m : MembershipSettings)
  | identity (i : IdentitySettings)
  | instanceInfo (i : InstanceInfo)
  | credentials (c : Credentials)

/-- Reads the value of one field. -/
def readField (d : Dialect) : Field → String → Node → Except DecodeError Value
  | .name, key, n => Value.text <$> d.under (.key key) (n.readString d)
  | .log, key, n => Value.log <$> d.under (.key key) (LogSettings.read d n)
  | .membership, key, n => Value.membership <$> d.under (.key key) (MembershipSettings.read d n)
  | .identity, key, n => Value.identity <$> d.under (.key key) (IdentitySettings.read d n)
  | .instanceInfo, key, n => Value.instanceInfo <$> d.under (.key key) (InstanceInfo.read d n)
  | .credentials, key, n => Value.credentials <$> d.under (.key key) (Credentials.read d n)
  | .crossCredentials, key, n => Value.credentials <$> d.under (.key key) (Credentials.read d n)

/-- What the root section is read from. -/
def expecting : String := "a map of application configuration"

/-- The credentials given for a field. -/
def credentialsOf (met : List (Field × Value)) (f : Field) : Option Credentials :=
  match met.find? (·.1 == f) with
  | some (_, .credentials c) => some c
  | _ => none

/-- Reads the root section. -/
def read (d : Dialect) (n : Node) : Except DecodeError AppSettings := do
  let met ← layout.collect (readField d) (← n.readMap expecting)
  let name := match met.find? (·.1 == .name) with
    | some (_, .text s) => s
    | _ => "ringside"
  let log := match met.find? (·.1 == .log) with
    | some (_, .log l) => l
    | _ => LogSettings.default
  let membership := match met.find? (·.1 == .membership) with
    | some (_, .membership m) => m
    | _ => MembershipSettings.default
  let identity := match met.find? (·.1 == .identity) with
    | some (_, .identity i) => i
    | _ => IdentitySettings.default
  let inst := match met.find? (·.1 == .instanceInfo) with
    | some (_, .instanceInfo i) => some i
    | _ => none
  .ok { name, log, membership, identity, instanceInfo := inst,
        credentials := credentialsOf met .credentials,
        crossCredentials := credentialsOf met .crossCredentials }

end AppSettings

end RingIdentity
