import RingIdentity.Decode.Section
import RingIdentity.Ring.Info
import RingIdentity.Json.Value
import RingIdentity.Text.Quoted
/-!
Cloud credentials and the two accounts of a cluster.

Credentials are an access key id, a secret key and, for temporary credentials, a session token.
Their record form shows the key id and hides the secret parts behind `***`. They are drawn from a
provider each time a query of the account needs them, so a provider whose credentials rotate may
give others at the next query; a fixed provider always gives the same.

A cluster runs under its own account and, in a dual-account deployment, a second ("cross")
account whose instances live in the other kind of network: when the local instance is in the
flat network the cross account's are in an isolated one, and the other way round.

As a section, credentials are a map with the fields `access_key_id` (aliases `access_key`,
`key_id`), `secret_access_key` (`secret_key`, `secret`) and `session_token` (`token`); the first
two are required and an empty session token is none.
-/
namespace RingIdentity

/-- The credentials of a cloud account. -/
structure Credentials where
  accessKeyId : String
  secretAccessKey : String
  sessionToken : Option String := none
  deriving DecidableEq, Repr, Inhabited

namespace Credentials

/-- The record form, with the secret parts hidden. -/
def record (c : Credentials) : String :=
  "Credentials \x7b access_key_id: " ++ Text.quoted c.accessKeyId ++
    ", secret_access_key: \"***\", session_token: " ++
    (match c.sessionToken with | some _ => "Some(\"***\")" | none => "None") ++ " \x7d"

/-- The record form of credentials as configured, with the key id only. -/
def settingsRecord (c : Credentials) : String :=
  "CredentialsConfig \x7b access_key_id: " ++ Text.quoted c.accessKeyId ++ ", .. \x7d"

/-- The JSON form, with both record forms. -/
def toJson (c : Credentials) : Json :=
  .obj [("access_key_id", .str c.accessKeyId), ("secret_access_key", .str c.secretAccessKey),
    ("session_token", Json.optStr c.sessionToken), ("debug", .str c.record),
    ("config_debug", .str c.settingsRecord)]

/-- The fields of the credentials section. -/
inductive Field where
  | accessKeyId | secretAccessKey | sessionToken
  deriving DecidableEq, Repr

instance : BEq Field := ⟨fun a b => decide (a = b)⟩

/-- The layout of the credentials section. -/
def layout : Layout Field where
  fields := [.accessKeyId, .secretAccessKey, .sessionToken]
  names
    | .accessKeyId => ["access_key_id", "access_key", "key_id"]
    | .secretAccessKey => ["secret_access_key", "secret_key", "secret"]
    | .sessionToken => ["session_token", "token"]

/-- What the credentials section is read from. -/
def expecting : String := "a map of cloud credentials"

/-- Reads the credentials section. -/
def read (d : Dialect) (n : Node) : Except DecodeError Credentials := do
  let met ← layout.collect (fun _ key v => d.under (.key key) (v.readString d))
    (← n.readMap expecting)
  let textOf (f : Field) : Option String := (met.find? (·.1 == f)).map (·.2)
  let accessKeyId ← match textOf .accessKeyId with
    | some s => .ok s
    | none => .error (.missingField "access_key_id")
  let secretAccessKey ← match textOf .secretAccessKey with
    | some s => .ok s
    | none => .error (.missingField "secret_access_key")
  let sessionToken := (textOf .sessionToken).filter (· ≠ "")
  .ok { accessKeyId, secretAccessKey, sessionToken }

end Credentials

/-- Where the credentials of an account come from: each query of the account asks anew. -/
structure CredentialProvider (m : Type → Type) where
  credentials : m Credentials

namespace CredentialProvider

/-- A provider that always gives the same credentials. -/
def fixed {m : Type → Type} [Pure m] (c : Credentials) : CredentialProvider m := ⟨pure c⟩

end CredentialProvider

/-- The account a query runs against. -/
inductive Account where
  /-- The account the local instance runs in. -/
  | own
  /-- The other account of a dual-account deployment. -/
  | cross
  deriving DecidableEq, Repr, Inhabited

namespace Account

/-- The name of an account. -/
def name : Account → String
  | .own => "own"
  | .cross => "cross"

/-- The network an account's instances live in, given the local instance's network. -/
def networkLabel : Account → NetworkMode → String
  | .own, .classic => "classic"
  | .cross, .vpc => "classic"
  | .own, .vpc => "vpc"
  | .cross, .classic => "vpc"

end Account

end RingIdentity
