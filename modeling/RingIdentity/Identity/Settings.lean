import RingIdentity.Listing
import RingIdentity.Retry.Policy
import RingIdentity.Json.Value
/-!
Identity settings: the registry namespace of the cluster (`app`), static seeds, whether the
node joins a running cluster (`auto_bootstrap`), whether the cluster spans several regions
(`multi_dc`), whether a node may mint a new token, and the retry policy of minting.

The records of dead nodes live in the namespace `app-dead`. As a section, the settings are a map
with the fields `app` (aliases `app_name`, `cluster_name`), `seeds` (`seed_provider`,
`static_seeds`), `auto_bootstrap` (`autobootstrap`), `multi_dc` (`is_multi_dc`, `multi_region`),
`create_new_token` (`create_new_token_enable`, `allow_new_token`) and `new_token_retry`
(`mint_retry`). A blank app is the default `cass_cluster`.
-/
namespace RingIdentity

/-- How a node finds its identity. -/
structure IdentitySettings where
  app : String := "cass_cluster"
  seeds : Listing := Listing.empty
  autoBootstrap : Bool := true
  multiDc : Bool := false
  createNewToken : Bool := true
  newTokenRetry : RetryPolicy := RetryPolicy.default
  deriving DecidableEq, Repr, Inhabited

namespace IdentitySettings

/-- The default settings. -/
def default : IdentitySettings := {}

/-- Settings for a namespace, the rest by default. -/
def make (app : String) : IdentitySettings := { app }

/-- The namespace of the records of dead nodes. -/
def deadApp (s : IdentitySettings) : String := s.app ++ "-dead"

/-- The settings with static seeds. -/
def withSeeds (s : IdentitySettings) (seeds : List String) : IdentitySettings :=
  { s with seeds := Listing.ofEntries seeds }

/-- The settings with `auto_bootstrap` set. -/
def withAutoBootstrap (s : IdentitySettings) (b : Bool) : IdentitySettings :=
  { s with autoBootstrap := b }

/-- The settings with `multi_dc` set. -/
def withMultiDc (s : IdentitySettings) (b : Bool) : IdentitySettings := { s with multiDc := b }

/-- The settings with `create_new_token` set. -/
def withCreateNewToken (s : IdentitySettings) (b : Bool) : IdentitySettings :=
  { s with createNewToken := b }

/-- The settings with a retry policy for minting. -/
def withNewTokenRetry (s : IdentitySettings) (p : RetryPolicy) : IdentitySettings :=
  { s with newTokenRetry := p }

/-- The JSON form of the settings. -/
def toJson (s : IdentitySettings) : Json :=
  .obj [("app", .str s.app), ("dead_app", .str s.deadApp), ("seeds", Json.strs s.seeds.items),
    ("auto_bootstrap", .bool s.autoBootstrap), ("multi_dc", .bool s.multiDc),
    ("create_new_token", .bool s.createNewToken), ("new_token_retry", s.newTokenRetry.toJson)]

/-- The fields of the identity section. -/
inductive Field where
  | app | seeds | autoBootstrap | multiDc | createNewToken | newTokenRetry
  deriving DecidableEq, Repr

instance : BEq Field := ⟨fun a b => decide (a = b)⟩

/-- The layout of the identity section. -/
def layout : Layout Field where
  fields := [.app, .seeds, .autoBootstrap, .multiDc, .createNewToken, .newTokenRetry]
  names
    | .app => ["app", "app_name", "cluster_name"]
    | .seeds => ["seeds", "seed_provider", "static_seeds"]
    | .autoBootstrap => ["auto_bootstrap", "autobootstrap"]
    | .multiDc => ["multi_dc", "is_multi_dc", "multi_region"]
    | .createNewToken => ["create_new_token", "create_new_token_enable", "allow_new_token"]
    | .newTokenRetry => ["new_token_retry", "mint_retry"]

/-- A value of an identity field. -/
inductive Value where
  | text (s : String)
  | listing (l : Listing)
  | flag (b : Bool)
  | retry (p : RetryPolicy)

/-- Reads the value of one field. -/
def readField (d : Dialect) : Field → String → Node → Except DecodeError Value
  | .app, key, n => Value.text <$> d.under (.key key) (n.readString d)
  | .seeds, key, n => Value.listing <$> d.under (.key key) (Listing.read d n)
  | .newTokenRetry, key, n => Value.retry <$> d.under (.key key) (RetryPolicy.read d n)
  | _, key, n => Value.flag <$> d.under (.key key) (n.readBool d)

/-- What the identity section is read from. -/
def expecting : String := "a map of instance identity configuration"

/-- The flag given for a field, or its default. -/
def flagOf (met : List (Field × Value)) (f : Field) (dflt : Bool) : Bool :=
  match met.find? (·.1 == f) with
  | some (_, .flag b) => b
  | _ => dflt

/-- Reads the identity section. -/
def read (d : Dialect) (n : Node) : Except DecodeError IdentitySettings := do
  let met ← layout.collect (readField d) (← n.readMap expecting)
  let app := match met.find? (·.1 == .app) with
    | some (_, .text s) => if Text.isBlankText s then "cass_cluster" else s
    | _ => "cass_cluster"
  let seeds := match met.find? (·.1 == .seeds) with
    | some (_, .listing l) => l
    | _ => Listing.empty
  let newTokenRetry := match met.find? (·.1 == .newTokenRetry) with
    | some (_, .retry p) => p
    | _ => RetryPolicy.default
  .ok { app, seeds, newTokenRetry,
        autoBootstrap := flagOf met .autoBootstrap true,
        multiDc := flagOf met .multiDc false,
        createNewToken := flagOf met .createNewToken true }

end IdentitySettings

end RingIdentity
