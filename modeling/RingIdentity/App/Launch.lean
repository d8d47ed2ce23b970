import RingIdentity.App.Error
import RingIdentity.App.Settings
import RingIdentity.Membership.Cloud
import RingIdentity.Identity.Bootstrap
/-!
Launching the sidecar: from the settings and the collaborators to a running sidecar.

The facts about the local instance and the credential providers of the accounts are those passed
in, else fixed providers of the credentials configured; without instance facts, or without a
provider for the own account, nothing is launched and nothing is called. Membership follows the
configured kind, and the identity is resolved with the configured identity settings; a failure to
resolve it is logged and ends the launch.
-/
namespace RingIdentity

/-- What a launch works with. -/
structure Collaborators (m : Type → Type) where
  connector : CloudConnector m
  registry : RegistryAccess m
  dead : TokenRetriever m
  preGenerated : TokenRetriever m
  new : TokenRetriever m
  instanceInfo : Option InstanceInfo := none
  own : Option (CredentialProvider m) := none
  cross : Option (CredentialProvider m) := none

/-- A launched sidecar: its settings, its membership and its identity. -/
structure Sidecar (m : Type → Type) where
  settings : AppSettings
  membership : CloudMembership m
  identity : Identity

namespace Sidecar

variable {m : Type → Type} [Monad m]

/-- The target of launch events. -/
def target : String := "ringside::launchpad"

/-- Launches the sidecar. -/
def launch (log : Logger m) (c : Collaborators m) (s : AppSettings) :
    m (Except LaunchError (Sidecar m)) := do
  let some info := c.instanceInfo <|> s.instanceInfo | return .error .missingInstanceInfo
  let some own := c.own <|> s.credentials.map CredentialProvider.fixed | return .error (.missingCredentials .own)
  let cross := c.cross <|> s.crossCredentials.map CredentialProvider.fixed
  let mem ← CloudMembership.create log s.membership.kind s.membership info own cross
  let ctx : IdentityContext m :=
    { settings := s.identity, info, registry := c.registry, membership := mem.access c.connector log,
      dead := c.dead, preGenerated := c.preGenerated, new := c.new, log }
  match ← Identity.bootstrap ctx with
  | .error e =>
    log { level := .error, target, message := "Failed to resolve the instance identity",
          fields := [Event.text "app" s.identity.app, Event.shown "rac" info.rac,
            Event.shown "error" e.message] }
    return .error (.identity e)
  | .ok i =>
    log { level := .info, target, message := "Sidecar launched",
          fields := [Event.text "app" s.identity.app, Event.text "rac" i.inst.rac,
            Event.num "id" i.inst.id, Event.shown "strategy" i.acquisition.name] }
    return .ok { settings := s, membership := mem, identity := i }

/-- The seeds of the sidecar's node. -/
def seeds (sc : Sidecar m) (c : Collaborators m) (log : Logger m) : m (Except IdentityError (List String)) :=
  sc.identity.seeds c.registry (sc.membership.access c.connector log) log

end Sidecar

end RingIdentity
