import RingIdentity.Registry.Error
import RingIdentity.Membership.Error
import RingIdentity.Identity.Claim
/-!
Failures of token strategies and of resolving a node's identity.

A strategy fails on a registry fault (such as a lost claim), on a membership fault, or for a
reason of its own. Resolving the identity fails when a registry namespace cannot be read, a
membership query fails, a strategy fails, minting is needed but forbidden, every mint attempt
failed, or no strategy had anything to offer. Only a transient membership fault leaves room for
trying again; every other failure is fatal.
-/
namespace RingIdentity

/-- Why a token strategy failed. -/
inductive RetrieverError where
  | registry (e : RegistryError)
  | membership (e : MembershipError)
  | other (text : String)
  deriving DecidableEq, Repr, Inhabited

namespace RetrieverError

/-- The message of a failure: the cause's own. -/
def message : RetrieverError → String
  | .registry e => e.message
  | .membership e => e.message
  | .other t => t

/-- The record form of a failure, such as `Other("boom")`. -/
def record : RetrieverError → String
  | .registry e => "Registry(" ++ e.record ++ ")"
  | .membership e => "Membership(" ++ e.record ++ ")"
  | .other t => "Other(" ++ Text.quoted t ++ ")"

/-- The kind of a failure. -/
def kind : RetrieverError → String
  | .registry _ => "RetrieverError.Registry"
  | .membership _ => "RetrieverError.Membership"
  | .other _ => "RetrieverError.Other"

/-- The error object of a failure. -/
def toJson (e : RetrieverError) : Json := .obj [("error", .str e.kind), ("message", .str e.message)]

end RetrieverError

/-- Why resolving a node's identity failed. -/
inductive IdentityError where
  /-- Reading a registry namespace failed. -/
  | registry (space : String) (source : RegistryError)
  /-- A membership query failed. -/
  | membership (e : MembershipError)
  /-- A token strategy failed. -/
  | retriever (acquisition : Acquisition) (source : RetrieverError)
  /-- Minting was needed but is disabled. -/
  | newTokenForbidden
  /-- Every mint attempt failed. -/
  | mintExhausted (attempts : Nat) (source : RetrieverError)
  /-- No strategy produced an identity. -/
  | exhausted
  deriving DecidableEq, Repr, Inhabited

namespace IdentityError

/-- The message of a failure. -/
def message : IdentityError → String
  | .registry ns src => "failed to read registry namespace '" ++ ns ++ "': " ++ src.message
  | .membership e => e.message
  | .retriever a src => a.name ++ " strategy failed: " ++ src.message
  | .newTokenForbidden =>
    "node attempted to create a new token while it is expected to adopt an existing one"
  | .mintExhausted n src =>
    "gave up minting a new token after " ++ toString n ++ " attempt(s): " ++ src.message
  | .exhausted => "no token strategy produced an identity"

/-- Whether the node must not go on: every failure but a transient membership fault. -/
def isFatal : IdentityError → Bool
  | .membership e => !e.isTransient
  | _ => true

/-- The kind of a failure. -/
def kind : IdentityError → String
  | .registry .. => "IdentityError.Registry"
  | .membership _ => "IdentityError.Membership"
  | .retriever .. => "IdentityError.Retriever"
  | .newTokenForbidden => "IdentityError.NewTokenForbidden"
  | .mintExhausted .. => "IdentityError.MintExhausted"
  | .exhausted => "IdentityError.Exhausted"

/-- The error object of a failure. -/
def toJson (e : IdentityError) : Json :=
  .obj [("error", .str e.kind), ("message", .str e.message), ("fatal", .bool e.isFatal)]

end IdentityError

end RingIdentity
