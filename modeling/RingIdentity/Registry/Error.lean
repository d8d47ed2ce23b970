import RingIdentity.Json.Value
import RingIdentity.Text.Quoted
/-!
Registry failures: the backend could not be reached, a conditional write lost to a record that
already holds the slot or the token, or the record to change does not exist.
-/
namespace RingIdentity

/-- Why a registry call failed. -/
inductive RegistryError where
  /-- The backend could not be reached or answered with a fault. -/
  | unavailable (reason : String)
  /-- A conditional write lost: the slot or the token is already held. -/
  | conflict (app rac : String) (id : Nat)
  /-- The record to change does not exist. -/
  | notFound (app rac : String) (id : Nat)
  deriving DecidableEq, Repr, Inhabited

namespace RegistryError

/-- The message of a failure. -/
def message : RegistryError → String
  | .unavailable r => "instance registry unavailable: " ++ r
  | .conflict app rac id =>
    "slot " ++ toString id ++ " of rack '" ++ rac ++ "' in '" ++ app ++ "' is already claimed"
  | .notFound app rac id =>
    "no record for slot " ++ toString id ++ " of rack '" ++ rac ++ "' in '" ++ app ++ "'"

/-- The record form of a failure, such as `Conflict { app: "a", rac: "r", id: 4 }`. -/
def record : RegistryError → String
  | .unavailable r => "Unavailable(" ++ Text.quoted r ++ ")"
  | .conflict app rac id =>
    "Conflict \x7b app: " ++ Text.quoted app ++ ", rac: " ++ Text.quoted rac ++ ", id: " ++
      toString id ++ " \x7d"
  | .notFound app rac id =>
    "NotFound \x7b app: " ++ Text.quoted app ++ ", rac: " ++ Text.quoted rac ++ ", id: " ++
      toString id ++ " \x7d"

/-- The kind of a failure. -/
def kind : RegistryError → String
  | .unavailable _ => "RegistryError.Unavailable"
  | .conflict .. => "RegistryError.Conflict"
  | .notFound .. => "RegistryError.NotFound"

/-- The error object of a failure. -/
def toJson (e : RegistryError) : Json := .obj [("error", .str e.kind), ("message", .str e.message)]

end RegistryError

end RingIdentity
