import RingIdentity.Json.Value
import RingIdentity.Decode.Read
import RingIdentity.Text.Blank
import RingIdentity.Text.Case
/-!
Ring instances: the durable identity of one cluster member. A record names the slot it holds
(`id` within rack `rac` of application `app`), the cloud instance that holds it, where that
instance runs, and the ring token it owns. A record whose instance id is `new_slot` (in any ASCII
case) reserves a slot without a live instance behind it: a placeholder.

A record is written as a map of its fields or as the sequence
`[id, app, instance_id, rac, dc, host_name, host_ip, token]`; `id`, `app` and `instance_id` are
required, the others default to empty and `token` to none.
-/
namespace RingIdentity

/-- One member's slot, host and token. -/
structure RingInstance where
  id : Nat
  app : String
  instanceId : String
  rac : String := ""
  dc : String := ""
  hostName : String := ""
  hostIp : String := ""
  token : Option String := none
  deriving DecidableEq, Repr, Inhabited

namespace RingInstance

/-- The instance id that marks a placeholder record. -/
def placeholderId : String := "new_slot"

/-- A record for a slot, with empty location and no token. -/
def make (app : String) (id : Nat) (instanceId : String) : RingInstance :=
  { id, app, instanceId }

/-- A placeholder reserving slot `id` of rack `rac`. -/
def placeholder (app : String) (id : Nat) (rac : String) : RingInstance :=
  { make app id placeholderId with rac }

/-- Whether a record is a placeholder: its instance id is `new_slot` up to ASCII case. -/
def isPlaceholder (r : RingInstance) : Bool := Text.sameAsciiCase r.instanceId placeholderId

/-- The record in another rack. -/
def withRac (r : RingInstance) (rac : String) : RingInstance := { r with rac }

/-- The record in another datacenter. -/
def withDc (r : RingInstance) (dc : String) : RingInstance := { r with dc }

/-- The record on another host. -/
def withHost (r : RingInstance) (hostName hostIp : String) : RingInstance :=
  { r with hostName, hostIp }

/-- The record in another namespace. -/
def withApp (r : RingInstance) (app : String) : RingInstance := { r with app }

/-- The record with another token; a blank token is none. -/
def withToken (r : RingInstance) (token : String) : RingInstance :=
  { r with token := if Text.isBlankText token then none else some token }

/-- `app#id (instance) in dc/rac at host`. -/
def display (r : RingInstance) : String :=
  r.app ++ "#" ++ toString r.id ++ " (" ++ r.instanceId ++ ") in " ++ r.dc ++ "/" ++ r.rac ++
    " at " ++ r.hostName

/-- The JSON form of a record. -/
def toJson (r : RingInstance) : Json :=
  .obj [("id", .int r.id), ("app", .str r.app), ("instance_id", .str r.instanceId),
    ("rac", .str r.rac), ("dc", .str r.dc), ("host_name", .str r.hostName),
    ("host_ip", .str r.hostIp), ("token", Json.optStr r.token)]

/-- What a record is read from. -/
def expecting : String := "struct RingInstance"

/-- The fields of a record, by their exact names. -/
inductive Field where
  | id | app | instanceId | rac | dc | hostName | hostIp | token
  deriving DecidableEq, Repr

/-- The field a key names exactly. -/
def Field.ofKey (key : String) : Option Field :=
  if key = "id" then some .id else if key = "app" then some .app
  else if key = "instance_id" then some .instanceId else if key = "rac" then some .rac
  else if key = "dc" then some .dc else if key = "host_name" then some .hostName
  else if key = "host_ip" then some .hostIp else if key = "token" then some .token
  else none

/-- The name of a field. -/
def Field.name : Field → String
  | .id => "id" | .app => "app" | .instanceId => "instance_id" | .rac => "rac" | .dc => "dc"
  | .hostName => "host_name" | .hostIp => "host_ip" | .token => "token"

/-- The fields read so far from a map. -/
structure Draft where
  id : Option Nat := none
  app : Option String := none
  instanceId : Option String := none
  rac : Option String := none
  dc : Option String := none
  hostName : Option String := none
  hostIp : Option String := none
  token : Option (Option String) := none

/-- Whether a draft already holds a field. -/
def Draft.has (r : Draft) : Field → Bool
  | .id => r.id.isSome | .app => r.app.isSome | .instanceId => r.instanceId.isSome
  | .rac => r.rac.isSome | .dc => r.dc.isSome | .hostName => r.hostName.isSome
  | .hostIp => r.hostIp.isSome | .token => r.token.isSome

/-- Reads one field's value into a draft. -/
def Draft.put (r : Draft) (f : Field) (n : Node) : Except DecodeError Draft :=
  match f with
  | .id => do let v ← n.readU32 .json; .ok { r with id := some v }
  | .app => do let v ← n.readString .json; .ok { r with app := some v }
  | .instanceId => do let v ← n.readString .json; .ok { r with instanceId := some v }
  | .rac => do let v ← n.readString .json; .ok { r with rac := some v }
  | .dc => do let v ← n.readString .json; .ok { r with dc := some v }
  | .hostName => do let v ← n.readString .json; .ok { r with hostName := some v }
  | .hostIp => do let v ← n.readString .json; .ok { r with hostIp := some v }
  | .token => do let v ← n.readOptString .json; .ok { r with token := some v }

/-- Reads map entries in order into a draft; a field named twice is refused. -/
def readEntries : Draft → List (String × Node) → Except DecodeError Draft
  | r, [] => .ok r
  | r, (key, n) :: rest =>
    match Field.ofKey key with
    | none => readEntries r rest
    | some f =>
      if r.has f then .error (.duplicateField f.name)
      else do
        let r ← r.put f n
        readEntries r rest

/-- The record of a complete draft. -/
def Draft.finish (r : Draft) : Except DecodeError RingInstance := do
  let id ← match r.id with | some v => .ok v | none => .error (.missingField "id")
  let app ← match r.app with | some v => .ok v | none => .error (.missingField "app")
  let instanceId ← match r.instanceId with
    | some v => .ok v
    | none => .error (.missingField "instance_id")
  .ok { id, app, instanceId, rac := r.rac.getD "", dc := r.dc.getD "",
        hostName := r.hostName.getD "", hostIp := r.hostIp.getD "", token := r.token.getD none }

/-- The text read from an item of the sequence form, or the default when the items ran out. -/
def seqText (items : List Node) (i : Nat) : Except DecodeError String :=
  match items[i]? with
  | some n => n.readString .json
  | none => .ok ""

/-- Reads a record from a JSON document, as a map or as a sequence. -/
def read (n : Node) : Except DecodeError RingInstance :=
  match n with
  | .map _ entries keyFault => do
    let r ← readEntries {} entries
    (Members.mk entries keyFault).finish
    r.finish
  | .seq _ items => do
    let lengthError := DecodeError.shortSequence
    let id ← match items[0]? with
      | some v => v.readU32 .json
      | none => .error (lengthError 0 "struct RingInstance with 8 elements")
    let app ← match items[1]? with
      | some v => v.readString .json
      | none => .error (lengthError 1 "struct RingInstance with 8 elements")
    let instanceId ← match items[2]? with
      | some v => v.readString .json
      | none => .error (lengthError 2 "struct RingInstance with 8 elements")
    let rac ← seqText items 3
    let dc ← seqText items 4
    let hostName ← seqText items 5
    let hostIp ← seqText items 6
    let token ← match items[7]? with
      | some v => v.readOptString .json
      | none => .ok none
    if items.length > 8 then .error .trailingItems
    else .ok { id, app, instanceId, rac, dc, hostName, hostIp, token }
  | n => .error (.mismatch n.found expecting)

end RingInstance

end RingIdentity
