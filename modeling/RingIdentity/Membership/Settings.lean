import RingIdentity.Listing
import RingIdentity.Decode.Section
import RingIdentity.Json.Value
/-!
Membership settings: how the live members of the cluster are found, which racks the cluster
spans, the security group that holds its ingress rules, the autoscaling groups that share the
local rack, and whether the cluster runs under two cloud accounts.

Live members are found through the autoscaling groups of the local rack (the default) or by
listing every instance the account sees. As a section, the settings are a map with the fields
`kind` (alias `strategy`), `racs` (`racks`, `zones`), `acl_group_name` (`security_group`,
`acl_group`), `sibling_asg_names` (`sibling_asgs`, `siblings`) and `dual_account`
(`is_dual_account`).
-/
namespace RingIdentity

/-- How the live members of the cluster are found. -/
inductive MembershipKind where
  /-- Through the autoscaling groups of the local rack. -/
  | autoScaling
  /-- By listing every instance the account sees. -/
  | instances
  deriving DecidableEq, Repr, Inhabited

namespace MembershipKind

/-- The name of a kind. -/
def name : MembershipKind → String
  | .autoScaling => "autoscaling"
  | .instances => "instances"

/-- What a kind is read from. -/
def expecting : String := "`autoscaling` or `instances`"

/-- The kind a name stands for, by slug: `autoscaling`, `asg`, `auto_scaling_group`, or
`instances`, `ec2`, `ec2_instances`. -/
def ofName? (s : String) : Option MembershipKind :=
  if ["autoscaling", "asg", "auto_scaling_group"].any (Slug.same s) then some .autoScaling
  else if ["instances", "ec2", "ec2_instances"].any (Slug.same s) then some .instances
  else none

/-- Reads a kind from its name. -/
def read (d : Dialect) (n : Node) : Except DecodeError MembershipKind := do
  let s ← n.readText d expecting
  match ofName? s with
  | some k => .ok k
  | none => .error (.refused ("unknown membership kind `" ++ s ++ "`"))

end MembershipKind

/-- How cluster membership is configured. -/
structure MembershipSettings where
  kind : MembershipKind := .autoScaling
  racs : Listing := Listing.empty
  aclGroupName : String := ""
  siblingAsgNames : Listing := Listing.empty
  dualAccount : Bool := false
  deriving DecidableEq, Repr, Inhabited

namespace MembershipSettings

/-- The default settings: autoscaling groups, no racks, single account. -/
def default : MembershipSettings := {}

/-- Settings for some racks, the rest by default. -/
def make (racs : List String) : MembershipSettings := { racs := Listing.ofEntries racs }

/-- The settings with another kind. -/
def withKind (s : MembershipSettings) (k : MembershipKind) : MembershipSettings :=
  { s with kind := k }

/-- The settings with a security group name. -/
def withAclGroupName (s : MembershipSettings) (g : String) : MembershipSettings :=
  { s with aclGroupName := g }

/-- The settings with sibling autoscaling groups. -/
def withSiblingAsgNames (s : MembershipSettings) (names : List String) : MembershipSettings :=
  { s with siblingAsgNames := Listing.ofEntries names }

/-- The settings with dual-account mode on or off. -/
def withDualAccount (s : MembershipSettings) (b : Bool) : MembershipSettings :=
  { s with dualAccount := b }

/-- The JSON form of the settings. -/
def toJson (s : MembershipSettings) : Json :=
  .obj [("kind", .str s.kind.name), ("racs", Json.strs s.racs.items),
    ("acl_group_name", .str s.aclGroupName),
    ("sibling_asg_names", Json.strs s.siblingAsgNames.items),
    ("dual_account", .bool s.dualAccount)]

/-- The fields of the membership section. -/
inductive Field where
  | kind | racs | aclGroupName | siblingAsgNames | dualAccount
  deriving DecidableEq, Repr

instance : BEq Field := ⟨fun a b => decide (a = b)⟩

/-- The layout of the membership section. -/
def layout : Layout Field where
  fields := [.kind, .racs, .aclGroupName, .siblingAsgNames, .dualAccount]
  names
    | .kind => ["kind", "strategy"]
    | .racs => ["racs", "racks", "zones"]
    | .aclGroupName => ["acl_group_name", "security_group", "acl_group"]
    | .siblingAsgNames => ["sibling_asg_names", "sibling_asgs", "siblings"]
    | .dualAccount => ["dual_account", "is_dual_account"]

/-- A value of a membership field. -/
inductive Value where
  | kind (k : MembershipKind)
  | listing (l : Listing)
  | text (s : String)
  | flag (b : Bool)

/-- Reads the value of one field. -/
def readField (d : Dialect) : Field → String → Node → Except DecodeError Value
  | .kind, key, n => Value.kind <$> d.under (.key key) (MembershipKind.read d n)
  | .racs, key, n => Value.listing <$> d.under (.key key) (Listing.read d n)
  | .aclGroupName, key, n => Value.text <$> d.under (.key key) (n.readString d)
  | .siblingAsgNames, key, n => Value.listing <$> d.under (.key key) (Listing.read d n)
  | .dualAccount, key, n => Value.flag <$> d.under (.key key) (n.readBool d)

/-- What the membership section is read from. -/
def expecting : String := "a map of membership configuration"

/-- The listing given for a field, or the empty one. -/
def listingOf (met : List (Field × Value)) (f : Field) : Listing :=
  match met.find? (·.1 == f) with
  | some (_, .listing l) => l
  | _ => Listing.empty

/-- Reads the membership section. -/
def read (d : Dialect) (n : Node) : Except DecodeError MembershipSettings := do
  let met ← layout.collect (readField d) (← n.readMap expecting)
  let kind := match met.find? (·.1 == .kind) with
    | some (_, .kind k) => k
    | _ => .autoScaling
  let aclGroupName := match met.find? (·.1 == .aclGroupName) with
    | some (_, .text s) => s
    | _ => ""
  let dualAccount := match met.find? (·.1 == .dualAccount) with
    | some (_, .flag b) => b
    | _ => false
  .ok { kind, aclGroupName, dualAccount, racs := listingOf met .racs,
        siblingAsgNames := listingOf met .siblingAsgNames }

end MembershipSettings

end RingIdentity
