import RingIdentity.Number.Decimal
import RingIdentity.Number.Binary64
import RingIdentity.Number.Spelling
import RingIdentity.Json.Value
import RingIdentity.Json.Number
import RingIdentity.Json.Reader
import RingIdentity.Text.Blank
import RingIdentity.Text.CodeRanges
import RingIdentity.Text.Hidden
import RingIdentity.Text.Alphanumeric
import RingIdentity.Text.Cased
import RingIdentity.Text.Quoted
import RingIdentity.Text.Slug
import RingIdentity.Text.Case
import RingIdentity.Text.Position
import RingIdentity.Decode.Node
import RingIdentity.Decode.Error
import RingIdentity.Decode.Read
import RingIdentity.Decode.Section
import RingIdentity.Duration
import RingIdentity.Duration.Human
import RingIdentity.Listing
import RingIdentity.Retry.Policy
import RingIdentity.Retry.Run
import RingIdentity.Ring.Instance
import RingIdentity.Ring.Info
import RingIdentity.Logging.Level
import RingIdentity.Logging.Flavor
import RingIdentity.Logging.Settings
import RingIdentity.Membership.Settings
import RingIdentity.Cloud.Credentials
import RingIdentity.Identity.Settings
import RingIdentity.App.Settings
import RingIdentity.Scenario.Request
import RingIdentity.Scenario.Sections
import RingIdentity.Scenario.Answer
import RingIdentity.Ring.RackMap
import RingIdentity.Ring.Seeds
import RingIdentity.Registry.Error
import RingIdentity.Registry.Store
import RingIdentity.Registry.Access
import RingIdentity.Cloud.Api
import RingIdentity.Membership.Error
import RingIdentity.Membership.Access
import RingIdentity.Membership.Cloud
import RingIdentity.Identity.Claim
import RingIdentity.Identity.Error
import RingIdentity.Logging.Event
import RingIdentity.Identity.Bootstrap
import RingIdentity.Cloud.Memory
import RingIdentity.Registry.Faults
import RingIdentity.Logging.Format
import RingIdentity.Identity.Script
import RingIdentity.Scenario.World
import RingIdentity.Scenario.Specs
import RingIdentity.App.Error
import RingIdentity.App.Launch
import RingIdentity.Scenario.Steps
import RingIdentity.Scenario.Runs
import RingIdentity.Scenario.Values
import RingIdentity.Sources.ConfigFile
import RingIdentity.Sources.PathName
import RingIdentity.Sources.Profile
import RingIdentity.Sources.Disk
import RingIdentity.Sources.Layer
import RingIdentity.Sources.Toml.Token
import RingIdentity.Sources.Toml.Fault
import RingIdentity.Sources.Toml.Event
import RingIdentity.Sources.Toml.Quoted
import RingIdentity.Sources.Toml.Bare
import RingIdentity.Sources.Toml.Datetime
import RingIdentity.Sources.Toml.Document
import RingIdentity.Sources.Yaml.Token
import RingIdentity.Sources.Yaml.Token.Stream
import RingIdentity.Sources.Yaml.Event
import RingIdentity.Sources.Yaml.Value
import RingIdentity.Sources.Yaml.Document
import RingIdentity.Sources.DotEnv
import RingIdentity.App.Boot
import RingIdentity.Scenario.Boot
import RingIdentity.App.Assemble
import RingIdentity.Scenario.Config
import RingIdentity.Proofs.Registry.Invariant
import RingIdentity.Proofs.Registry.Claims
import RingIdentity.Proofs.Program
import RingIdentity.Proofs.Identity.Steps
import RingIdentity.Proofs.Identity.Race
import RingIdentity.Proofs.Identity.Protocol
import RingIdentity.Proofs.Repeats
import RingIdentity.Proofs.Ring.Grouping
import RingIdentity.Proofs.Ring.Seeds
import RingIdentity.Proofs.Decode.KeyOrder
import RingIdentity.Proofs.Identity.Minted
import RingIdentity.Proofs.Identity.Completeness
import RingIdentity.Proofs.Retry.Attempts
import RingIdentity.Proofs.Text.ByteOrder
import RingIdentity.Proofs.Ring.Views
import RingIdentity.Proofs.Membership.Merge
import RingIdentity.Proofs.Membership.Alive
import RingIdentity.Proofs.Membership.Autoscaling
import RingIdentity.Proofs.Membership.Listing
import RingIdentity.Proofs.Membership.Ingress
import RingIdentity.Proofs.Decode.Spelling
import RingIdentity.Proofs.Text.Csv
import RingIdentity.Proofs.Identity.Lifecycle
import RingIdentity.Proofs.Sources.Discovery
import RingIdentity.Proofs.App.Launch
import RingIdentity.Proofs.Text.SlugOrder
