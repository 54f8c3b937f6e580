import RemoteConfig.Text.Base64
import RemoteConfig.Text.Diagnostic
import RemoteConfig.Text.Lowercase
import RemoteConfig.Text.Split
import RemoteConfig.Text.Utf8
import RemoteConfig.Number.Reading
import RemoteConfig.Number.Shortest
import RemoteConfig.Json.Reader
import RemoteConfig.Json.Writer
import RemoteConfig.Json.ValueReader
import RemoteConfig.Environment.Label
import RemoteConfig.Environment.Flatten
import RemoteConfig.Environment.Origin
import RemoteConfig.Environment.Wire
import RemoteConfig.Url.Percent
import RemoteConfig.Url.Punycode
import RemoteConfig.Url.Parse
import RemoteConfig.LogLine
import RemoteConfig.Http.Header
import RemoteConfig.Client.Settings
import RemoteConfig.Client.FetchError
import RemoteConfig.Client.Credentials
import RemoteConfig.Client.Request
import RemoteConfig.Client.Fetch
import RemoteConfig.Error
import RemoteConfig.Client.Resource
import RemoteConfig.Client.Unresolved
import RemoteConfig.Pattern.Parse
import RemoteConfig.Tree.Path
import RemoteConfig.Tree.Reader
import RemoteConfig.Client.Layer
import RemoteConfig.Client.ConfigData
import RemoteConfig.Http.ConfigTransport
import RemoteConfig.Text.Ascii
import RemoteConfig.Client.State
import RemoteConfig.Yaml.Node
import RemoteConfig.Toml.Document
import RemoteConfig.File.Path
import RemoteConfig.File.System
import RemoteConfig.Tree.Document
import RemoteConfig.Tree.Source
import RemoteConfig.Client.Loading
import RemoteConfig.Repository.Overrides
import RemoteConfig.Repository.Composite
import RemoteConfig.Repository.Native
import RemoteConfig.Vault.Diagnostics
import RemoteConfig.Vault.Loading
import RemoteConfig.Vault.Keys
import RemoteConfig.Crypto.Hmac
import RemoteConfig.Crypto.Certificate
import RemoteConfig.Crypto.Rsa
import RemoteConfig.Time.Calendar
import RemoteConfig.Vault.Gathering
import RemoteConfig.Login.Acquisition
import RemoteConfig.Vault.Repository
import RemoteConfig.Vault.HttpClient
import RemoteConfig.Vault.Wire
import RemoteConfig.Inspection
import RemoteConfig.Client.Wire
import RemoteConfig.Main
import RemoteConfig.Proofs.Client.FailurePolicy
import RemoteConfig.Proofs.Client.Merging
import RemoteConfig.Proofs.Vault.Mount
import RemoteConfig.Proofs.Repository.Confinement
import RemoteConfig.Proofs.Client.Isolation
import RemoteConfig.Proofs.Client.Secrecy
import RemoteConfig.Proofs.Settings.Loading
import RemoteConfig.Proofs.Repository.Overriding
import RemoteConfig.Proofs.Repository.Composition
import RemoteConfig.Proofs.Environment.Leaves
import RemoteConfig.Proofs.Tree.Rebuilding
import RemoteConfig.Proofs.Client.RoundTrip
import RemoteConfig.Proofs.Pattern.Reach
import RemoteConfig.Proofs.Pattern.Spelling
import RemoteConfig.Proofs.Client.Classification
import RemoteConfig.Proofs.File.NameLength
import RemoteConfig.Proofs.Client.Lookup
import RemoteConfig.Proofs.Repository.Precedence
import RemoteConfig.Proofs.Vault.TokenLifetime
import RemoteConfig.Proofs.Client.StateToken
import RemoteConfig.Proofs.Client.RecordedState
import RemoteConfig.Proofs.Client.DiscoveryFallback
import RemoteConfig.Proofs.Client.Strategy
import RemoteConfig.Proofs.Environment.LabelCoding
import RemoteConfig.Proofs.Vault.Reading
import RemoteConfig.Proofs.Repository.LabelForms
import RemoteConfig.Proofs.Vault.Precedence
import RemoteConfig.Proofs.Settings.ClientLayers
import RemoteConfig.Proofs.Client.ServerOrder
import RemoteConfig.Proofs.Vault.GatheringEnds
import RemoteConfig.Proofs.Vault.LoginEffects
import RemoteConfig.Proofs.Client.RequestedProfiles
import RemoteConfig.Proofs.Client.HeaderHygiene
import RemoteConfig.Proofs.Client.EnvironmentLocator
import RemoteConfig.Proofs.Client.EmbeddedCredentials
import RemoteConfig.Proofs.Vault.ReadingOrder
import RemoteConfig.Proofs.Repository.LabelDirectories
import RemoteConfig.Proofs.Repository.ReportedLabel
import RemoteConfig.Proofs.Login.CanonicalRequest
import RemoteConfig.Proofs.Environment.WireForm
import RemoteConfig.Proofs.Environment.Flattening
import RemoteConfig.Proofs.Vault.Redaction
import RemoteConfig.Proofs.Json.RoundTrip
import RemoteConfig.Proofs.Url.Target
import RemoteConfig.Proofs.Login.DescribedRequest
import RemoteConfig.Proofs.Client.JoinedProfiles
