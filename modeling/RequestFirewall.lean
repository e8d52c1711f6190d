import RequestFirewall.Cli.Command
import RequestFirewall.Cli.Help
import RequestFirewall.Cli.LogFilter
import RequestFirewall.Cli.Run
import RequestFirewall.Condition
import RequestFirewall.Condition.Json
import RequestFirewall.Config
import RequestFirewall.Decimal.Nearest
import RequestFirewall.Decimal.Shortest
import RequestFirewall.Decision
import RequestFirewall.Decode.Fault
import RequestFirewall.Decode.Json
import RequestFirewall.Diagnostics
import RequestFirewall.Digest.Sha1
import RequestFirewall.Error
import RequestFirewall.Events
import RequestFirewall.Firewall
import RequestFirewall.Json.Fields
import RequestFirewall.Json.Reader
import RequestFirewall.Json.Value
import RequestFirewall.Key
import RequestFirewall.KeySource
import RequestFirewall.Main
import RequestFirewall.Net.Address
import RequestFirewall.Proofs.Accounting
import RequestFirewall.Proofs.Banning
import RequestFirewall.Proofs.CarriedCount
import RequestFirewall.Proofs.Contention
import RequestFirewall.Proofs.CounterRecords
import RequestFirewall.Proofs.Counting
import RequestFirewall.Proofs.FailOpenAdapter
import RequestFirewall.Proofs.FallbackRace
import RequestFirewall.Proofs.FirewallMirror
import RequestFirewall.Proofs.FixedWindow
import RequestFirewall.Proofs.Frame
import RequestFirewall.Proofs.InterleavedCounts
import RequestFirewall.Proofs.KeyNormalForm
import RequestFirewall.Proofs.KeySourceText
import RequestFirewall.Proofs.ListPrecedence
import RequestFirewall.Proofs.MatchMeaning
import RequestFirewall.Proofs.Outage
import RequestFirewall.Proofs.Pipeline
import RequestFirewall.Proofs.QuotaHeaders
import RequestFirewall.Proofs.RecordCodec
import RequestFirewall.Proofs.Registration
import RequestFirewall.Proofs.Replay
import RequestFirewall.Proofs.RetryAfter
import RequestFirewall.Proofs.RuleHits
import RequestFirewall.Proofs.StoreKeys
import RequestFirewall.Proofs.StoreSlots
import RequestFirewall.Proofs.StoredCount
import RequestFirewall.Proofs.TimedMap
import RequestFirewall.Proofs.Validation
import RequestFirewall.Proofs.WindowArithmetic
import RequestFirewall.Request
import RequestFirewall.Request.Json
import RequestFirewall.Rules
import RequestFirewall.RulesFile
import RequestFirewall.Settings
import RequestFirewall.Settings.Layers
import RequestFirewall.Settings.Yaml
import RequestFirewall.Store.Counter
import RequestFirewall.Store.Memory
import RequestFirewall.Table
import RequestFirewall.Text.Alphanumeric
import RequestFirewall.Text.Blank
import RequestFirewall.Text.Case
import RequestFirewall.Text.Escape
import RequestFirewall.Text.Numeral
import RequestFirewall.Text.Printable
import RequestFirewall.Window
import RequestFirewall.Word
import RequestFirewall.Yaml.Decode
import RequestFirewall.Yaml.Document
import RequestFirewall.Yaml.Event
import RequestFirewall.Yaml.Mark
import RequestFirewall.Yaml.Scalar
import RequestFirewall.Yaml.Token
import RequestFirewall.Yaml12.Event
import RequestFirewall.Yaml12.Node
import RequestFirewall.Yaml12.Token
