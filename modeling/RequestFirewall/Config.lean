import RequestFirewall.Firewall
import RequestFirewall.Yaml.Decode
/- The program's configuration: firewall options, where the rules file is, logging, and the
   store's sweep interval. Every section and field may be left out and then takes its default:
   key prefix `rampart`, no rate-limit headers, no rules path, log level `info` in plain text,
   a sweep every 60 seconds. Unknown fields are ignored. -/
namespace RequestFirewall

structure LoggingConfig where
  level : String := "info"
  json : Bool := false
  deriving DecidableEq, Repr

structure StoreConfig where
  sweepIntervalSecs : Nat := 60
  deriving DecidableEq, Repr

structure AppConfig where
  firewall : FirewallOptions := {}
  rulesPath : Option String := none
  logging : LoggingConfig := {}
  store : StoreConfig := {}
  deriving DecidableEq, Repr

def AppConfig.toJson (c : AppConfig) : Json :=
  .obj [("firewall", .obj [("key_prefix", .str c.firewall.keyPrefix),
          ("rate_limit_headers", .bool c.firewall.rateLimitHeaders)]),
        ("rules_path", Json.optStr c.rulesPath),
        ("logging", .obj [("level", .str c.logging.level), ("json", .bool c.logging.json)]),
        ("store", .obj [("sweep_interval_secs", .nat c.store.sweepIntervalSecs)])]

namespace Yaml

def readFirewallOptions (d : Document) (path : Path) (depth : Nat) : Reading FirewallOptions :=
  readRecord d path depth "struct FirewallOptions" ["key_prefix", "rate_limit_headers"] false
    ({} : FirewallOptions)
    (fun field p _ acc =>
      if field == "key_prefix" then do pure { acc with keyPrefix := ← readString d p }
      else do pure { acc with rateLimitHeaders := ← readFlag d p })
    (fun _ acc => .ok acc)

def readLogging (d : Document) (path : Path) (depth : Nat) : Reading LoggingConfig :=
  readRecord d path depth "struct LoggingConfig" ["level", "json"] false ({} : LoggingConfig)
    (fun field p _ acc =>
      if field == "level" then do pure { acc with level := ← readString d p }
      else do pure { acc with json := ← readFlag d p })
    (fun _ acc => .ok acc)

def readStoreConfig (d : Document) (path : Path) (depth : Nat) : Reading StoreConfig :=
  readRecord d path depth "struct StoreConfig" ["sweep_interval_secs"] false ({} : StoreConfig)
    (fun _ p _ acc => do pure { acc with sweepIntervalSecs := ← readUnsigned d p })
    (fun _ acc => .ok acc)

def readAppConfig (d : Document) (path : Path) (depth : Nat) : Reading AppConfig :=
  readRecord d path depth "struct RampartConfig" ["firewall", "rules_path", "logging", "store"]
    false ({} : AppConfig)
    (fun field p dep acc =>
      if field == "firewall" then do pure { acc with firewall := ← readFirewallOptions d p dep }
      else if field == "rules_path" then do
        pure { acc with rulesPath := ← readOption d p (readString d) }
      else if field == "logging" then do pure { acc with logging := ← readLogging d p dep }
      else do pure { acc with store := ← readStoreConfig d p dep })
    (fun _ acc => .ok acc)

end Yaml

def AppConfig.ofYaml (text : String) : Except Yaml.YamlError AppConfig :=
  Yaml.readDocument text fun d => Yaml.readAppConfig d .root Yaml.depthLimit

end RequestFirewall
