import RequestFirewall.Settings
import RequestFirewall.Config
/- The configuration from layered settings: an optional settings file, then the environment.

   An environment variable counts when its name, without regard to case, starts with the
   prefix `RAMPART__`; the rest of the name, lowercased, with `__` for each dot, is the dotted
   key it sets. Its text is read as a flag (`true` or `false` in any case), else as a 64-bit
   integer, else as a float, else kept as text. Variables are laid over the file in the order
   of their names, so of two that name one key the later wins.

   Every field of the configuration may be missing and then takes its default; a section may be
   a table or a list of its fields in order. -/
namespace RequestFirewall.Settings

def environmentOrigin : String := "the environment"

def variablePrefix : String := "rampart__"

def variableValue (text : String) : Setting :=
  let o := some environmentOrigin
  let lower := Text.asciiLower text
  if lower == "true" then .bool true o
  else if lower == "false" then .bool false o
  else match signedWord? text with
    | some n => .int n o
    | none =>
      match standardFloat? text with
      | some f => .float f o
      | none => .text text o

def variableKey? (name : String) : Option String :=
  let lower := Text.toLower name
  if lower.startsWith variablePrefix then
    some (String.intercalate "." ((String.ofList (lower.toList.drop variablePrefix.length)).splitOn "__"))
  else none

def insertByName (v : String × String) : List (String × String) → List (String × String)
  | [] => [v]
  | w :: rest => if v.1 < w.1 then v :: w :: rest else w :: insertByName v rest

def overlayEnvironment (base : Setting) (env : List (String × String)) : Setting :=
  (env.foldr insertByName []).foldl (fun acc (name, text) =>
    match variableKey? name with
    | some key => acc.setAt (keyPath key) (variableValue text)
    | none => acc) base

def overlayFile (base : Setting) (file : Setting) : Setting :=
  (file.asTable.1).foldl (fun acc (key, v) => acc.setAt (keyPath key) v) base

def firewallOptions (s : Setting) : Except SettingError FirewallOptions :=
  s.asRecord "struct FirewallOptions" ["key_prefix", "rate_limit_headers"] {}
    fun field v acc =>
      if field == "key_prefix" then do pure { acc with keyPrefix := ← v.asText }
      else do pure { acc with rateLimitHeaders := ← v.asFlag }

def logging (s : Setting) : Except SettingError LoggingConfig :=
  s.asRecord "struct LoggingConfig" ["level", "json"] {}
    fun field v acc =>
      if field == "level" then do pure { acc with level := ← v.asText }
      else do pure { acc with json := ← v.asFlag }

def store (s : Setting) : Except SettingError StoreConfig :=
  s.asRecord "struct StoreConfig" ["sweep_interval_secs"] {}
    fun _ v acc => do pure { acc with sweepIntervalSecs := ← v.asWord }

def appConfig (s : Setting) : Except SettingError AppConfig :=
  s.asRecord "struct RampartConfig" ["firewall", "rules_path", "logging", "store"] {}
    fun field v acc =>
      if field == "firewall" then do pure { acc with firewall := ← firewallOptions v }
      else if field == "rules_path" then do pure { acc with rulesPath := ← v.asOption Setting.asText }
      else if field == "logging" then do pure { acc with logging := ← logging v }
      else do pure { acc with store := ← store v }

def layered (file : Option Setting) (env : List (String × String)) :
    Except SettingError AppConfig :=
  let withFile := match file with
    | some f => overlayFile Setting.empty f
    | none => Setting.empty
  appConfig (overlayEnvironment withFile env)

end RequestFirewall.Settings
