import RequestFirewall.Error
import RequestFirewall.Yaml.Decode
/- Rules files: the YAML form of a rule set.

   A rules file is a mapping with optional lists `safelist`, `blocklist`, `throttle`,
   `fail2ban` and `track`; other sections are ignored. Safelist and blocklist entries have a
   `name` and a `match` block; throttles a `name`, `limit`, `period` and `key`; fail2bans a
   `name`, `threshold`, `period`, `ban_seconds`, `filter` block and `key`; tracks a `name`,
   `period`, `key` and optional `filter` block. A match block may only use the condition fields,
   all optional; `header` is a mapping with `name` and `value`, `ip` a list of addresses, `any`
   and `all` lists of blocks and `not` one block. A key is a key source text. The rule set is
   built kind by kind (safelists, blocklists, fail2bans, throttles, tracks) and then validated. -/
namespace RequestFirewall

structure MatchRule where
  name : String
  spec : MatchSpec

structure ThrottleSpec where
  name : String
  limit : Nat
  period : Nat
  key : KeySource

structure Fail2BanSpec where
  name : String
  threshold : Nat
  period : Nat
  banSeconds : Nat
  filter : MatchSpec
  key : KeySource

structure TrackSpec where
  name : String
  period : Nat
  filter : MatchSpec
  key : KeySource

structure RulesFile where
  safelist : List MatchRule := []
  blocklist : List MatchRule := []
  throttle : List ThrottleSpec := []
  fail2ban : List Fail2BanSpec := []
  track : List TrackSpec := []

namespace RulesFile

/-- The validated rule set of a file. Entries are added kind by kind, a later entry replacing
    an earlier one of the same kind and name. -/
def ruleSet (f : RulesFile) : Except InvalidRule RuleSet :=
  let s := f.safelist.foldl (fun s r => s.addSafelist ⟨r.name, r.spec.build⟩) RuleSet.empty
  let s := f.blocklist.foldl (fun s r => s.addBlocklist ⟨r.name, r.spec.build⟩) s
  let s := f.fail2ban.foldl (fun s r =>
    s.addFail2Ban ⟨r.name, r.threshold, r.period, r.banSeconds, r.filter.build, r.key⟩) s
  let s := f.throttle.foldl (fun s r => s.addThrottle ⟨r.name, r.limit, r.period, r.key⟩) s
  let s := f.track.foldl (fun s r => s.addTrack ⟨r.name, r.period, r.filter.build, r.key⟩) s
  s.validate

end RulesFile

namespace Yaml

def firstMissing (names optional seen : List String) : Option String :=
  names.find? fun n => !optional.contains n && !seen.contains n

def requireAll (names optional seen : List String) : Except DecodeFault Unit :=
  match firstMissing names optional seen with
  | some n => .error (.missingField n)
  | none => .ok ()

def readAddress (d : Document) (path : Path) : Reading Net.IpAddr :=
  readText d path "IP address" fun s =>
    match Net.IpAddr.parse? s with
    | some ip => .ok ip
    | none => .error (.custom "invalid IP address syntax")

def readKeySource (d : Document) (path : Path) : Reading KeySource := do
  let text ← readString d path
  match KeySource.parse text with
  | .ok k => pure k
  | .error msg => fault (.custom msg)

def readHeaderPair (d : Document) (path : Path) (depth : Nat) : Reading (String × String) :=
  readRecord d path depth "struct HeaderMatchConfig" ["name", "value"] false
    ((none, none) : Option String × Option String)
    (fun field p _ acc => do
      let s ← readString d p
      pure (if field == "name" then (some s, acc.2) else (acc.1, some s)))
    (fun _ acc => match acc with
      | (some n, some v) => .ok (n, v)
      | (none, _) => .error (.missingField "name")
      | (_, none) => .error (.missingField "value"))

def readMatchSpec (d : Document) : Nat → Path → Nat → Reading MatchSpec
  | 0, _, _ => throw .repetitionLimit
  | fuel + 1, path, depth =>
    readRecord d path depth "struct MatchConfig" matchFieldNames true ({} : MatchParts)
      (fun field p dep acc =>
        if field == "path_prefix" then do
          pure { acc with pathPrefix := ← readOption d p (readString d) }
        else if field == "path" then do
          pure { acc with path := ← readOption d p (readString d) }
        else if field == "method" then do
          pure { acc with method := ← readOption d p (readString d) }
        else if field == "header" then do
          pure { acc with header := (← readOption d p (fun p => readHeaderPair d p dep)) }
        else if field == "header_present" then do
          pure { acc with headerPresent := ← readOption d p (readString d) }
        else if field == "ip" then do
          pure { acc with ip := (← readOption d p (fun p => readSeq d p dep (fun p _ => readAddress d p))) }
        else if field == "any" then do
          pure { acc with any := (← readOption d p (fun p =>
            readSeq d p dep (fun p dep' => readMatchSpec d fuel p dep'))) }
        else if field == "all" then do
          pure { acc with all := (← readOption d p (fun p =>
            readSeq d p dep (fun p dep' => readMatchSpec d fuel p dep'))) }
        else do
          pure { acc with negated := (← readOption d p (fun p => readMatchSpec d fuel p dep)) })
      (fun _ acc => .ok acc.spec)

def matchFuel : Nat := depthLimit + 2

def readMatchRule (d : Document) (path : Path) (depth : Nat) : Reading MatchRule :=
  readRecord d path depth "struct MatchRuleConfig" ["name", "match"] false
    ((none, none) : Option String × Option MatchSpec)
    (fun field p dep acc =>
      if field == "name" then do pure (some (← readString d p), acc.2)
      else do pure (acc.1, some (← readMatchSpec d matchFuel p dep)))
    (fun _ acc => match acc with
      | (some n, some m) => .ok ⟨n, m⟩
      | (none, _) => .error (.missingField "name")
      | (_, none) => .error (.missingField "match"))

structure CounterParts where
  name : Option String := none
  limit : Nat := 0
  threshold : Nat := 0
  period : Nat := 0
  banSeconds : Nat := 0
  filter : Option MatchSpec := none
  key : Option KeySource := none

def readCounterField (d : Document) (field : String) (p : Path) (dep : Nat) (acc : CounterParts) :
    Reading CounterParts :=
  if field == "name" then do pure { acc with name := some (← readString d p) }
  else if field == "limit" then do pure { acc with limit := ← readUnsigned d p }
  else if field == "threshold" then do pure { acc with threshold := ← readUnsigned d p }
  else if field == "period" then do pure { acc with period := ← readUnsigned d p }
  else if field == "ban_seconds" then do pure { acc with banSeconds := ← readUnsigned d p }
  else if field == "filter" then do pure { acc with filter := some (← readMatchSpec d matchFuel p dep) }
  else do pure { acc with key := some (← readKeySource d p) }

def readThrottle (d : Document) (path : Path) (depth : Nat) : Reading ThrottleSpec :=
  let names := ["name", "limit", "period", "key"]
  readRecord d path depth "struct ThrottleConfig" names false ({} : CounterParts)
    (readCounterField d)
    (fun seen acc => do
      requireAll names [] seen
      pure ⟨acc.name.getD "", acc.limit, acc.period, acc.key.getD .ip⟩)

def readFail2Ban (d : Document) (path : Path) (depth : Nat) : Reading Fail2BanSpec :=
  let names := ["name", "threshold", "period", "ban_seconds", "filter", "key"]
  readRecord d path depth "struct Fail2BanConfig" names false ({} : CounterParts)
    (readCounterField d)
    (fun seen acc => do
      requireAll names [] seen
      pure ⟨acc.name.getD "", acc.threshold, acc.period, acc.banSeconds,
        acc.filter.getD MatchSpec.empty, acc.key.getD .ip⟩)

def readTrack (d : Document) (path : Path) (depth : Nat) : Reading TrackSpec :=
  let names := ["name", "period", "filter", "key"]
  readRecord d path depth "struct TrackConfig" names false ({} : CounterParts)
    (readCounterField d)
    (fun seen acc => do
      requireAll names ["filter"] seen
      pure ⟨acc.name.getD "", acc.period, acc.filter.getD MatchSpec.empty, acc.key.getD .ip⟩)

def readRulesFile (d : Document) (path : Path) (depth : Nat) : Reading RulesFile :=
  readRecord d path depth "struct RulesConfig"
    ["safelist", "blocklist", "throttle", "fail2ban", "track"] false ({} : RulesFile)
    (fun field p dep acc =>
      if field == "safelist" then do
        pure { acc with safelist := ← readSeq d p dep (readMatchRule d) }
      else if field == "blocklist" then do
        pure { acc with blocklist := ← readSeq d p dep (readMatchRule d) }
      else if field == "throttle" then do
        pure { acc with throttle := ← readSeq d p dep (readThrottle d) }
      else if field == "fail2ban" then do
        pure { acc with fail2ban := ← readSeq d p dep (readFail2Ban d) }
      else do
        pure { acc with track := ← readSeq d p dep (readTrack d) })
    (fun _ acc => .ok acc)

end Yaml

def RulesFile.ofYaml (text : String) : Except Yaml.YamlError RulesFile :=
  Yaml.readDocument text fun d => Yaml.readRulesFile d .root Yaml.depthLimit

def RulesFile.load (text : String) : Except AppError RuleSet :=
  match RulesFile.ofYaml text with
  | .error e => .error (.config ("Failed to parse rules: " ++ e.render))
  | .ok f =>
    match f.ruleSet with
    | .ok s => .ok s
    | .error e => .error (.invalidRule e)

end RequestFirewall
