import RequestFirewall.Condition
import RequestFirewall.KeySource
import RequestFirewall.Text.Escape
/- Rule sets. Five kinds of rules, each kept in registration order: safelists and blocklists
   (a condition), throttles (a limit per period, counted by a key), fail2bans (a threshold of
   failures per period that bans a key for some seconds) and tracks (counting only). Adding a
   rule whose name is already used by a rule of the same kind replaces that rule where it
   stands. A finished set has no blank names and no zero periods or ban lengths. -/
namespace RequestFirewall

structure SafelistRule where
  name : String
  condition : Condition

structure BlocklistRule where
  name : String
  condition : Condition

structure ThrottleRule where
  name : String
  limit : Nat
  period : Nat
  key : KeySource

structure Fail2BanRule where
  name : String
  threshold : Nat
  period : Nat
  banSeconds : Nat
  filter : Condition
  key : KeySource

structure TrackRule where
  name : String
  period : Nat
  filter : Condition
  key : KeySource

class Named (α : Type) where
  nameOf : α → String

instance : Named SafelistRule := ⟨SafelistRule.name⟩
instance : Named BlocklistRule := ⟨BlocklistRule.name⟩
instance : Named ThrottleRule := ⟨ThrottleRule.name⟩
instance : Named Fail2BanRule := ⟨Fail2BanRule.name⟩
instance : Named TrackRule := ⟨TrackRule.name⟩

def upsert {α : Type} [Named α] (rules : List α) (rule : α) : List α :=
  if rules.any (fun r => Named.nameOf r == Named.nameOf rule) then
    let rec replace : List α → List α
      | [] => []
      | r :: rest => if Named.nameOf r == Named.nameOf rule then rule :: rest else r :: replace rest
    replace rules
  else rules ++ [rule]

structure RuleSet where
  safelists : List SafelistRule := []
  blocklists : List BlocklistRule := []
  throttles : List ThrottleRule := []
  fail2bans : List Fail2BanRule := []
  tracks : List TrackRule := []

structure InvalidRule where
  rule : String
  reason : String

def InvalidRule.message (e : InvalidRule) : String :=
  "Invalid rule '" ++ e.rule ++ "': " ++ e.reason

namespace RuleSet

def empty : RuleSet := {}

def addSafelist (s : RuleSet) (r : SafelistRule) : RuleSet := { s with safelists := upsert s.safelists r }
def addBlocklist (s : RuleSet) (r : BlocklistRule) : RuleSet := { s with blocklists := upsert s.blocklists r }
def addThrottle (s : RuleSet) (r : ThrottleRule) : RuleSet := { s with throttles := upsert s.throttles r }
def addFail2Ban (s : RuleSet) (r : Fail2BanRule) : RuleSet := { s with fail2bans := upsert s.fail2bans r }
def addTrack (s : RuleSet) (r : TrackRule) : RuleSet := { s with tracks := upsert s.tracks r }

def size (s : RuleSet) : Nat :=
  s.safelists.length + s.blocklists.length + s.throttles.length + s.fail2bans.length + s.tracks.length

def throttle? (s : RuleSet) (name : String) : Option ThrottleRule := s.throttles.find? (·.name == name)

def fail2ban? (s : RuleSet) (name : String) : Option Fail2BanRule := s.fail2bans.find? (·.name == name)

def names (s : RuleSet) : List String :=
  s.safelists.map (·.name) ++ s.blocklists.map (·.name) ++ s.throttles.map (·.name) ++
    s.fail2bans.map (·.name) ++ s.tracks.map (·.name)

def requirePositive (rule field : String) (value : Nat) : Except InvalidRule Unit :=
  if value = 0 then .error ⟨rule, field ++ " must be greater than zero"⟩ else .ok ()

/-- Checks a set: every name is non-blank; then every throttle period, every fail2ban period
    and ban length, every track period is positive. The first failure is reported. -/
def validate (s : RuleSet) : Except InvalidRule RuleSet := do
  for name in s.names do
    if (Text.trimBlank name).isEmpty then throw ⟨name, "name must not be empty"⟩
  for r in s.throttles do
    requirePositive r.name "period" r.period
  for r in s.fail2bans do
    requirePositive r.name "period" r.period
    requirePositive r.name "ban_seconds" r.banSeconds
  for r in s.tracks do
    requirePositive r.name "period" r.period
  pure s

def nameList (names : List String) : String :=
  "[" ++ ", ".intercalate (names.map Text.debugQuote) ++ "]"

def debugText (s : RuleSet) : String :=
  "RuleSet \x7b safelists: " ++ nameList (s.safelists.map (·.name)) ++
    ", blocklists: " ++ nameList (s.blocklists.map (·.name)) ++
    ", throttles: " ++ nameList (s.throttles.map (·.name)) ++
    ", fail2bans: " ++ nameList (s.fail2bans.map (·.name)) ++
    ", tracks: " ++ nameList (s.tracks.map (·.name)) ++ " \x7d"

end RuleSet

end RequestFirewall
