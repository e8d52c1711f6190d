import RequestFirewall.Rules
import RequestFirewall.Key
import RequestFirewall.Store.Counter
import RequestFirewall.Decision
import RequestFirewall.Events
import RequestFirewall.Diagnostics
/- The firewall: a rule set, a counter store, options and diagnostics, and the pipeline that
   decides each request.

   The stages run in order and the first that decides wins:
   1. Track rules count every request their filter matches and whose key is present; they never
      decide.
   2. The first matching safelist rule lets the request through.
   3. The first matching blocklist rule blocks it.
   4. Fail2ban rules, for requests with a key: an active ban blocks at once; otherwise a
      matching request counts as a failure, and reaching the threshold bans the key for the ban
      length (the request that reaches it still goes on).
   5. Throttles, for requests with a key: each counts the request; a count over the limit
      throttles it until its window ends. With rate-limit headers on, the first throttle that
      counted the request supplies the quota of a pass.
   6. Otherwise the request passes.

   Counters live in the store under keys made of the key prefix, the counter kind, and the
   normalized rule name and request key.

   A decision reads the clock once and makes every store call at that reading. The stores read
   the clock at each of their calls, so this agrees with them only while the clock stands still
   during a decision. A count that overflows its word stops the program with a panic: the store
   keeps the mark, and nothing the decision does after it is seen. -/
namespace RequestFirewall

structure FirewallOptions where
  keyPrefix : String := "rampart"
  rateLimitHeaders : Bool := false
  deriving DecidableEq, Repr

structure Firewall where
  rules : RuleSet := {}
  store : CounterStore := {}
  options : FirewallOptions := {}
  diagnostics : Diagnostics := {}

structure Run where
  fw : Firewall
  now : Nat
  events : Array FirewallEvent := #[]

abbrev Evaluating := StateM Run

namespace Evaluating

def emit (e : FirewallEvent) : Evaluating Unit :=
  modify fun r => { r with events := r.events.push e }

def hit (c : Category) (rule : Option String) : Evaluating Unit :=
  modify fun r => { r with fw := { r.fw with diagnostics := r.fw.diagnostics.increment c rule } }

def storeKey (kind : CounterKind) (rule key : String) : Evaluating String := do
  pure (StoreKey.render ⟨(← get).fw.options.keyPrefix, kind, rule, key⟩)

def onStore {α : Type} (f : CounterStore → Nat → α × CounterStore) : Evaluating α := do
  let r ← get
  let (a, s) := f r.fw.store r.now
  set { r with fw := { r.fw with store := s } }
  pure a

def runTracks (req : Request) : Evaluating Unit := do
  for rule in (← get).fw.rules.tracks do
    if rule.filter.holds req then
      if let some key := rule.key.extract req then
        let k ← storeKey .track rule.name key
        let count ← onStore fun s now => s.increment k rule.period now
        hit .trackHit (some rule.name)
        emit (.trackHit rule.name key count rule.period)

def checkSafelists (req : Request) : Evaluating (Option Decision) := do
  match (← get).fw.rules.safelists.find? (·.condition.holds req) with
  | some rule =>
    hit .safelisted (some rule.name)
    emit (.safelistMatched rule.name rule.condition.describe)
    pure (some (Decision.safelisted rule.name))
  | none => pure none

def checkBlocklists (req : Request) : Evaluating (Option Decision) := do
  let found := (← get).fw.rules.blocklists.findSome? fun rule =>
    let c := rule.condition.check req
    if c.isMatch then some (rule, c) else none
  match found with
  | some (rule, c) =>
    hit .blocklisted (some rule.name)
    emit (.blocklistMatched rule.name c.source c.metadata)
    pure (some (Decision.blocked rule.name .blocklist))
  | none => pure none

def checkFail2ban (req : Request) (rule : Fail2BanRule) : Evaluating (Option Decision) := do
  match rule.key.extract req with
  | none => pure none
  | some key =>
    let banKey ← storeKey .fail2banBan rule.name key
    if ← onStore fun s now => s.has banKey now then
      hit .fail2banBlocked (some rule.name)
      return some (Decision.blocked rule.name .fail2ban)
    if rule.filter.holds req then
      let failKey ← storeKey .fail2banFail rule.name key
      let failures ← onStore fun s now => s.increment failKey rule.period now
      hit .fail2banFailHit (some rule.name)
      if failures ≥ rule.threshold then
        onStore fun s now => ((), s.set banKey "1" (some rule.banSeconds) now)
        hit .fail2banBanned (some rule.name)
        emit (.fail2banBanned rule.name key failures rule.threshold rule.period rule.banSeconds)
    pure none

def checkFail2bans (req : Request) : Evaluating (Option Decision) := do
  for rule in (← get).fw.rules.fail2bans do
    if let some d ← checkFail2ban req rule then return some d
  pure none

def checkThrottles (req : Request) : Evaluating (Sum Decision (Option RateLimitInfo)) := do
  let headersOn := (← get).fw.options.rateLimitHeaders
  let mut quota : Option RateLimitInfo := none
  for rule in (← get).fw.rules.throttles do
    if let some key := rule.key.extract req then
      let k ← storeKey .throttle rule.name key
      let count ← onStore fun s now => s.increment k rule.period now
      let retryAfter ← onStore fun s now => s.ttlRemaining k now
      let info : RateLimitInfo := ⟨rule.limit, rule.limit - count, Nat.max retryAfter 1⟩
      if count > rule.limit then
        hit .throttleExceeded (some rule.name)
        emit (.throttleExceeded rule.name key count rule.limit rule.period retryAfter)
        return .inl (Decision.throttled rule.name retryAfter (if headersOn then some info else none))
      if headersOn && quota.isNone then quota := some info
  pure (.inr quota)

def decide (req : Request) : Evaluating Decision := do
  runTracks req
  if let some d ← checkSafelists req then return d
  if let some d ← checkBlocklists req then return d
  if let some d ← checkFail2bans req then return d
  match ← checkThrottles req with
  | .inl d => pure d
  | .inr quota =>
    hit .passed none
    pure (Decision.pass quota)

end Evaluating

namespace Firewall

def create (rules : RuleSet) (store : CounterStore) (options : FirewallOptions := {}) : Firewall :=
  { rules, store, options }

/-- Decides a request at a clock reading: the decision, the events in order, and the firewall
    after the counters moved. -/
def decide (fw : Firewall) (req : Request) (now : Nat) : Decision × List FirewallEvent × Firewall :=
  let (d, r) := (Evaluating.decide req).run { fw, now }
  (d, r.events.toList, r.fw)

def storeKey (fw : Firewall) (kind : CounterKind) (rule key : String) : String :=
  StoreKey.render ⟨fw.options.keyPrefix, kind, rule, key⟩

def isBanned (fw : Firewall) (rule key : String) (now : Nat) : Bool × Firewall :=
  let (b, s) := fw.store.has (fw.storeKey .fail2banBan rule key) now
  (b, { fw with store := s })

def unban (fw : Firewall) (rule key : String) : Firewall :=
  { fw with store := fw.store.delete (fw.storeKey .fail2banBan rule key) }

def resetFail2ban (fw : Firewall) (rule key : String) : Firewall :=
  { fw with store := fw.store.delete (fw.storeKey .fail2banFail rule key) }

def resetThrottle (fw : Firewall) (rule key : String) : Firewall :=
  { fw with store := fw.store.delete (fw.storeKey .throttle rule key) }

def setRules (fw : Firewall) (rules : RuleSet) : Firewall := { fw with rules }

end Firewall

end RequestFirewall
