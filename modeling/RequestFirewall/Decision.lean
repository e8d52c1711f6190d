import RequestFirewall.Json.Value
import RequestFirewall.Text.Blank
import RequestFirewall.Word
/- Decisions: what the firewall tells the caller about one request, and the headers it asks
   the caller to send back.

   A pass may carry the rate-limit headers of the first throttle that counted the request. A
   safelisted request names its rule. A block names its rule and its stage (blocklist or
   fail2ban). A throttle names its rule and a retry delay of at least one second, and may carry
   the rate-limit headers of the throttle that fired. Headers keep the order they were added. -/
namespace RequestFirewall

inductive Outcome where
  | pass
  | safelisted
  | blocked
  | throttled
  deriving DecidableEq, Repr

def Outcome.name : Outcome → String
  | .pass => "pass"
  | .safelisted => "safelisted"
  | .blocked => "blocked"
  | .throttled => "throttled"

inductive BlockType where
  | blocklist
  | fail2ban
  | throttle
  deriving DecidableEq, Repr

def BlockType.name : BlockType → String
  | .blocklist => "blocklist"
  | .fail2ban => "fail2ban"
  | .throttle => "throttle"

/-- The name of a block type in serialized decisions, where the stage name `Fail2Ban` is split
    at its digit boundary. -/
def BlockType.serialName : BlockType → String
  | .blocklist => "blocklist"
  | .fail2ban => "fail2_ban"
  | .throttle => "throttle"

/-- The quota a throttle reports: its limit, what is left, and the seconds until the window
    resets (at least one). -/
structure RateLimitInfo where
  limit : Nat
  remaining : Nat
  reset : Nat
  deriving DecidableEq, Repr

def RateLimitInfo.headers (i : RateLimitInfo) : List (String × String) :=
  [("X-RateLimit-Limit", Word.toDecimal i.limit),
   ("X-RateLimit-Remaining", Word.toDecimal i.remaining),
   ("X-RateLimit-Reset", Word.toDecimal i.reset)]

structure Decision where
  outcome : Outcome
  rule : Option String := none
  blockType : Option BlockType := none
  retryAfter : Option Nat := none
  headers : List (String × String) := []
  deriving DecidableEq, Repr

namespace Decision

def pass (rateLimit : Option RateLimitInfo) : Decision :=
  { outcome := .pass, headers := (rateLimit.map RateLimitInfo.headers).getD [] }

def safelisted (rule : String) : Decision :=
  { outcome := .safelisted, rule := some rule, headers := [("X-Rampart-Safelist", rule)] }

def blocked (rule : String) (kind : BlockType) : Decision :=
  { outcome := .blocked, rule := some rule, blockType := some kind,
    headers := [("X-Rampart", kind.name), ("X-Rampart-Matched", rule)] }

def throttled (rule : String) (retryAfter : Nat) (rateLimit : Option RateLimitInfo) : Decision :=
  let retry := Nat.max retryAfter 1
  { outcome := .throttled, rule := some rule, blockType := some .throttle,
    retryAfter := some retry,
    headers := [("X-Rampart", BlockType.throttle.name), ("X-Rampart-Matched", rule),
      ("Retry-After", Word.toDecimal retry)] ++ (rateLimit.map RateLimitInfo.headers).getD [] }

def allowed (d : Decision) : Bool := d.outcome == .pass || d.outcome == .safelisted

def header (d : Decision) (name : String) : Option String :=
  (d.headers.find? fun (n, _) => Text.eqIgnoreAsciiCase n name).map (·.2)

def fields (d : Decision) : List (String × Json) :=
  [("outcome", .str d.outcome.name),
   ("rule", Json.optStr d.rule),
   ("block_type", Json.optStr (d.blockType.map BlockType.serialName)),
   ("retry_after_seconds", Json.optNat d.retryAfter),
   ("headers", .arr (d.headers.map fun (n, v) => .arr [.str n, .str v]))]

theorem throttled_retryAfter_pos (rule : String) (r : Nat) (info : Option RateLimitInfo) :
    ∃ n, (throttled rule r info).retryAfter = some n ∧ 1 ≤ n :=
  ⟨Nat.max r 1, rfl, Nat.le_max_right r 1⟩

end Decision

end RequestFirewall
