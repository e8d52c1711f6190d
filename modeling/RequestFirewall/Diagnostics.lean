import RequestFirewall.Table
import RequestFirewall.Json.Value
/- Diagnostics: hit counters per pipeline outcome, and per rule within each outcome.

   The total of a category always counts. Per-rule counts are kept for at most 100 distinct
   rules in a category; once that many are tracked, a new rule's hits count only toward the
   total, while tracked rules keep counting. A category appears once it has been hit. -/
namespace RequestFirewall

inductive Category where
  | trackHit
  | safelisted
  | blocklisted
  | fail2banBlocked
  | fail2banFailHit
  | fail2banBanned
  | throttleExceeded
  | passed
  deriving DecidableEq, Repr

namespace Category

def name : Category → String
  | .trackHit => "track_hit"
  | .safelisted => "safelisted"
  | .blocklisted => "blocklisted"
  | .fail2banBlocked => "fail2ban_blocked"
  | .fail2banFailHit => "fail2ban_fail_hit"
  | .fail2banBanned => "fail2ban_banned"
  | .throttleExceeded => "throttle_exceeded"
  | .passed => "passed"

def all : List Category :=
  [.trackHit, .safelisted, .blocklisted, .fail2banBlocked, .fail2banFailHit, .fail2banBanned,
   .throttleExceeded, .passed]

def ofName? (s : String) : Option Category := all.find? (·.name == s)

theorem ofName?_name (c : Category) : ofName? c.name = some c := by
  cases c <;> rfl

end Category

def maxRulesPerCategory : Nat := 100

structure CategoryCounts where
  total : Nat := 0
  byRule : Table Nat := {}

def CategoryCounts.hit (c : CategoryCounts) (rule : Option String) : CategoryCounts :=
  let byRule := match rule with
    | none => c.byRule
    | some r =>
      match c.byRule.find? r with
      | some n => c.byRule.insert r (n + 1)
      | none => if c.byRule.size < maxRulesPerCategory then c.byRule.insert r 1 else c.byRule
  { total := c.total + 1, byRule }

structure Diagnostics where
  counts : List (Category × CategoryCounts) := []

namespace Diagnostics

def get? (d : Diagnostics) (c : Category) : Option CategoryCounts :=
  (d.counts.find? (·.1 == c)).map (·.2)

def increment (d : Diagnostics) (c : Category) (rule : Option String) : Diagnostics :=
  match d.get? c with
  | some counts => ⟨d.counts.map fun (k, v) => if k == c then (k, counts.hit rule) else (k, v)⟩
  | none => ⟨d.counts ++ [(c, ({} : CategoryCounts).hit rule)]⟩

def total (d : Diagnostics) (c : Category) : Nat := ((d.get? c).map (·.total)).getD 0

def ruleHits (d : Diagnostics) (c : Category) (rule : String) : Nat :=
  ((d.get? c).bind (·.byRule.find? rule)).getD 0

def reset (_ : Diagnostics) : Diagnostics := {}

def snapshot (d : Diagnostics) : Json :=
  .obj (d.counts.map fun (c, counts) =>
    (c.name, .obj [("total", .nat counts.total),
      ("by_rule", .obj (counts.byRule.entries.map fun (r, n) => (r, .nat n)))]))

theorem total_reset (d : Diagnostics) (c : Category) : d.reset.total c = 0 := rfl

end Diagnostics

end RequestFirewall
