import RequestFirewall.Json.Value
/- Events: what the pipeline reports as it decides, and where reports go.

   Events name the rule as configured and the key as extracted, before normalization. A sink
   receives them in the order they happen. A collecting sink keeps all of them; a logging sink
   writes them to the log, where the caller does not see them; a channel holds at most its
   capacity (at least one) until drained and drops what does not fit, and once its receiver is
   gone it drops everything. -/
namespace RequestFirewall

inductive FirewallEvent where
  | safelistMatched (rule source : String)
  | blocklistMatched (rule source : String) (metadata : Option String)
  | throttleExceeded (rule key : String) (count limit period retryAfter : Nat)
  | fail2banBanned (rule key : String) (count threshold period banSeconds : Nat)
  | trackHit (rule key : String) (count period : Nat)
  deriving DecidableEq, Repr

namespace FirewallEvent

def rule : FirewallEvent → String
  | .safelistMatched r _ => r
  | .blocklistMatched r _ _ => r
  | .throttleExceeded r _ _ _ _ _ => r
  | .fail2banBanned r _ _ _ _ _ => r
  | .trackHit r _ _ _ => r

def kind : FirewallEvent → String
  | .safelistMatched .. => "safelist_matched"
  | .blocklistMatched .. => "blocklist_matched"
  | .throttleExceeded .. => "throttle_exceeded"
  | .fail2banBanned .. => "fail2ban_banned"
  | .trackHit .. => "track_hit"

def tag : FirewallEvent → String
  | .fail2banBanned .. => "fail2_ban_banned"
  | e => e.kind

def fields (e : FirewallEvent) : List (String × Json) :=
  ("type", .str e.tag) :: match e with
  | .safelistMatched r s => [("rule", .str r), ("source", .str s)]
  | .blocklistMatched r s m => [("rule", .str r), ("source", .str s), ("metadata", Json.optStr m)]
  | .throttleExceeded r k c l p ra =>
    [("rule", .str r), ("key", .str k), ("count", .nat c), ("limit", .nat l), ("period", .nat p),
     ("retry_after", .nat ra)]
  | .fail2banBanned r k c t p b =>
    [("rule", .str r), ("key", .str k), ("count", .nat c), ("threshold", .nat t),
     ("period", .nat p), ("ban_seconds", .nat b)]
  | .trackHit r k c p => [("rule", .str r), ("key", .str k), ("count", .nat c), ("period", .nat p)]

end FirewallEvent

inductive EventSink where
  | discard
  | collect
  | log
  | channel (capacity : Nat) (receiving : Bool)
  deriving DecidableEq, Repr

def EventSink.received : EventSink → List FirewallEvent → List FirewallEvent
  | .collect, es => es
  | .channel capacity true, es => es.take (Nat.max capacity 1)
  | _, _ => []

theorem EventSink.received_length_le (s : EventSink) (es : List FirewallEvent) :
    (s.received es).length ≤ es.length := by
  unfold EventSink.received
  split
  · exact Nat.le_refl _
  · exact List.length_take_le' _ _
  · exact Nat.zero_le _

end RequestFirewall
