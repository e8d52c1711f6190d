import RequestFirewall.Proofs.Pipeline
/- Decisions while the store cannot be reached. A fail-open store whose link is down answers
   every count and ttl with 0 and every lookup with nothing, and drops every write. A decision
   then never throttles and never blocks on a ban: a count of 0 exceeds no limit, an absent ban
   blocks nothing, and the ban that a threshold of 0 still asks for is dropped. The request is
   safelisted or blocklisted exactly as the lists decide and passes otherwise, carrying, when
   rate-limit headers are on, the quota of the first throttle with a key as if nothing had been
   counted; and the store is left as it was. -/
namespace RequestFirewall

namespace CounterStore

variable {s : CounterStore} (down : s.failing = true) (key : String) (now : Nat)
include down

theorem kind_of_failing : s.kind = .failOpen := by
  simp only [failing, Bool.and_eq_true, beq_iff_eq] at down
  exact down.1

theorem get_of_failing : s.get key now = (none, s) := by
  simp [get, down]

theorem has_of_failing : s.has key now = (false, s) := by
  simp [has, get_of_failing down]

theorem set_of_failing (value : String) (ttl : Option Nat) : s.set key value ttl now = s := by
  simp [set, down]

theorem increment_of_failing (period : Nat) : s.increment key period now = (0, s) := by
  simp [increment, kind_of_failing down, down]

theorem ttlRemaining_of_failing : s.ttlRemaining key now = (0, s) := by
  simp [ttlRemaining, kind_of_failing down, down]

end CounterStore

namespace RuleSet

/-- What the lists alone decide: the first safelist rule that holds, else the first blocklist
    rule that matches. -/
def listVerdict (rules : RuleSet) (req : Request) : Option Decision :=
  match rules.safelists.find? (·.condition.holds req) with
  | some rule => some (Decision.safelisted rule.name)
  | none => (rules.blocklists.find? fun rule => (rule.condition.check req).isMatch).map
      fun rule => Decision.blocked rule.name .blocklist

end RuleSet

/-- The quota of the first throttle that has a key for the request, before it counts anything:
    its whole limit left and a reset one second away. -/
def idleQuota (throttles : List ThrottleRule) (req : Request) : Option RateLimitInfo :=
  (throttles.find? fun rule => (rule.key.extract req).isSome).map fun rule => ⟨rule.limit, rule.limit, 1⟩

theorem idleQuota_cons (rule : ThrottleRule) (rest : List ThrottleRule) (req : Request) :
    idleQuota (rule :: rest) req = (idleQuota [rule] req).or (idleQuota rest req) := by
  unfold idleQuota
  cases keyed : rule.key.extract req <;> simp [keyed]

def outageDecision (rules : RuleSet) (options : FirewallOptions) (req : Request) : Decision :=
  (rules.listVerdict req).getD
    (Decision.pass (if options.rateLimitHeaders then idleQuota rules.throttles req else none))

theorem outageDecision_calm (rules : RuleSet) (options : FirewallOptions) (req : Request) :
    (outageDecision rules options req).outcome ≠ .throttled ∧
      (outageDecision rules options req).blockType ≠ some .fail2ban := by
  unfold outageDecision RuleSet.listVerdict
  split
  · simp [Decision.safelisted]
  · cases rules.blocklists.find? (fun rule => (rule.condition.check req).isMatch) <;>
      simp [Decision.blocked, Decision.pass]

theorem findSome?_checked_map {α β γ : Type} (p : α → β) (ok : β → Bool) (f : α → γ) (l : List α) :
    (l.findSome? fun x => if ok (p x) then some (x, p x) else none).map (f ·.1) =
      (l.find? fun x => ok (p x)).map f := by
  induction l with
  | nil => rfl
  | cons x rest ih =>
    by_cases here : ok (p x) = true
    · simp [here]
    · simp [here, ih]

namespace Evaluating

/-- From every state with these rules and options whose store is down, `p` answers `v` and
    leaves the store as it was. -/
def FailsOpen (rules : RuleSet) (options : FirewallOptions) {α : Type} (p : Evaluating α) (v : α) :
    Prop :=
  ∀ r : Run, r.fw.rules = rules → r.fw.options = options → r.fw.store.failing = true →
    (p.run r).1 = v ∧ (p.run r).2.fw.store = r.fw.store

namespace FailsOpen

variable {rules : RuleSet} {options : FirewallOptions} {α β : Type}

theorem pure' (x : α) : FailsOpen rules options (pure x : Evaluating α) x :=
  fun _ _ _ _ => ⟨rfl, rfl⟩

theorem bind' {p : Evaluating α} {f : α → Evaluating β} {v : α} {w : β} (steady : Steady p)
    (first : FailsOpen rules options p v) (next : FailsOpen rules options (f v) w) :
    FailsOpen rules options (p >>= f) w := by
  intro r sameRules sameOptions down
  obtain ⟨answer, kept⟩ := first r sameRules sameOptions down
  have keeps := steady r
  show ((f (p.run r).1).run (p.run r).2).1 = w ∧ ((f (p.run r).1).run (p.run r).2).2.fw.store = _
  rw [answer]
  obtain ⟨answer', kept'⟩ := next (p.run r).2 (keeps.rules.trans sameRules)
    (keeps.options.trans sameOptions) (kept ▸ down)
  exact ⟨answer', kept'.trans kept⟩

theorem get_bind {f : Run → Evaluating β} {w : β}
    (next : ∀ r : Run, r.fw.rules = rules → r.fw.options = options → FailsOpen rules options (f r) w) :
    FailsOpen rules options (get >>= f) w :=
  fun r sameRules sameOptions down => next r sameRules sameOptions r sameRules sameOptions down

theorem storeKey_bind {kind : CounterKind} {rule key : String} {f : String → Evaluating β} {w : β}
    (next : ∀ k, FailsOpen rules options (f k) w) :
    FailsOpen rules options (storeKey kind rule key >>= f) w :=
  fun r => next _ r

theorem onStore_bind {g : CounterStore → Nat → α × CounterStore} {x : α} {f : α → Evaluating β}
    {w : β} (dropped : ∀ s now, s.failing = true → g s now = (x, s))
    (next : FailsOpen rules options (f x) w) : FailsOpen rules options (onStore g >>= f) w := by
  intro r sameRules sameOptions down
  have step : (onStore g >>= f).run r = (f x).run r := by
    show (f (g r.fw.store r.now).1).run { r with fw := { r.fw with store := (g r.fw.store r.now).2 } } = _
    rw [dropped r.fw.store r.now down]
  rw [step]
  exact next r sameRules sameOptions down

theorem hit_bind {c : Category} {rule : Option String} {f : Unit → Evaluating β} {w : β}
    (next : FailsOpen rules options (f ()) w) : FailsOpen rules options (hit c rule >>= f) w :=
  fun _ sameRules sameOptions down => next _ sameRules sameOptions down

theorem emit_bind {e : FirewallEvent} {f : Unit → Evaluating β} {w : β}
    (next : FailsOpen rules options (f ()) w) : FailsOpen rules options (emit e >>= f) w :=
  fun _ sameRules sameOptions down => next _ sameRules sameOptions down

end FailsOpen

section Stages

variable {rules : RuleSet} {options : FirewallOptions} (req : Request)

theorem trackStep_failsOpen (rule : TrackRule) : FailsOpen rules options (trackStep req rule) () := by
  unfold trackStep
  split
  · split
    · exact FailsOpen.storeKey_bind fun k => FailsOpen.onStore_bind
        (fun s now down => CounterStore.increment_of_failing down k now _)
        (FailsOpen.hit_bind (FailsOpen.emit_bind (FailsOpen.pure' ())))
    · exact FailsOpen.pure' ()
  · exact FailsOpen.pure' ()

theorem trackStage_failsOpen (tracks : List TrackRule) :
    FailsOpen rules options (trackStage req tracks) () := by
  induction tracks with
  | nil => exact FailsOpen.pure' ()
  | cons rule rest ih => exact FailsOpen.bind' (trackStep_steady req rule) (trackStep_failsOpen req rule) ih

theorem checkSafelists_failsOpen :
    FailsOpen rules options (checkSafelists req)
      ((rules.safelists.find? (·.condition.holds req)).map fun rule => Decision.safelisted rule.name) := by
  unfold checkSafelists
  refine FailsOpen.get_bind fun r sameRules _ => ?_
  rw [sameRules]
  split
  · rename_i rule found
    rw [found]
    exact FailsOpen.hit_bind (FailsOpen.emit_bind (FailsOpen.pure' _))
  · rename_i found
    rw [found]
    exact FailsOpen.pure' _

theorem checkBlocklists_failsOpen :
    FailsOpen rules options (checkBlocklists req)
      ((rules.blocklists.find? fun rule => (rule.condition.check req).isMatch).map
        fun rule => Decision.blocked rule.name .blocklist) := by
  unfold checkBlocklists
  refine FailsOpen.get_bind fun r sameRules _ => ?_
  have matched := findSome?_checked_map (fun rule : BlocklistRule => rule.condition.check req)
    Check.isMatch (fun rule => Decision.blocked rule.name .blocklist) rules.blocklists
  dsimp only at matched ⊢
  rw [sameRules, ← matched]
  split
  · rename_i rule c found
    rw [found]
    exact FailsOpen.hit_bind (FailsOpen.emit_bind (FailsOpen.pure' _))
  · rename_i found
    rw [found]
    exact FailsOpen.pure' _

theorem listStage_failsOpen : FailsOpen rules options (listStage req) (rules.listVerdict req) := by
  unfold listStage RuleSet.listVerdict
  refine FailsOpen.bind' (checkSafelists_steady req) (checkSafelists_failsOpen req) ?_
  cases rules.safelists.find? (·.condition.holds req) with
  | some rule => exact FailsOpen.pure' _
  | none => exact checkBlocklists_failsOpen req

theorem checkFail2ban_failsOpen (rule : Fail2BanRule) :
    FailsOpen rules options (checkFail2ban req rule) none := by
  unfold checkFail2ban
  split
  · exact FailsOpen.pure' _
  · refine FailsOpen.storeKey_bind fun banKey => FailsOpen.onStore_bind
      (fun s now down => CounterStore.has_of_failing down banKey now) ?_
    split
    · contradiction
    · split
      · refine FailsOpen.storeKey_bind fun failKey => FailsOpen.onStore_bind
          (fun s now down => CounterStore.increment_of_failing down failKey now _)
          (FailsOpen.hit_bind ?_)
        split
        · exact FailsOpen.onStore_bind
            (fun s now down => congrArg (Prod.mk ()) (CounterStore.set_of_failing down banKey now _ _))
            (FailsOpen.hit_bind (FailsOpen.emit_bind (FailsOpen.pure' _)))
        · exact FailsOpen.pure' _
      · exact FailsOpen.pure' _

theorem fail2banStage_failsOpen (fail2bans : List Fail2BanRule) :
    FailsOpen rules options (fail2banStage req fail2bans) none := by
  induction fail2bans with
  | nil => exact FailsOpen.pure' _
  | cons rule rest ih =>
    exact FailsOpen.bind' (checkFail2ban_steady req rule) (checkFail2ban_failsOpen req rule) ih

theorem throttleStep_failsOpen (headersOn : Bool) (rule : ThrottleRule) (quota : Option RateLimitInfo) :
    FailsOpen rules options (throttleStep headersOn req rule quota)
      (.inr (if headersOn then quota.or (idleQuota [rule] req) else quota)) := by
  unfold throttleStep
  split
  · rename_i keyless
    have idle : idleQuota [rule] req = none := by simp [idleQuota, keyless]
    rw [idle, Option.or_none, ite_self]
    exact FailsOpen.pure' _
  · rename_i key keyed
    have idle : idleQuota [rule] req = some ⟨rule.limit, rule.limit, 1⟩ := by simp [idleQuota, keyed]
    refine FailsOpen.storeKey_bind fun k => FailsOpen.onStore_bind
      (fun s now down => CounterStore.increment_of_failing down k now _) (FailsOpen.onStore_bind
        (fun s now down => CounterStore.ttlRemaining_of_failing down k now) ?_)
    rw [idle]
    split
    · contradiction
    · cases headersOn <;> cases quota <;> exact FailsOpen.pure' _

theorem throttleStage_failsOpen (headersOn : Bool) (throttles : List ThrottleRule)
    (quota : Option RateLimitInfo) :
    FailsOpen rules options (throttleStage headersOn req throttles quota)
      (.inr (if headersOn then quota.or (idleQuota throttles req) else quota)) := by
  induction throttles generalizing quota with
  | nil =>
    rw [show idleQuota [] req = none from rfl, Option.or_none, ite_self]
    exact FailsOpen.pure' _
  | cons rule rest ih =>
    refine FailsOpen.bind' (throttleStep_steady headersOn req rule quota)
      (throttleStep_failsOpen req headersOn rule quota) ?_
    have next := ih (if headersOn then quota.or (idleQuota [rule] req) else quota)
    cases headersOn
    · exact next
    · rw [idleQuota_cons rule rest req, ← Option.or_assoc]
      exact next

theorem fromThrottles_failsOpen (headersOn : Bool) (throttles : List ThrottleRule)
    (quota : Option RateLimitInfo) :
    FailsOpen rules options (fromThrottles headersOn req throttles quota)
      (Decision.pass (if headersOn then quota.or (idleQuota throttles req) else quota)) :=
  FailsOpen.bind' (throttleStage_steady headersOn req throttles quota)
    (throttleStage_failsOpen req headersOn throttles quota) (FailsOpen.hit_bind (FailsOpen.pure' _))

theorem fromFail2bans_failsOpen (fail2bans : List Fail2BanRule) :
    FailsOpen rules options (fromFail2bans req fail2bans)
      (Decision.pass (if options.rateLimitHeaders then idleQuota rules.throttles req else none)) := by
  refine FailsOpen.bind' (fail2banStage_steady req fail2bans) (fail2banStage_failsOpen req fail2bans)
    (FailsOpen.get_bind fun r sameRules sameOptions => ?_)
  rw [sameRules, sameOptions]
  simpa using fromThrottles_failsOpen req options.rateLimitHeaders rules.throttles none

theorem opening_failsOpen : FailsOpen rules options (opening req) (rules.listVerdict req) :=
  FailsOpen.get_bind fun _ _ _ => FailsOpen.bind' (trackStage_steady req _)
    (trackStage_failsOpen req _) (listStage_failsOpen req)

theorem decide_failsOpen : FailsOpen rules options (decide req) (outageDecision rules options req) := by
  rw [decide_eq]
  refine FailsOpen.bind' (opening_steady req) (opening_failsOpen req) ?_
  unfold outageDecision
  cases rules.listVerdict req with
  | some d => exact FailsOpen.pure' d
  | none => exact FailsOpen.get_bind fun _ sameRules _ => sameRules ▸ fromFail2bans_failsOpen req _

end Stages

end Evaluating

/-- While the store is down, a decision is what the lists decide, else a pass with the quota of
    the first throttle with a key and nothing counted: never a throttle, never a ban. The store
    is left as it was. -/
theorem decide_fails_open (fw : Firewall) (req : Request) (now : Nat) (down : fw.store.failing = true) :
    (fw.decide req now).1 = outageDecision fw.rules fw.options req ∧
      (fw.decide req now).1.outcome ≠ .throttled ∧
      (fw.decide req now).1.blockType ≠ some .fail2ban ∧
      (fw.decide req now).2.2.store = fw.store := by
  obtain ⟨decided, kept⟩ := Evaluating.decide_failsOpen req { fw, now } rfl rfl down
  have calm := outageDecision_calm fw.rules fw.options req
  refine ⟨decided, ?_, ?_, kept⟩
  · exact decided ▸ calm.1
  · exact decided ▸ calm.2

/-- A throttle with limit 0 and a fail2ban rule with threshold 0, both keyed by path, while the
    store is down: the request passes with the throttle's whole quota. -/
theorem decide_fails_open_zero_limits :
    let fw : Firewall :=
      { rules := { throttles := [⟨"t", 0, 60, .path⟩], fail2bans := [⟨"f", 0, 60, 600, .always, .path⟩] },
        store := { kind := .failOpen, down := true },
        options := { rateLimitHeaders := true } }
    fw.store.failing = true ∧
      ((fw.decide {} 0).1 = outageDecision fw.rules fw.options {} ∧
        (fw.decide {} 0).1.outcome ≠ .throttled ∧
        (fw.decide {} 0).1.blockType ≠ some .fail2ban ∧
        (fw.decide {} 0).2.2.store = fw.store) :=
  ⟨rfl, decide_fails_open _ {} 0 rfl⟩

end RequestFirewall
