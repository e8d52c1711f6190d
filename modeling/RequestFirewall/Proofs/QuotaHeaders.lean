import RequestFirewall.Proofs.Pipeline
/- Rate-limit headers. Each throttle with a key for the request counts it and reads the time
   left in its window right after; one whose count goes over its limit throttles the request on
   the spot, and otherwise the first such throttle captures its quota for the pass (rate-limit
   headers on). A throttled decision therefore carries the quota of the throttle that fired,
   with nothing remaining and its wait as the reset, whatever was captured before it; a pass
   carries the quota of the first throttle with a key, as its count read it from the store the
   throttles started from (the throttles before it, having no key, left that store alone), or no
   header when no throttle has a key; and with rate-limit headers off no decision carries one.
   One equation per throttle step (`throttleStep_fst_of_key`) carries the stage lemmas; the
   decision is cut where the pipeline reaches the throttles. -/
namespace RequestFirewall

/-- What counting a request key against a throttle reads from a store at a clock reading: the
    new count, and the seconds left in the counter's window read right after it. -/
def throttleReading (s : CounterStore) (keyPrefix : String) (rule : ThrottleRule) (key : String)
    (now : Nat) : Nat × Nat :=
  let counter := StoreKey.render ⟨keyPrefix, .throttle, rule.name, key⟩
  ((s.increment counter rule.period now).1,
    ((s.increment counter rule.period now).2.ttlRemaining counter now).1)

namespace Evaluating

variable {headersOn : Bool} {req : Request} {rule : ThrottleRule} {quota : Option RateLimitInfo}

theorem throttleStep_run_of_keyless (keyless : rule.key.extract req = none) (r : Run) :
    (throttleStep headersOn req rule quota).run r = (.inr quota, r) := by
  unfold throttleStep
  rw [keyless]
  rfl

theorem throttleStep_fst_of_key {key : String} (keyed : rule.key.extract req = some key) (r : Run) :
    ((throttleStep headersOn req rule quota).run r).1 =
      let reading := throttleReading r.fw.store r.fw.options.keyPrefix rule key r.now
      let info : RateLimitInfo := ⟨rule.limit, rule.limit - reading.1, Nat.max reading.2 1⟩
      if rule.limit < reading.1 then
        .inl (Decision.throttled rule.name reading.2 (if headersOn then some info else none))
      else .inr (if headersOn && quota.isNone then some info else quota) := by
  simp only [throttleStep, keyed, run_bind, run_storeKey, run_onStore, throttleReading]
  by_cases exceeded : rule.limit < (r.fw.store.increment
      (StoreKey.render ⟨r.fw.options.keyPrefix, .throttle, rule.name, key⟩) rule.period r.now).1
  · simp only [gt_iff_lt, exceeded, if_true, run_bind, run_hit, run_emit]
    rfl
  · simp only [gt_iff_lt, exceeded, if_false]
    split <;> rfl


/-- The decision of throttle `rule` on what it reads from the store of `r`: the request has a
    key for it, the count went over its limit, and the decision names the rule, waits the time
    read right after the count (at least a second), and reports with rate-limit headers on a
    quota with nothing left. -/
def ThrottledBy (headersOn : Bool) (req : Request) (r : Run) (rule : ThrottleRule) (d : Decision) :
    Prop :=
  ∃ key, rule.key.extract req = some key ∧
    rule.limit < (throttleReading r.fw.store r.fw.options.keyPrefix rule key r.now).1 ∧
    d = Decision.throttled rule.name (throttleReading r.fw.store r.fw.options.keyPrefix rule key r.now).2
      (if headersOn then
        some ⟨rule.limit, rule.limit - (throttleReading r.fw.store r.fw.options.keyPrefix rule key r.now).1,
          Nat.max (throttleReading r.fw.store r.fw.options.keyPrefix rule key r.now).2 1⟩
      else none)

theorem throttleStep_throttled {r : Run} {d : Decision}
    (throttled : ((throttleStep headersOn req rule quota).run r).1 = .inl d) :
    ThrottledBy headersOn req r rule d := by
  cases keyed : rule.key.extract req with
  | none => simp [throttleStep_run_of_keyless keyed] at throttled
  | some key =>
    rw [throttleStep_fst_of_key keyed] at throttled
    dsimp only at throttled
    split at throttled
    · rename_i exceeded
      cases throttled
      exact ⟨key, keyed, exceeded, rfl⟩
    · cases throttled

theorem throttleStage_cons_run (rest : List ThrottleRule) (r : Run) :
    (throttleStage headersOn req (rule :: rest) quota).run r =
      match (throttleStep headersOn req rule quota).run r with
      | (.inl d, r') => (.inl d, r')
      | (.inr q, r') => (throttleStage headersOn req rest q).run r' := by
  simp only [throttleStage, run_bind]
  cases (throttleStep headersOn req rule quota).run r with
  | mk s r' => cases s <;> rfl

theorem throttleStage_run_of_keyless {rules : List ThrottleRule}
    (keyless : ∀ rule ∈ rules, rule.key.extract req = none) (quota : Option RateLimitInfo) (r : Run) :
    (throttleStage headersOn req rules quota).run r = (.inr quota, r) := by
  induction rules with
  | nil => rfl
  | cons rule rest ih =>
    rw [throttleStage_cons_run, throttleStep_run_of_keyless (keyless rule List.mem_cons_self)]
    exact ih fun t mem => keyless t (List.mem_cons_of_mem _ mem)

theorem throttleStage_keeps_quota (settled : quota.isSome = true ∨ headersOn = false)
    (rules : List ThrottleRule) (r : Run) {q : Option RateLimitInfo}
    (passed : ((throttleStage headersOn req rules quota).run r).1 = .inr q) : q = quota := by
  induction rules generalizing r with
  | nil => cases passed; rfl
  | cons rule rest ih =>
    rw [throttleStage_cons_run] at passed
    cases step : (throttleStep headersOn req rule quota).run r with
    | mk s r' =>
      rw [step] at passed
      cases s with
      | inl d => cases passed
      | inr q' =>
        have handed : q' = quota := by
          have answer := congrArg Prod.fst step
          cases keyed : rule.key.extract req with
          | none =>
            rw [throttleStep_run_of_keyless keyed] at answer
            cases answer
            rfl
          | some key =>
            rw [throttleStep_fst_of_key keyed] at answer
            dsimp only at answer
            split at answer
            · cases answer
            · cases answer
              rcases settled with held | off
              · simp [Option.isSome_iff_ne_none.mp held]
              · simp [off]
        subst handed
        exact ih r' passed

/-- A throttled outcome of the throttles comes from one of them, reached after those before it
    passed: the decision is that throttle's on what it read from the store as it found it. -/
theorem throttleStage_throttled (rules : List ThrottleRule) (quota : Option RateLimitInfo) (r : Run)
    {d : Decision} (throttled : ((throttleStage headersOn req rules quota).run r).1 = .inl d) :
    ∃ (before after : List ThrottleRule) (rule : ThrottleRule) (q : Option RateLimitInfo) (r' : Run),
      rules = before ++ rule :: after ∧ (throttleStage headersOn req before quota).run r = (.inr q, r') ∧
      ThrottledBy headersOn req r' rule d := by
  induction rules generalizing quota r with
  | nil => cases throttled
  | cons rule rest ih =>
    rw [throttleStage_cons_run] at throttled
    cases step : (throttleStep headersOn req rule quota).run r with
    | mk s r₁ =>
      rw [step] at throttled
      cases s with
      | inl d' =>
        cases throttled
        have fired : ((throttleStep headersOn req rule quota).run r).1 = .inl d := by rw [step]
        exact ⟨[], rest, rule, quota, r, rfl, rfl, throttleStep_throttled fired⟩
      | inr q₁ =>
        obtain ⟨before, after, fired, q, r', split, ran, by_⟩ := ih q₁ r₁ throttled
        refine ⟨rule :: before, after, fired, q, r', by rw [split]; rfl, ?_, by_⟩
        rw [throttleStage_cons_run, step]
        exact ran

/-- With rate-limit headers on and no quota yet, the throttles that all pass report the quota of
    the first of them with a key: what it read from the store as the throttles found it, its
    count within its limit. -/
theorem throttleStage_first_quota {before after : List ThrottleRule} {first : ThrottleRule}
    {key : String} (keyless : ∀ rule ∈ before, rule.key.extract req = none)
    (keyed : first.key.extract req = some key) (r : Run) {q : Option RateLimitInfo}
    (passed : ((throttleStage true req (before ++ first :: after) none).run r).1 = .inr q) :
    (throttleReading r.fw.store r.fw.options.keyPrefix first key r.now).1 ≤ first.limit ∧
      q = some ⟨first.limit, first.limit - (throttleReading r.fw.store r.fw.options.keyPrefix first key r.now).1,
        Nat.max (throttleReading r.fw.store r.fw.options.keyPrefix first key r.now).2 1⟩ := by
  rw [throttleStage_append, run_bind, throttleStage_run_of_keyless keyless] at passed
  dsimp only at passed
  rw [throttleStage_cons_run] at passed
  cases step : (throttleStep true req first none).run r with
  | mk s r₁ =>
    have answer := congrArg Prod.fst step
    rw [throttleStep_fst_of_key keyed] at answer
    dsimp only at answer
    rw [step] at passed
    split at answer
    · cases answer
      cases passed
    · rename_i within
      cases answer
      refine ⟨Nat.le_of_not_lt within, ?_⟩
      exact throttleStage_keeps_quota (Or.inl rfl) after r₁ passed

theorem fromThrottles_fst (headersOn : Bool) (req : Request) (rules : List ThrottleRule)
    (quota : Option RateLimitInfo) (r : Run) :
    ((fromThrottles headersOn req rules quota).run r).1 =
      match ((throttleStage headersOn req rules quota).run r).1 with
      | .inl d => d
      | .inr q => Decision.pass q := by
  simp only [fromThrottles, run_bind]
  cases ((throttleStage headersOn req rules quota).run r).1 <;> rfl

theorem fromThrottles_cases (headersOn : Bool) (req : Request) (rules : List ThrottleRule) (r : Run) :
    (∃ (before after : List ThrottleRule) (rule : ThrottleRule) (q : Option RateLimitInfo) (r' : Run),
      rules = before ++ rule :: after ∧ (throttleStage headersOn req before none).run r = (.inr q, r') ∧
      ThrottledBy headersOn req r' rule ((fromThrottles headersOn req rules none).run r).1) ∨
    ∃ q, ((throttleStage headersOn req rules none).run r).1 = .inr q ∧
      ((fromThrottles headersOn req rules none).run r).1 = Decision.pass q := by
  rw [fromThrottles_fst]
  cases staged : ((throttleStage headersOn req rules none).run r).1 with
  | inl d => exact Or.inl (throttleStage_throttled rules none r staged)
  | inr q => exact Or.inr ⟨q, rfl, rfl⟩

end Evaluating

theorem Firewall.decide_of_reached {fw : Firewall} {req : Request} {now : Nat} {r : Run}
    (reached : (Evaluating.throttlesReached req []).run { fw, now } = (.inr none, r)) :
    (fw.decide req now).1 =
      ((Evaluating.fromThrottles fw.options.rateLimitHeaders req fw.rules.throttles none).run r).1 ∧
      r.fw.rules = fw.rules ∧ r.fw.options = fw.options ∧ r.now = now := by
  have keeps := Evaluating.throttlesReached_steady req [] { fw, now }
  rw [reached] at keeps
  refine ⟨?_, keeps.rules, keeps.options, keeps.now⟩
  have cut := @Evaluating.decide_run_of_throttles req { fw, now } [] fw.rules.throttles rfl
  simp only [decide, cut, Evaluating.run_bind, reached]
  rfl

/-- A pass that reached the throttles with the store of `r`, with rate-limit headers on, carries
    no header when no throttle has a key for the request, and otherwise exactly the quota of the
    first throttle that has one: its limit, what its count leaves of it, and the seconds left in
    its window (at least one), as counting reads them from that store; the count is within the
    limit. -/
def PassReportsFirstQuota (fw : Firewall) (req : Request) (now : Nat) (r : Run) (d : Decision) :
    Prop :=
  d.outcome = .pass → fw.options.rateLimitHeaders = true →
    ((∀ rule ∈ fw.rules.throttles, rule.key.extract req = none) → d.headers = []) ∧
    ∀ (before after : List ThrottleRule) (first : ThrottleRule) (key : String),
      fw.rules.throttles = before ++ first :: after → (∀ rule ∈ before, rule.key.extract req = none) →
      first.key.extract req = some key →
      (throttleReading r.fw.store fw.options.keyPrefix first key now).1 ≤ first.limit ∧
      d.headers =
        [("X-RateLimit-Limit", Word.toDecimal first.limit),
         ("X-RateLimit-Remaining",
           Word.toDecimal (first.limit - (throttleReading r.fw.store fw.options.keyPrefix first key now).1)),
         ("X-RateLimit-Reset",
           Word.toDecimal (Nat.max (throttleReading r.fw.store fw.options.keyPrefix first key now).2 1))]

/-- A throttled decision that reached the throttles from `r` comes from one throttle, reached
    as `r'` after those before it passed: its count, read from the store of `r'`, went over its
    limit; the decision names it and carries the throttle markers and the wait read right after
    that count (at least one second), then, with rate-limit headers on, that throttle's limit,
    nothing remaining and the same wait as the reset, whatever quota the throttles before it
    captured. -/
def ThrottleReportsOwnQuota (fw : Firewall) (req : Request) (now : Nat) (r : Run) (d : Decision) :
    Prop :=
  d.outcome = .throttled →
    ∃ (before after : List ThrottleRule) (rule : ThrottleRule) (key : String)
      (q : Option RateLimitInfo) (r' : Run),
      fw.rules.throttles = before ++ rule :: after ∧
      (Evaluating.throttleStage fw.options.rateLimitHeaders req before none).run r = (.inr q, r') ∧
      rule.key.extract req = some key ∧
      rule.limit < (throttleReading r'.fw.store fw.options.keyPrefix rule key now).1 ∧
      d.rule = some rule.name ∧
      d.headers =
        [("X-Rampart", "throttle"), ("X-Rampart-Matched", rule.name),
         ("Retry-After",
           Word.toDecimal (Nat.max (throttleReading r'.fw.store fw.options.keyPrefix rule key now).2 1))] ++
        if fw.options.rateLimitHeaders then
          [("X-RateLimit-Limit", Word.toDecimal rule.limit), ("X-RateLimit-Remaining", Word.toDecimal 0),
           ("X-RateLimit-Reset",
             Word.toDecimal (Nat.max (throttleReading r'.fw.store fw.options.keyPrefix rule key now).2 1))]
        else []

def NoQuotaHeaders (d : Decision) : Prop :=
  ∀ h ∈ d.headers, h.1 ∉ ["X-RateLimit-Limit", "X-RateLimit-Remaining", "X-RateLimit-Reset"]

namespace Firewall

variable {fw : Firewall} {req : Request} {now : Nat} {r : Run}
  (reached : (Evaluating.throttlesReached req []).run { fw, now } = (.inr none, r))
include reached

theorem passReportsFirstQuota : PassReportsFirstQuota fw req now r (fw.decide req now).1 := by
  intro passed on
  obtain ⟨decided, -, options, clock⟩ := decide_of_reached reached
  rcases Evaluating.fromThrottles_cases fw.options.rateLimitHeaders req fw.rules.throttles r with
    ⟨_, _, _, _, _, _, _, ⟨_, _, _, fired⟩⟩ | ⟨q, staged, pass⟩
  · rw [decided, fired] at passed
    simp [Decision.throttled] at passed
  · rw [decided, pass]
    rw [on] at staged
    refine ⟨fun keyless => ?_, fun before after first key split keyless keyed => ?_⟩
    · rw [Evaluating.throttleStage_run_of_keyless keyless] at staged
      cases staged
      rfl
    · rw [split] at staged
      obtain ⟨within, quota⟩ := Evaluating.throttleStage_first_quota keyless keyed r staged
      rw [options, clock] at within quota
      exact ⟨within, by rw [quota]; rfl⟩

theorem throttleReportsOwnQuota : ThrottleReportsOwnQuota fw req now r (fw.decide req now).1 := by
  intro throttled
  obtain ⟨decided, -, options, clock⟩ := decide_of_reached reached
  rcases Evaluating.fromThrottles_cases fw.options.rateLimitHeaders req fw.rules.throttles r with
    ⟨before, after, rule, q, r', split, ran, ⟨key, keyed, exceeded, fired⟩⟩ | ⟨_, _, pass⟩
  · -- the throttles before `rule` keep the options and the clock the throttles started with
    have keeps := Evaluating.throttleStage_steady fw.options.rateLimitHeaders req before none r
    rw [ran] at keeps
    have sameOptions : r'.fw.options = fw.options := keeps.options.trans options
    have sameClock : r'.now = now := keeps.now.trans clock
    rw [sameOptions, sameClock] at exceeded fired
    refine ⟨before, after, rule, key, q, r', split, ran, keyed, exceeded, by rw [decided, fired]; rfl, ?_⟩
    rw [decided, fired, Nat.sub_eq_zero_of_le (Nat.le_of_lt exceeded)]
    cases fw.options.rateLimitHeaders <;> rfl
  · rw [decided, pass] at throttled
    simp [Decision.pass] at throttled

theorem noQuotaHeaders (off : fw.options.rateLimitHeaders = false) :
    NoQuotaHeaders (fw.decide req now).1 := by
  obtain ⟨decided, -, -, -⟩ := decide_of_reached reached
  rw [decided]
  rcases Evaluating.fromThrottles_cases fw.options.rateLimitHeaders req fw.rules.throttles r with
    ⟨_, _, _, _, _, _, _, ⟨_, _, _, fired⟩⟩ | ⟨q, staged, pass⟩
  · rw [fired, off]
    simp [NoQuotaHeaders, Decision.throttled]
  · have none : q = none := Evaluating.throttleStage_keeps_quota (Or.inr off) _ r staged
    rw [pass, none]
    simp [NoQuotaHeaders, Decision.pass]

end Firewall

/-- Rate-limit headers come from the right throttle. For a decision that reaches the throttles,
    with the store it finds there: with rate-limit headers on, a pass carries exactly the quota
    of the first throttle with a key for the request, as its own count read it, or no header when
    no throttle has a key; a throttled decision carries the throttle markers and the quota of the
    throttle that fired, with nothing remaining and the wait read after its count as both the
    retry delay and the reset, whatever the throttles before it captured; and with rate-limit
    headers off, no decision carries any of them. -/
theorem rate_limit_headers_from_deciding_throttle (fw : Firewall) (req : Request) (now : Nat)
    (r : Run) (reached : (Evaluating.throttlesReached req []).run { fw, now } = (.inr none, r)) :
    PassReportsFirstQuota fw req now r (fw.decide req now).1 ∧
      ThrottleReportsOwnQuota fw req now r (fw.decide req now).1 ∧
      (fw.options.rateLimitHeaders = false → NoQuotaHeaders (fw.decide req now).1) :=
  ⟨Firewall.passReportsFirstQuota reached, Firewall.throttleReportsOwnQuota reached,
    Firewall.noQuotaHeaders reached⟩

/-- Two throttles, by address and by path, and a request with no address: the pipeline reaches
    the throttles with nothing counted, and the path throttle is the first with a key. -/
theorem rate_limit_headers_from_deciding_throttle_path :
    let fw : Firewall :=
      { rules := { throttles := [⟨"by-ip", 10, 60, .ip⟩, ⟨"by-path", 2, 60, .path⟩] },
        options := { rateLimitHeaders := true } }
    let req : Request := { path := "/api" }
    (Evaluating.throttlesReached req []).run { fw, now := 1000000 } =
        (.inr none, { fw, now := 1000000 }) ∧
      PassReportsFirstQuota fw req 1000000 { fw, now := 1000000 } (fw.decide req 1000000).1 ∧
      ThrottleReportsOwnQuota fw req 1000000 { fw, now := 1000000 } (fw.decide req 1000000).1 ∧
      (fw.options.rateLimitHeaders = false → NoQuotaHeaders (fw.decide req 1000000).1) := by
  intro fw req
  have reached : (Evaluating.throttlesReached req []).run { fw, now := 1000000 } =
      (.inr none, { fw, now := 1000000 }) := rfl
  exact ⟨reached, rate_limit_headers_from_deciding_throttle fw req 1000000 _ reached⟩

example :
    let fw : Firewall :=
      { rules := { throttles := [⟨"by-ip", 10, 60, .ip⟩, ⟨"by-path", 2, 60, .path⟩] },
        options := { rateLimitHeaders := true } }
    (fw.decide { path := "/api" } 1000000).1.headers =
      [("X-RateLimit-Limit", "2"), ("X-RateLimit-Remaining", "1"), ("X-RateLimit-Reset", "20")] := by
  decide +kernel

end RequestFirewall
