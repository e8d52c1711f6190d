import RequestFirewall.Proofs.Replay
/- Throttles and tracks over whole runs. A throttle counts every decision that reaches it with a
   key, in the counter of that key; a track counts every decision its filter matches with a key.
   Each counter lives at its own store key. When no other rule of the same kind can write there,
   the count a decision sees is the number of decisions counted at that store key in the current
   window since the last clear, itself included: the `i`-th such decision is throttled exactly
   when `i` exceeds the limit, and otherwise passes on with `limit - i` left, and a track's event
   carries `i`. Clearing goes by store key, so a reset for a rule or key that normalizes to the
   same text clears the same counter. -/
namespace RequestFirewall

/-- Whether a decision reaches the throttle `rule` that follows `before` with a key that
    normalizes as `key` does. -/
def reachesThrottle (before : List ThrottleRule) (rule : ThrottleRule) (key : String)
    (fw : Firewall) (req : Request) (now : Nat) : Bool :=
  ((Evaluating.throttlesReached req before).run { fw, now }).1.isRight &&
    (rule.key.extract req).any fun k => normalizeKey k == normalizeKey key

def tracksRequest (rule : TrackRule) (key : String) (req : Request) : Bool :=
  rule.filter.holds req && (rule.key.extract req).any fun k => normalizeKey k == normalizeKey key

namespace Firewall

/-- The decisions of a run that the throttle `rule`, after the throttles `before`, counted for
    `key`, in the window of `now` since its counter was last cleared. -/
def throttleTally (start : Firewall) (before : List ThrottleRule) (rule : ThrottleRule)
    (key : String) (now : Nat) (calls : List Call) : Nat :=
  windowTally rule.period now
    (start.touches (reachesThrottle before rule key) (start.storeKey .throttle rule.name key) calls)

def trackTally (start : Firewall) (rule : TrackRule) (key : String) (now : Nat)
    (calls : List Call) : Nat :=
  windowTally rule.period now (start.touches (fun _ req _ => tracksRequest rule key req)
    (start.storeKey .track rule.name key) calls)

end Firewall

namespace Evaluating

theorem throttleStep_run_of_key (headersOn : Bool) {req : Request} {rule : ThrottleRule}
    (quota : Option RateLimitInfo) {r : Run} (native : r.fw.store.kind = .native) {key : String}
    (keyed : rule.key.extract req = some key) {counted : Nat × Slot}
    (counting : countSlot (r.fw.store.slot (StoreKey.render ⟨r.fw.options.keyPrefix, .throttle,
      rule.name, key⟩)) rule.period r.now = counted) :
    (counted.1 ≤ Word.max → ∃ retryAfter, ((throttleStep headersOn req rule quota).run r).1 =
        if rule.limit < counted.1 then
          .inl (Decision.throttled rule.name retryAfter
            (if headersOn then some ⟨rule.limit, rule.limit - counted.1, Nat.max retryAfter 1⟩
            else none))
        else if headersOn && quota.isNone then
          .inr (some ⟨rule.limit, rule.limit - counted.1, Nat.max retryAfter 1⟩)
        else .inr quota) ∧
      ((throttleStep headersOn req rule quota).run r).2.fw.store.slot
        (StoreKey.render ⟨r.fw.options.keyPrefix, .throttle, rule.name, key⟩) =
          countedSlot (r.fw.store.slot (StoreKey.render ⟨r.fw.options.keyPrefix, .throttle, rule.name,
            key⟩)) rule.period r.now := by
  unfold throttleStep
  rw [keyed]
  simp only [run_bind, run_storeKey, run_onStore, CounterStore.increment_eq_countSlot native, countedSlot,
    counting]
  by_cases fits : counted.1 ≤ Word.max
  · simp only [if_pos fits, CounterStore.ttlRemaining_of_memory, native]
    generalize MemoryStore.ttlRemaining _ _ _ = retryAfter
    refine ⟨fun _ => ⟨retryAfter, ?_⟩, ?_⟩
    · split
      · rfl
      · split <;> rfl
    · split
      · exact Table.find?_insert_self _ _ _
      · split <;> exact Table.find?_insert_self _ _ _
  · simp only [if_neg fits, CounterStore.ttlRemaining_of_memory, CounterStore.overflow_kind, native]
    refine ⟨fun past => absurd past fits, ?_⟩
    split
    · rfl
    · split <;> rfl

theorem trackStep_run_of_key {req : Request} {rule : TrackRule} {r : Run}
    (native : r.fw.store.kind = .native) (holds : rule.filter.holds req = true) {key : String}
    (keyed : rule.key.extract req = some key) {counted : Nat × Slot}
    (counting : countSlot (r.fw.store.slot (StoreKey.render ⟨r.fw.options.keyPrefix, .track,
      rule.name, key⟩)) rule.period r.now = counted) :
    (counted.1 ≤ Word.max → ((trackStep req rule).run r).2.events =
        r.events.push (.trackHit rule.name key counted.1 rule.period)) ∧
      ((trackStep req rule).run r).2.fw.store.slot
        (StoreKey.render ⟨r.fw.options.keyPrefix, .track, rule.name, key⟩) =
          countedSlot (r.fw.store.slot (StoreKey.render ⟨r.fw.options.keyPrefix, .track, rule.name,
            key⟩)) rule.period r.now := by
  unfold trackStep
  rw [if_pos holds, keyed]
  simp only [run_bind, run_storeKey, run_onStore, CounterStore.increment_eq_countSlot native, countedSlot,
    counting]
  by_cases fits : counted.1 ≤ Word.max
  · simp only [if_pos fits]
    exact ⟨fun _ => rfl, Table.find?_insert_self _ _ _⟩
  · simp only [if_neg fits]
    exact ⟨fun past => absurd past fits, rfl⟩

end Evaluating

section Throttle

variable {fw : Firewall} {before after : List ThrottleRule} {rule : ThrottleRule} {key : String}

theorem throttle_counter_apart (pre rule key : String) :
    (∀ r : TrackRule, Elsewhere pre .track r.name (StoreKey.render ⟨pre, .throttle, rule, key⟩)) ∧
      (∀ r : Fail2BanRule, Elsewhere pre .fail2banBan r.name (StoreKey.render ⟨pre, .throttle, rule, key⟩) ∧
        Elsewhere pre .fail2banFail r.name (StoreKey.render ⟨pre, .throttle, rule, key⟩)) :=
  ⟨fun _ => elsewhere_of_kind_ne (by decide) _ _ _ _,
    fun _ => ⟨elsewhere_of_kind_ne (by decide) _ _ _ _, elsewhere_of_kind_ne (by decide) _ _ _ _⟩⟩

theorem decide_slot_of_throttle (native : fw.store.kind = .native)
    (split : fw.rules.throttles = before ++ rule :: after)
    (owned : ∀ other ∈ before ++ after,
      Elsewhere fw.options.keyPrefix .throttle other.name (fw.storeKey .throttle rule.name key))
    (req : Request) (now : Nat) :
    (fw.decide req now).2.2.store.slot (fw.storeKey .throttle rule.name key) =
      if reachesThrottle before rule key fw req now then
        countedSlot (fw.store.slot (fw.storeKey .throttle rule.name key)) rule.period now
      else fw.store.slot (fw.storeKey .throttle rule.name key) := by
  have apart := throttle_counter_apart fw.options.keyPrefix rule.name key
  have ownedAfter : ∀ other ∈ after, Elsewhere fw.options.keyPrefix .throttle other.name
      (fw.storeKey .throttle rule.name key) := fun other mem => owned other (List.mem_append_right _ mem)
  have avoidsTail := @Evaluating.afterThrottle_avoids fw.rules fw.options _ req
    fw.options.rateLimitHeaders after ownedAfter
  show ((Evaluating.decide req).run { fw, now }).2.fw.store.slot _ = _
  rw [Evaluating.decide_run_of_throttles
    (show ({ fw, now } : Run).fw.rules.throttles = before ++ rule :: after from split),
    Evaluating.run_bind]
  unfold reachesThrottle
  have reachAvoids := Evaluating.throttlesReached_avoids req (fun r _ => apart.1 r)
    (fun r _ => apart.2 r) (fun other mem => owned other (List.mem_append_left _ mem))
    { fw, now } rfl rfl
  have reachKeeps := Evaluating.throttlesReached_steady req before { fw, now }
  generalize (Evaluating.throttlesReached req before).run { fw, now } = reached at reachAvoids reachKeeps
  obtain ⟨res, r₃⟩ := reached
  dsimp only at reachAvoids reachKeeps ⊢
  replace reachAvoids : r₃.fw.store.slot (fw.storeKey .throttle rule.name key) =
      fw.store.slot (fw.storeKey .throttle rule.name key) := reachAvoids
  cases res with
  | inl d => exact reachAvoids
  | inr quota =>
    simp only [Sum.isRight_inr, Bool.true_and]
    rw [Evaluating.fromThrottles_cons, Evaluating.run_bind]
    cases keyed : rule.key.extract req with
    | none =>
      have step : (Evaluating.throttleStep fw.options.rateLimitHeaders req rule quota).run r₃ =
          (.inr quota, r₃) := by
        simp only [Evaluating.throttleStep, keyed]
        rfl
      rw [step]
      simp only [Option.any_none, Bool.false_eq_true, if_false]
      exact (avoidsTail (.inr quota) r₃ reachKeeps.rules reachKeeps.options).trans reachAvoids
    | some found =>
      have stepKeeps := Evaluating.throttleStep_steady fw.options.rateLimitHeaders req rule quota r₃
      have tail := avoidsTail ((Evaluating.throttleStep fw.options.rateLimitHeaders req rule quota).run r₃).1
        _ (stepKeeps.rules.trans reachKeeps.rules) (stepKeeps.options.trans reachKeeps.options)
      by_cases same : normalizeKey found = normalizeKey key
      · -- the decision counts at this throttle's counter
        have address : StoreKey.render ⟨r₃.fw.options.keyPrefix, .throttle, rule.name, found⟩ =
            fw.storeKey .throttle rule.name key := by
          rw [reachKeeps.options, Firewall.storeKey, StoreKey.render_key_eq_iff]
          exact same
        obtain ⟨-, counted⟩ := Evaluating.throttleStep_run_of_key fw.options.rateLimitHeaders quota
          (reachKeeps.kind.trans native) keyed rfl
        rw [address, reachAvoids, reachKeeps.now] at counted
        rw [if_pos (by simp [same])]
        exact tail.trans counted
      · -- another key of this throttle: its counter is elsewhere
        have elsewhere : fw.storeKey .throttle rule.name key ≠
            StoreKey.render ⟨fw.options.keyPrefix, .throttle, rule.name, found⟩ := by
          rw [Firewall.storeKey, Ne, StoreKey.render_key_eq_iff]
          exact fun h => same h.symm
        have stepAvoids := Evaluating.throttleStep_avoids req fw.options.rateLimitHeaders
          (fun found' keyed' => by
            rw [keyed] at keyed'
            cases keyed'
            exact elsewhere) quota r₃ reachKeeps.rules reachKeeps.options
        rw [if_neg (by simp [same])]
        exact tail.trans (stepAvoids.trans reachAvoids)

end Throttle

section Track

variable {fw : Firewall} {before after : List TrackRule} {rule : TrackRule} {key : String}

theorem track_counter_apart (pre rule key : String) :
    (∀ r : Fail2BanRule, Elsewhere pre .fail2banBan r.name (StoreKey.render ⟨pre, .track, rule, key⟩) ∧
        Elsewhere pre .fail2banFail r.name (StoreKey.render ⟨pre, .track, rule, key⟩)) ∧
      (∀ r : ThrottleRule, Elsewhere pre .throttle r.name (StoreKey.render ⟨pre, .track, rule, key⟩)) :=
  ⟨fun _ => ⟨elsewhere_of_kind_ne (by decide) _ _ _ _, elsewhere_of_kind_ne (by decide) _ _ _ _⟩,
    fun _ => elsewhere_of_kind_ne (by decide) _ _ _ _⟩

theorem trackStep_avoids_of_not_tracks {rules : RuleSet} {options : FirewallOptions} {req : Request}
    (skipped : tracksRequest rule key req = false) :
    Evaluating.Avoids rules options (StoreKey.render ⟨options.keyPrefix, .track, rule.name, key⟩)
      (Evaluating.trackStep req rule) := by
  cases holds : rule.filter.holds req with
  | false =>
    unfold Evaluating.trackStep
    rw [if_neg (by simp [holds])]
    exact Evaluating.Avoids.pure' ()
  | true =>
    refine Evaluating.trackStep_avoids req fun found keyed same => ?_
    rw [StoreKey.render_key_eq_iff] at same
    simp [tracksRequest, holds, keyed, same] at skipped

theorem decide_slot_of_track (native : fw.store.kind = .native)
    (split : fw.rules.tracks = before ++ rule :: after)
    (owned : ∀ other ∈ before ++ after,
      Elsewhere fw.options.keyPrefix .track other.name (fw.storeKey .track rule.name key))
    (req : Request) (now : Nat) :
    (fw.decide req now).2.2.store.slot (fw.storeKey .track rule.name key) =
      if tracksRequest rule key req then
        countedSlot (fw.store.slot (fw.storeKey .track rule.name key)) rule.period now
      else fw.store.slot (fw.storeKey .track rule.name key) := by
  have apart := track_counter_apart fw.options.keyPrefix rule.name key
  show ((Evaluating.decide req).run { fw, now }).2.fw.store.slot _ = _
  rw [Evaluating.decide_run_of_tracks
    (show ({ fw, now } : Run).fw.rules.tracks = before ++ rule :: after from split), Evaluating.run_bind,
    Evaluating.fromTracks_cons, Evaluating.run_bind]
  have beforeAvoids := Evaluating.trackStage_avoids req
    (fun other mem => owned other (List.mem_append_left _ mem)) { fw, now } rfl rfl
  have beforeKeeps := Evaluating.trackStage_steady req before { fw, now }
  generalize ((Evaluating.trackStage req before).run { fw, now }).2 = r₁ at beforeAvoids beforeKeeps
  have stepKeeps := Evaluating.trackStep_steady req rule r₁
  have tail := Evaluating.fromTracks_avoids req
    (fun other mem => owned other (List.mem_append_right _ mem))
    (fun r _ => apart.1 r) (fun r _ => apart.2 r) ((Evaluating.trackStep req rule).run r₁).2
    (stepKeeps.rules.trans beforeKeeps.rules) (stepKeeps.options.trans beforeKeeps.options)
  replace beforeAvoids : r₁.fw.store.slot (fw.storeKey .track rule.name key) =
      fw.store.slot (fw.storeKey .track rule.name key) := beforeAvoids
  cases counts : tracksRequest rule key req with
  | true =>
    simp only [tracksRequest, Bool.and_eq_true, Option.any_eq_true, beq_iff_eq] at counts
    obtain ⟨holds, found, keyed, same⟩ := counts
    have address : StoreKey.render ⟨r₁.fw.options.keyPrefix, .track, rule.name, found⟩ =
        fw.storeKey .track rule.name key := by
      rw [beforeKeeps.options, Firewall.storeKey, StoreKey.render_key_eq_iff]
      exact same
    obtain ⟨-, counted⟩ := Evaluating.trackStep_run_of_key (beforeKeeps.kind.trans native) holds
      keyed rfl
    rw [address, beforeAvoids, beforeKeeps.now] at counted
    rw [if_pos rfl]
    exact tail.trans counted
  | false =>
    have stepAvoids := trackStep_avoids_of_not_tracks counts r₁ beforeKeeps.rules beforeKeeps.options
    exact tail.trans (stepAvoids.trans beforeAvoids)

end Track

theorem create_slot (rules : RuleSet) (options : FirewallOptions) (a : String) :
    (Firewall.create rules {} options).store.slot a = none := rfl

section Runs

variable {rules : RuleSet} {options : FirewallOptions} {calls : List Call} {req : Request}
  {now : Nat}

/-- After any run, the throttle `rule` counts a decision that reaches it for `key` as the tally of
    its window, when no other throttle of the set addresses its counter. -/
theorem throttle_count_of_run {before after : List ThrottleRule} {rule : ThrottleRule} {key : String}
    (split : rules.throttles = before ++ rule :: after)
    (owned : ∀ other ∈ before ++ after, Elsewhere options.keyPrefix .throttle other.name
      ((Firewall.create rules {} options).storeKey .throttle rule.name key))
    (clocked : Clocked (.decide req now :: calls)) :
    (countSlot (((Firewall.create rules {} options).replay calls).store.slot
        ((Firewall.create rules {} options).storeKey .throttle rule.name key)) rule.period now).1 =
      min (windowTally rule.period now (.count now :: (Firewall.create rules {} options).touches
        (reachesThrottle before rule key) ((Firewall.create rules {} options).storeKey .throttle
          rule.name key) calls)) (Word.max + 1) := by
  refine countSlot_replay (create_slot rules options _) (show StoreKind.native ≠ .failOpen by decide)
    (fun r => elsewhere_of_kind_ne (by decide) _ _ _ _) (fun fw setup req now => ?_) clocked
  have owned' : ∀ other ∈ before ++ after, Elsewhere fw.options.keyPrefix .throttle other.name
      (fw.storeKey .throttle rule.name key) := by
    rw [Firewall.storeKey, setup.options]
    exact owned
  rw [← setup.options]
  exact decide_slot_of_throttle setup.kind (setup.rules ▸ split) owned' req now

theorem track_count_of_run {before after : List TrackRule} {rule : TrackRule} {key : String}
    (split : rules.tracks = before ++ rule :: after)
    (owned : ∀ other ∈ before ++ after, Elsewhere options.keyPrefix .track other.name
      ((Firewall.create rules {} options).storeKey .track rule.name key))
    (clocked : Clocked (.decide req now :: calls)) :
    (countSlot (((Firewall.create rules {} options).replay calls).store.slot
        ((Firewall.create rules {} options).storeKey .track rule.name key)) rule.period now).1 =
      min (windowTally rule.period now (.count now :: (Firewall.create rules {} options).touches
        (fun _ req _ => tracksRequest rule key req) ((Firewall.create rules {} options).storeKey .track
          rule.name key) calls)) (Word.max + 1) := by
  refine countSlot_replay (create_slot rules options _) (show StoreKind.native ≠ .failOpen by decide)
    (fun r => elsewhere_of_kind_ne (by decide) _ _ _ _) (fun fw setup req now => ?_) clocked
  have owned' : ∀ other ∈ before ++ after, Elsewhere fw.options.keyPrefix .track other.name
      (fw.storeKey .track rule.name key) := by
    rw [Firewall.storeKey, setup.options]
    exact owned
  rw [← setup.options]
  exact decide_slot_of_track setup.kind (setup.rules ▸ split) owned' req now

/-- A decision that reaches the throttle `rule` with a key normalizing as `k` does is the `i`-th
    it counted for `k` in the window since the counter was last cleared: throttled exactly when
    `i` exceeds the limit, and otherwise passed on with `limit - i` left. -/
theorem throttle_law {before after : List ThrottleRule} {rule : ThrottleRule} {k key : String}
    {quota : Option RateLimitInfo} {r : Run}
    (split : rules.throttles = before ++ rule :: after)
    (owned : ∀ other ∈ before ++ after, Elsewhere options.keyPrefix .throttle other.name
      ((Firewall.create rules {} options).storeKey .throttle rule.name k))
    (clocked : Clocked (.decide req now :: calls))
    (reached : (Evaluating.throttlesReached req before).run
      { fw := (Firewall.create rules {} options).replay calls, now } = (.inr quota, r))
    (keyed : rule.key.extract req = some key) (same : normalizeKey key = normalizeKey k)
    (fits : (Firewall.create rules {} options).throttleTally before rule k now
      (.decide req now :: calls) ≤ Word.max) :
    ∃ retryAfter, ((Evaluating.throttleStep options.rateLimitHeaders req rule quota).run r).1 =
      let i := (Firewall.create rules {} options).throttleTally before rule k now
        (.decide req now :: calls)
      if rule.limit < i then
        .inl (Decision.throttled rule.name retryAfter
          (if options.rateLimitHeaders then some ⟨rule.limit, rule.limit - i, Nat.max retryAfter 1⟩
          else none))
      else if options.rateLimitHeaders && quota.isNone then
        .inr (some ⟨rule.limit, rule.limit - i, Nat.max retryAfter 1⟩)
      else .inr quota := by
  set start := Firewall.create rules {} options
  set fw := start.replay calls
  have setup := Firewall.sameSetup_replay start calls
  have apart := throttle_counter_apart options.keyPrefix rule.name k
  -- the call reaches the throttle with the key, so the run's history ends in its own count
  have counts : reachesThrottle before rule k fw req now = true := by
    simp [reachesThrottle, reached, keyed, same]
  have tally : start.throttleTally before rule k now (.decide req now :: calls) =
      windowTally rule.period now (.count now :: start.touches (reachesThrottle before rule k)
        (start.storeKey .throttle rule.name k) calls) := by
    simp only [Firewall.throttleTally, Firewall.touches, Call.touch]
    rw [if_pos counts]
  have reachAvoids := Evaluating.throttlesReached_avoids req
    (fun r _ => apart.1 r) (fun r _ => apart.2 r) (fun other mem => owned other (List.mem_append_left _ mem))
    { fw, now } setup.rules setup.options
  have reachKeeps := Evaluating.throttlesReached_steady req before { fw, now }
  rw [reached] at reachAvoids reachKeeps
  have address : StoreKey.render ⟨r.fw.options.keyPrefix, .throttle, rule.name, key⟩ =
      start.storeKey .throttle rule.name k := by
    rw [reachKeeps.options, setup.options, Firewall.storeKey, StoreKey.render_key_eq_iff]
    exact same
  have counting : countSlot (r.fw.store.slot (StoreKey.render ⟨r.fw.options.keyPrefix, .throttle,
      rule.name, key⟩)) rule.period r.now = countSlot (fw.store.slot (start.storeKey .throttle rule.name k))
        rule.period now := by
    rw [address, reachKeeps.now]
    exact congrArg (countSlot · rule.period now) reachAvoids
  have count := throttle_count_of_run split owned clocked
  rw [← tally, Nat.min_eq_left (Nat.le_succ_of_le fits)] at count
  obtain ⟨retryAfter, outcome⟩ := (Evaluating.throttleStep_run_of_key options.rateLimitHeaders
    quota (reachKeeps.kind.trans setup.kind) keyed counting).1 (count ▸ fits)
  refine ⟨retryAfter, ?_⟩
  rw [outcome, count]

/-- A track whose filter holds for a decision with a key normalizing as `k` does reports, in
    its event, how many decisions it counted for `k` in the current window, this one included. -/
theorem track_law {before after : List TrackRule} {rule : TrackRule} {k key : String}
    (split : rules.tracks = before ++ rule :: after)
    (owned : ∀ other ∈ before ++ after, Elsewhere options.keyPrefix .track other.name
      ((Firewall.create rules {} options).storeKey .track rule.name k))
    (clocked : Clocked (.decide req now :: calls))
    (holds : rule.filter.holds req = true) (keyed : rule.key.extract req = some key)
    (same : normalizeKey key = normalizeKey k)
    (fits : (Firewall.create rules {} options).trackTally rule k now (.decide req now :: calls) ≤
      Word.max) :
    ((Evaluating.trackStep req rule).run ((Evaluating.trackStage req before).run
        { fw := (Firewall.create rules {} options).replay calls, now }).2).2.events =
      ((Evaluating.trackStage req before).run
          { fw := (Firewall.create rules {} options).replay calls, now }).2.events.push
        (.trackHit rule.name key ((Firewall.create rules {} options).trackTally rule k now
          (.decide req now :: calls)) rule.period) := by
  set start := Firewall.create rules {} options
  set fw := start.replay calls
  have setup := Firewall.sameSetup_replay start calls
  have tally : start.trackTally rule k now (.decide req now :: calls) =
      windowTally rule.period now (.count now :: start.touches (fun _ req _ => tracksRequest rule k req)
        (start.storeKey .track rule.name k) calls) := by
    have counts : tracksRequest rule k req = true := by simp [tracksRequest, holds, keyed, same]
    simp only [Firewall.trackTally, Firewall.touches, Call.touch, counts, if_true]
  have beforeAvoids := Evaluating.trackStage_avoids req
    (fun other mem => owned other (List.mem_append_left _ mem)) { fw, now } setup.rules setup.options
  have beforeKeeps := Evaluating.trackStage_steady req before { fw, now }
  generalize ((Evaluating.trackStage req before).run { fw, now }).2 = r₁ at beforeAvoids beforeKeeps ⊢
  have address : StoreKey.render ⟨r₁.fw.options.keyPrefix, .track, rule.name, key⟩ =
      start.storeKey .track rule.name k := by
    rw [beforeKeeps.options, setup.options, Firewall.storeKey, StoreKey.render_key_eq_iff]
    exact same
  have counting : countSlot (r₁.fw.store.slot (StoreKey.render ⟨r₁.fw.options.keyPrefix, .track,
      rule.name, key⟩)) rule.period r₁.now = countSlot (fw.store.slot (start.storeKey .track rule.name k))
        rule.period now := by
    rw [address, beforeKeeps.now]
    exact congrArg (countSlot · rule.period now) beforeAvoids
  have count := track_count_of_run split owned clocked
  rw [← tally, Nat.min_eq_left (Nat.le_succ_of_le fits)] at count
  rw [(Evaluating.trackStep_run_of_key (beforeKeeps.kind.trans setup.kind) holds keyed counting).1
    (count ▸ fits), count]

/-- Fixed-window counting over whole runs from an empty memory store whose clock goes forward
    below the largest word. A decision that reaches the throttle `rule` with a key normalizing as
    `k` does is throttled by it exactly when it is the `i`-th such decision of its window since
    the counter was last cleared and `i` exceeds the limit, and otherwise passes on with
    `limit - i` left; the event of a track whose filter holds carries the `i`-th count of its
    window. Each rule must be alone among its kind at its own store keys. -/
theorem fixed_window_counts {rules : RuleSet} {options : FirewallOptions} {calls : List Call}
    {req : Request} {now : Nat} (clocked : Clocked (.decide req now :: calls)) :
    (∀ {before after : List ThrottleRule} {rule : ThrottleRule} {k key : String}
        {quota : Option RateLimitInfo} {r : Run},
      rules.throttles = before ++ rule :: after →
      (∀ other ∈ before ++ after, Elsewhere options.keyPrefix .throttle other.name
        ((Firewall.create rules {} options).storeKey .throttle rule.name k)) →
      (Evaluating.throttlesReached req before).run
        { fw := (Firewall.create rules {} options).replay calls, now } = (.inr quota, r) →
      rule.key.extract req = some key → normalizeKey key = normalizeKey k →
      (Firewall.create rules {} options).throttleTally before rule k now
        (.decide req now :: calls) ≤ Word.max →
      ∃ retryAfter, ((Evaluating.throttleStep options.rateLimitHeaders req rule quota).run r).1 =
        let i := (Firewall.create rules {} options).throttleTally before rule k now
          (.decide req now :: calls)
        if rule.limit < i then
          .inl (Decision.throttled rule.name retryAfter
            (if options.rateLimitHeaders then some ⟨rule.limit, rule.limit - i, Nat.max retryAfter 1⟩
            else none))
        else if options.rateLimitHeaders && quota.isNone then
          .inr (some ⟨rule.limit, rule.limit - i, Nat.max retryAfter 1⟩)
        else .inr quota) ∧
    (∀ {before after : List TrackRule} {rule : TrackRule} {k key : String},
      rules.tracks = before ++ rule :: after →
      (∀ other ∈ before ++ after, Elsewhere options.keyPrefix .track other.name
        ((Firewall.create rules {} options).storeKey .track rule.name k)) →
      rule.filter.holds req = true → rule.key.extract req = some key →
      normalizeKey key = normalizeKey k →
      (Firewall.create rules {} options).trackTally rule k now (.decide req now :: calls) ≤
        Word.max →
      ((Evaluating.trackStep req rule).run ((Evaluating.trackStage req before).run
          { fw := (Firewall.create rules {} options).replay calls, now }).2).2.events =
        ((Evaluating.trackStage req before).run
            { fw := (Firewall.create rules {} options).replay calls, now }).2.events.push
          (.trackHit rule.name key ((Firewall.create rules {} options).trackTally rule k now
            (.decide req now :: calls)) rule.period)) :=
  ⟨fun split owned reached keyed same fits =>
      throttle_law split owned clocked reached keyed same fits,
    fun split owned holds keyed same fits => track_law split owned clocked holds keyed same fits⟩

/-- Two requests for `/login` within a minute under a limit of one: the second is the second
    count of its window and is throttled; a track counting `/login` reports the first count. -/
theorem fixed_window_counts_login :
    Clocked [.decide { path := "/login" } 1000, .decide { path := "/login" } 500] ∧
      (∃ retryAfter, ((Evaluating.throttleStep false { path := "/login" } ⟨"login", 1, 60, .path⟩
          none).run
            { fw := (Firewall.create { throttles := [⟨"login", 1, 60, .path⟩] } {} {}).replay
                [.decide { path := "/login" } 500],
              now := 1000 }).1 =
        .inl (Decision.throttled "login" retryAfter none)) ∧
      ((Evaluating.trackStep { path := "/login" } ⟨"seen", 60, .always, .path⟩).run
          { fw := Firewall.create { tracks := [⟨"seen", 60, .always, .path⟩] } {} {}, now := 1000 }).2.events =
        #[.trackHit "seen" "/login" 1 60] := by
  have clocked : Clocked [.decide ({ path := "/login" } : Request) 1000, .decide { path := "/login" } 500] := by
    simp [Clocked, Call.clock?, Word.max]
  obtain ⟨throttles, -⟩ := @fixed_window_counts { throttles := [⟨"login", 1, 60, .path⟩] } {}
    [.decide { path := "/login" } 500] { path := "/login" } 1000 clocked
  have law := @throttles [] [] ⟨"login", 1, 60, .path⟩ "/login" "/login" none
    { fw := (Firewall.create { throttles := [⟨"login", 1, 60, .path⟩] } {} {}).replay
        [.decide { path := "/login" } 500],
      now := 1000 }
    rfl (by simp) rfl rfl rfl (by decide)
  obtain ⟨-, tracks⟩ := @fixed_window_counts { tracks := [⟨"seen", 60, .always, .path⟩] } {} []
    { path := "/login" } 1000 (by simp [Clocked, Call.clock?, Word.max])
  have track := @tracks [] [] ⟨"seen", 60, .always, .path⟩ "/login" "/login" rfl (by simp) rfl rfl rfl
    (by decide)
  refine ⟨clocked, ?_, ?_⟩
  · obtain ⟨retryAfter, outcome⟩ := law
    have tally : (Firewall.create { throttles := [⟨"login", 1, 60, .path⟩] } {} {}).throttleTally []
        ⟨"login", 1, 60, .path⟩ "/login" 1000
        [.decide { path := "/login" } 1000, .decide { path := "/login" } 500] = 2 := by
      decide
    refine ⟨retryAfter, ?_⟩
    rw [outcome, tally]
    rfl
  · exact track.trans (by decide)

/-- Counters are told apart by store key, not by rule name. Two throttles whose names differ
    but normalize alike share one counter, so the very first request is throttled by the second
    of them; and a reset for ` t` clears the counter of `t`, so the third request for `/x` in one
    window passes. -/
theorem throttle_counter_shared_by_name :
    " t" ≠ "t" ∧ normalizeKey " t" = normalizeKey "t" ∧
      ((Firewall.create { throttles := [⟨"t", 1, 60, .path⟩, ⟨" t", 1, 60, .path⟩] } {} {}).decide
          { path := "/x" } 0).1 = Decision.throttled " t" 60 none ∧
      (((Firewall.create { throttles := [⟨"t", 1, 60, .path⟩] } {} {}).replay
          [.resetThrottle " t" "/x", .decide { path := "/x" } 1000, .decide { path := "/x" } 0]).decide
        { path := "/x" } 2000).1 = Decision.pass none := by
  decide

end Runs

end RequestFirewall
