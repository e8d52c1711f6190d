import RequestFirewall.Proofs.CounterRecords
/- Retry delays. Right after a count, the counter's deadline lies strictly after the clock
   reading and no later than the end of the window that holds it: a fresh or expired counter
   takes the window's end, a live one keeps the earlier of its own deadline and the window's end,
   so a lasting value or a deadline past the window is brought down to it. Rounded up to whole
   seconds, the time left is then at least one and at most the period, on the memory store and on
   a records store alike, unless the count overflows the word and stops the store; a count that
   overflows answers 0 and so throttles nothing. A throttle with a positive period, as in every
   rule set that validates, therefore asks a throttled client to wait between one second and its
   period, and with rate-limit headers on reports that delay again as the reset of its quota. -/
namespace RequestFirewall

theorem windowDeadline_le_add (period now : Nat) :
    windowDeadline period now ≤ now + 1000 * Nat.max period 1 := by
  generalize hp : Nat.max period 1 = p
  have floor : now / 1000 / p * p ≤ now / 1000 := Nat.div_mul_le_self _ p
  calc windowDeadline period now
      ≤ windowEnd (now / 1000) period * 1000 := Nat.min_le_left _ _
    _ ≤ (now / 1000 / p * p + p) * 1000 := by
        rw [windowEnd, hp]
        exact Nat.mul_le_mul_right 1000 (Nat.min_le_left _ _)
    _ ≤ now + 1000 * p := by
        generalize now / 1000 / p * p = start at floor
        omega

theorem ceilSecsUntil_within {d now period : Nat} (after : now < d)
    (before : d ≤ windowDeadline period now) :
    1 ≤ ceilSecsUntil d now ∧ ceilSecsUntil d now ≤ Nat.max period 1 := by
  have span := windowDeadline_le_add period now
  generalize Nat.max period 1 = p at span ⊢
  unfold ceilSecsUntil Word.divCeil
  constructor <;> split <;> omega

theorem countSlot_deadline (found : Option Slot) (period : Nat) {now : Nat} (below : now < Word.max) :
    ∃ d, (countSlot found period now).2.deadline = some d ∧ now < d ∧ d ≤ windowDeadline period now := by
  have live : now < windowDeadline period now := lt_windowDeadline below
  unfold countSlot MemoryStore.counterBase
  cases found with
  | none => exact ⟨_, rfl, live, Nat.le_refl _⟩
  | some s =>
    dsimp only
    split
    · exact ⟨_, rfl, live, Nat.le_refl _⟩
    · rename_i unexpired
      split
      · exact ⟨_, rfl, live, Nat.le_refl _⟩
      · rename_i d₀ kept
        split
        · exact ⟨_, rfl, live, Nat.le_refl _⟩
        · rename_i later
          have ahead : now < d₀ := by simpa [Slot.expired, kept] using unexpired
          exact ⟨d₀, kept, ahead, Nat.not_lt.mp later⟩

theorem MemoryStore.ttlRemaining_of_deadline {m : MemoryStore} {key : String} {slot : Slot} {d : Nat}
    (found : m.slots.find? key = some slot) (deadline : slot.deadline = some d) (now : Nat) :
    m.ttlRemaining key now = if now < d then ceilSecsUntil d now else 0 := by
  obtain ⟨value, _⟩ := slot
  cases deadline
  simp [ttlRemaining, found]

theorem CounterStore.ttlRemaining_after_count_native {s : CounterStore} (native : s.kind = .native)
    (key : String) (period : Nat) {now : Nat} (below : now < Word.max)
    (fits : (countSlot (s.slot key) period now).1 ≤ Word.max) :
    1 ≤ ((s.increment key period now).2.ttlRemaining key now).1 ∧
      ((s.increment key period now).2.ttlRemaining key now).1 ≤ Nat.max period 1 := by
  have slotted := increment_slot_self native key period now
  rw [countedSlot_of_fits fits] at slotted
  obtain ⟨d, deadline, after, before⟩ := countSlot_deadline (s.slot key) period below
  have kept : (s.increment key period now).2.kind = .native := by rw [increment_kind, native]
  rw [ttlRemaining_of_memory key now kept,
    MemoryStore.ttlRemaining_of_deadline slotted deadline now, if_pos after]
  exact ceilSecsUntil_within after before

theorem lt_recordDeadline (r : CounterRecord) {now : Nat} (below : now < Word.max) :
    now < recordDeadline r now := by
  unfold recordDeadline secsToMillis Word.satAdd Word.satMul
  generalize ceilSecsUntil (Nat.min (r.windowEnd * 1000) Word.max) now = ttl
  unfold Nat.min Nat.max
  omega

theorem countRecord_windowEnd (loaded : Option CounterRecord) (period : Nat) {now : Nat}
    (below : now < Word.max) :
    now < secsToMillis (countRecord loaded period now).windowEnd ∧
      secsToMillis (countRecord loaded period now).windowEnd ≤ windowDeadline period now ∧
      (countRecord loaded period now).windowEnd ≤ Word.max := by
  have live : now < windowDeadline period now := lt_windowDeadline below
  suffices ends : now < secsToMillis (countRecord loaded period now).windowEnd ∧
      secsToMillis (countRecord loaded period now).windowEnd ≤ windowDeadline period now from
    ⟨ends.1, ends.2, countRecord_windowEnd_le_max loaded period now⟩
  cases loaded with
  | none => exact ⟨live, Nat.le_refl _⟩
  | some r =>
    by_cases open_ : now < secsToMillis r.windowEnd
    · rw [countRecord_of_live open_]
      simp only [secsToMillis_min]
      exact ⟨Nat.lt_min.mpr ⟨open_, live⟩, Nat.min_le_right _ _⟩
    · rw [countRecord_of_passed (Nat.not_lt.mp open_)]
      exact ⟨live, Nat.le_refl _⟩

theorem loadedAt_written (r : CounterRecord) (deadline now : Nat) :
    loadedAt (some ⟨r.encode, some deadline⟩) now =
      if now < deadline then some (CounterRecord.decode r.encode) else none := by
  by_cases live : now < deadline
  · simp [loadedAt, liveAt, Slot.expired, live]
  · simp [loadedAt, liveAt, Slot.expired, Nat.not_lt.mp live, live]

theorem CounterStore.ttlRemaining_after_count_records {s : CounterStore} (records : s.kind = .records)
    (key : String) (period : Nat) {now : Nat} (below : now < Word.max)
    (fits : (countRecord (loadedAt (s.slot key) now) period now).value ≤ Word.max) :
    1 ≤ ((s.increment key period now).2.ttlRemaining key now).1 ∧
      ((s.increment key period now).2.ttlRemaining key now).1 ≤ Nat.max period 1 := by
  obtain ⟨-, slotted⟩ := increment_of_records key now records period fits
  obtain ⟨after, before, bounded⟩ := countRecord_windowEnd (loadedAt (s.slot key) now) period below
  have kept : (s.increment key period now).2.kind = .records := by rw [increment_kind, records]
  have written := lt_recordDeadline (countRecord (loadedAt (s.slot key) now) period now) below
  rw [(ttlRemaining_of_records key now kept).1, slotted, loadedAt_written, if_pos written,
    CounterRecord.decode_encode fits bounded]
  exact ceilSecsUntil_within after before

/-- Right after a count on a store that counts itself, the time left is between one second and
    the period, unless the count overflowed: then it answered 0 and stopped the store. -/
theorem CounterStore.ttlRemaining_after_count {s : CounterStore} (counting : s.kind ≠ .failOpen)
    (key : String) (period : Nat) {now : Nat} (below : now < Word.max) :
    (1 ≤ ((s.increment key period now).2.ttlRemaining key now).1 ∧
        ((s.increment key period now).2.ttlRemaining key now).1 ≤ Nat.max period 1) ∨
      (s.increment key period now).1 = 0 ∧ (s.increment key period now).2.overflowed = true := by
  cases kind : s.kind with
  | native =>
    by_cases fits : (countSlot (s.slot key) period now).1 ≤ Word.max
    · exact .inl (ttlRemaining_after_count_native kind key period below fits)
    · rw [increment_of_native_overflow kind (Nat.lt_of_not_le fits)]
      exact .inr ⟨rfl, rfl⟩
  | records =>
    by_cases fits : (countRecord (loadedAt (s.slot key) now) period now).value ≤ Word.max
    · exact .inl (ttlRemaining_after_count_records kind key period below fits)
    · rw [increment_of_records_overflow key now kind (Nat.lt_of_not_le fits)]
      exact .inr ⟨rfl, rfl⟩
  | failOpen => exact absurd kind counting

/-- A throttled decision names a throttle of the set and the delay read right after its count,
    within its period, and carries with rate-limit headers on that same delay as its reset. -/
def ThrottledWithin (rules : RuleSet) (headersOn : Bool) (d : Decision) : Prop :=
  d.outcome = .throttled → ∃ rule ∈ rules.throttles, ∃ ttl remaining, ttl ≤ Nat.max rule.period 1 ∧
    d = Decision.throttled rule.name ttl
      (if headersOn then some ⟨rule.limit, remaining, Nat.max ttl 1⟩ else none)

namespace Evaluating

/-- From every state with these rules and options over a store that counts, at a reading below
    the largest word, every answer of `p` satisfies `post`. -/
def Ensures (rules : RuleSet) (options : FirewallOptions) {α : Type} (p : Evaluating α)
    (post : α → Prop) : Prop :=
  ∀ r : Run, r.fw.rules = rules → r.fw.options = options → r.fw.store.kind ≠ .failOpen →
    r.now < Word.max → post (p.run r).1

namespace Ensures

variable {rules : RuleSet} {options : FirewallOptions} {α β : Type} {post : β → Prop}

theorem pure' {x : β} (holds : post x) : Ensures rules options (pure x) post := fun _ _ _ _ _ => holds

theorem anything (p : Evaluating β) : Ensures rules options p fun _ => True := fun _ _ _ _ _ => trivial

theorem bind' {p : Evaluating α} {f : α → Evaluating β} {P : α → Prop} (steady : Steady p)
    (first : Ensures rules options p P) (next : ∀ a, P a → Ensures rules options (f a) post) :
    Ensures rules options (p >>= f) post := by
  intro r sameRules sameOptions counting early
  have keeps := steady r
  exact next _ (first r sameRules sameOptions counting early) (p.run r).2
    (keeps.rules.trans sameRules) (keeps.options.trans sameOptions) (keeps.kind ▸ counting)
    (keeps.now ▸ early)

theorem get_bind {f : Run → Evaluating β}
    (next : ∀ r : Run, r.fw.rules = rules → r.fw.options = options → Ensures rules options (f r) post) :
    Ensures rules options (get >>= f) post :=
  fun r sameRules sameOptions => next r sameRules sameOptions r sameRules sameOptions

theorem storeKey_bind {kind : CounterKind} {rule key : String} {f : String → Evaluating β}
    (next : ∀ k, Ensures rules options (f k) post) :
    Ensures rules options (storeKey kind rule key >>= f) post :=
  fun r => next _ r

theorem onStore_bind {g : CounterStore → Nat → α × CounterStore} {f : α → Evaluating β}
    (keeps : ∀ s now, (g s now).2.kind = s.kind) (next : ∀ x, Ensures rules options (f x) post) :
    Ensures rules options (onStore g >>= f) post := by
  intro r sameRules sameOptions counting early
  exact next _ { r with fw := { r.fw with store := (g r.fw.store r.now).2 } } sameRules sameOptions
    (by rw [keeps]; exact counting) early

theorem hit_bind {c : Category} {rule : Option String} {f : Unit → Evaluating β}
    (next : Ensures rules options (f ()) post) : Ensures rules options (hit c rule >>= f) post :=
  fun _ sameRules sameOptions counting early => next _ sameRules sameOptions counting early

theorem emit_bind {e : FirewallEvent} {f : Unit → Evaluating β}
    (next : Ensures rules options (f ()) post) : Ensures rules options (emit e >>= f) post :=
  fun _ sameRules sameOptions counting early => next _ sameRules sameOptions counting early

theorem count_bind {k : String} {period : Nat} {f : Nat → Nat → Evaluating β}
    (next : ∀ count ttl, (0 < count → ttl ≤ Nat.max period 1) → Ensures rules options (f count ttl) post) :
    Ensures rules options (onStore (fun s now => s.increment k period now) >>= fun count =>
      onStore (fun s now => s.ttlRemaining k now) >>= fun ttl => f count ttl) post := by
  intro r sameRules sameOptions counting early
  have within : 0 < (r.fw.store.increment k period r.now).1 →
      ((r.fw.store.increment k period r.now).2.ttlRemaining k r.now).1 ≤ Nat.max period 1 := by
    intro counted
    rcases CounterStore.ttlRemaining_after_count counting k period early with bounds | ⟨stopped, -⟩
    · exact bounds.2
    · rw [stopped] at counted
      exact absurd counted (Nat.lt_irrefl 0)
  let counted := (r.fw.store.increment k period r.now).2
  refine next _ _ within _ sameRules sameOptions ?_ early
  show (counted.ttlRemaining k r.now).2.kind ≠ .failOpen
  rw [CounterStore.ttlRemaining_kind, CounterStore.increment_kind]
  exact counting

end Ensures

section Stages

variable {rules : RuleSet} {options : FirewallOptions} (req : Request)

open Ensures

def Unthrottled (o : Option Decision) : Prop := ∀ d ∈ o, d.outcome ≠ .throttled

theorem checkSafelists_ensures : Ensures rules options (checkSafelists req) Unthrottled := by
  unfold checkSafelists
  refine get_bind fun _ _ _ => ?_
  split
  · exact hit_bind (emit_bind (pure' (by simp [Unthrottled, Decision.safelisted])))
  · exact pure' (by simp [Unthrottled])

theorem checkBlocklists_ensures : Ensures rules options (checkBlocklists req) Unthrottled := by
  unfold checkBlocklists
  refine get_bind fun _ _ _ => ?_
  dsimp only
  split
  · exact hit_bind (emit_bind (pure' (by simp [Unthrottled, Decision.blocked])))
  · exact pure' (by simp [Unthrottled])

theorem listStage_ensures : Ensures rules options (listStage req) Unthrottled := by
  unfold listStage
  refine bind' (checkSafelists_steady req) (checkSafelists_ensures req) fun o unthrottled => ?_
  split
  · exact pure' unthrottled
  · exact checkBlocklists_ensures req

theorem checkFail2ban_ensures (rule : Fail2BanRule) :
    Ensures rules options (checkFail2ban req rule) Unthrottled := by
  unfold checkFail2ban
  split
  · exact pure' (by simp [Unthrottled])
  · refine storeKey_bind fun banKey =>
      onStore_bind (fun s now => CounterStore.has_kind s banKey now) fun banned => ?_
    split
    · exact hit_bind (pure' (by simp [Unthrottled, Decision.blocked]))
    · split
      · refine storeKey_bind fun failKey => onStore_bind
          (fun s now => CounterStore.increment_kind s failKey now _) fun _ => hit_bind ?_
        split
        · exact onStore_bind (fun s now => CounterStore.set_kind s banKey now _ _) fun _ =>
            hit_bind (emit_bind (pure' (by simp [Unthrottled])))
        · exact pure' (by simp [Unthrottled])
      · exact pure' (by simp [Unthrottled])

theorem fail2banStage_ensures (fail2bans : List Fail2BanRule) :
    Ensures rules options (fail2banStage req fail2bans) Unthrottled := by
  induction fail2bans with
  | nil => exact pure' (by simp [Unthrottled])
  | cons rule rest ih =>
    refine bind' (checkFail2ban_steady req rule) (checkFail2ban_ensures req rule) fun o unthrottled => ?_
    cases o with
    | some d => exact pure' unthrottled
    | none => exact ih

theorem throttleStep_ensures (headersOn : Bool) {rule : ThrottleRule} (listed : rule ∈ rules.throttles)
    (quota : Option RateLimitInfo) :
    Ensures rules options (throttleStep headersOn req rule quota)
      fun s => ∀ d, s = .inl d → ThrottledWithin rules headersOn d := by
  unfold throttleStep
  split
  · exact pure' (by simp)
  · refine storeKey_bind fun k => count_bind fun count ttl within => ?_
    split
    · rename_i exceeded
      exact hit_bind (emit_bind (pure' fun d decided _ => by
        cases decided
        exact ⟨rule, listed, ttl, rule.limit - count, within (Nat.zero_lt_of_lt exceeded),
          by cases headersOn <;> rfl⟩))
    · split <;> exact pure' (by simp)

theorem throttleStage_ensures (headersOn : Bool) (throttles : List ThrottleRule)
    (listed : ∀ rule ∈ throttles, rule ∈ rules.throttles) (quota : Option RateLimitInfo) :
    Ensures rules options (throttleStage headersOn req throttles quota)
      fun s => ∀ d, s = .inl d → ThrottledWithin rules headersOn d := by
  induction throttles generalizing quota with
  | nil => exact pure' (by simp)
  | cons rule rest ih =>
    refine bind' (throttleStep_steady headersOn req rule quota)
      (throttleStep_ensures req headersOn (listed rule List.mem_cons_self) quota) fun s within => ?_
    cases s with
    | inl d => exact pure' within
    | inr q => exact ih (fun t mem => listed t (List.mem_cons_of_mem _ mem)) q

theorem fromFail2bans_ensures (fail2bans : List Fail2BanRule) :
    Ensures rules options (fromFail2bans req fail2bans) (ThrottledWithin rules options.rateLimitHeaders) := by
  refine bind' (fail2banStage_steady req fail2bans) (fail2banStage_ensures req fail2bans)
    fun o unthrottled => ?_
  cases o with
  | some d => exact pure' fun throttled => absurd throttled (unthrottled d rfl)
  | none =>
    refine get_bind fun r sameRules sameOptions => ?_
    rw [sameOptions]
    refine bind' (throttleStage_steady _ req _ none)
      (throttleStage_ensures req _ _ (fun t mem => sameRules ▸ mem) none) fun s within => ?_
    cases s with
    | inl d => exact pure' (within d rfl)
    | inr q => exact hit_bind (pure' fun passed => by simp [Decision.pass] at passed)

theorem opening_ensures : Ensures rules options (opening req) Unthrottled :=
  get_bind fun _ _ _ => bind' (trackStage_steady req _) (anything _) fun _ _ => listStage_ensures req

theorem decide_ensures :
    Ensures rules options (decide req) (ThrottledWithin rules options.rateLimitHeaders) := by
  rw [decide_eq]
  refine bind' (opening_steady req) (opening_ensures req) fun o unthrottled => ?_
  cases o with
  | some d => exact pure' fun throttled => absurd throttled (unthrottled d rfl)
  | none => exact get_bind fun _ _ _ => fromFail2bans_ensures req _

end Stages

end Evaluating

namespace Decision

theorem throttled_header_retry (rule : String) (ttl : Nat) (info : Option RateLimitInfo) :
    (throttled rule ttl info).header "Retry-After" = some (Word.toDecimal (Nat.max ttl 1)) := by
  have marker : Text.eqIgnoreAsciiCase "X-Rampart" "Retry-After" = false := by decide +kernel
  have matched : Text.eqIgnoreAsciiCase "X-Rampart-Matched" "Retry-After" = false := by decide +kernel
  have retry : Text.eqIgnoreAsciiCase "Retry-After" "Retry-After" = true := by decide +kernel
  simp [header, throttled, marker, matched, retry]

theorem throttled_header_reset (rule : String) (ttl limit remaining : Nat) :
    (throttled rule ttl (some ⟨limit, remaining, Nat.max ttl 1⟩)).header "X-RateLimit-Reset" =
      some (Word.toDecimal (Nat.max ttl 1)) := by
  have marker : Text.eqIgnoreAsciiCase "X-Rampart" "X-RateLimit-Reset" = false := by decide +kernel
  have matched : Text.eqIgnoreAsciiCase "X-Rampart-Matched" "X-RateLimit-Reset" = false := by
    decide +kernel
  have retry : Text.eqIgnoreAsciiCase "Retry-After" "X-RateLimit-Reset" = false := by decide +kernel
  have quota : Text.eqIgnoreAsciiCase "X-RateLimit-Limit" "X-RateLimit-Reset" = false := by
    decide +kernel
  have left : Text.eqIgnoreAsciiCase "X-RateLimit-Remaining" "X-RateLimit-Reset" = false := by
    decide +kernel
  have reset : Text.eqIgnoreAsciiCase "X-RateLimit-Reset" "X-RateLimit-Reset" = true := by
    decide +kernel
  simp [header, throttled, RateLimitInfo.headers, marker, matched, retry, quota, left, reset]

end Decision

/-- Right after a count at a reading below the largest word that does not stop the store, the
    memory store and a records store leave between one second and the period before the counter's
    window ends, whatever they held under the key: a lasting value, a deadline far past the
    window, or on a records store any text. So a throttle with a positive period that throttles
    asks the client to wait at least one second and at most that period, and with rate-limit
    headers on reports the same delay as the reset of its quota. -/
theorem retry_after_within_period :
    (∀ (s : CounterStore) (key : String) (period now : Nat), s.kind ≠ .failOpen → now < Word.max →
      (s.increment key period now).2.overflowed = false →
      1 ≤ ((s.increment key period now).2.ttlRemaining key now).1 ∧
        ((s.increment key period now).2.ttlRemaining key now).1 ≤ Nat.max period 1) ∧
    ∀ (fw : Firewall) (req : Request) (now : Nat), fw.store.kind ≠ .failOpen → now < Word.max →
      (∀ rule ∈ fw.rules.throttles, 0 < rule.period) → (fw.decide req now).1.outcome = .throttled →
      ∃ rule ∈ fw.rules.throttles, ∃ retry, (fw.decide req now).1.rule = some rule.name ∧
        (fw.decide req now).1.retryAfter = some retry ∧ 1 ≤ retry ∧ retry ≤ rule.period ∧
        (fw.decide req now).1.header "Retry-After" = some (Word.toDecimal retry) ∧
        (fw.options.rateLimitHeaders = true →
          (fw.decide req now).1.header "X-RateLimit-Reset" = some (Word.toDecimal retry)) := by
  refine ⟨fun s key period now counting below going => ?_,
    fun fw req now counting below positive throttled => ?_⟩
  · rcases CounterStore.ttlRemaining_after_count counting key period below with bounds | ⟨-, stopped⟩
    · exact bounds
    · rw [stopped] at going
      cases going
  · obtain ⟨rule, listed, ttl, remaining, within, shape⟩ :=
      Evaluating.decide_ensures req { fw, now } rfl rfl counting below throttled
    have decided : (fw.decide req now).1 = Decision.throttled rule.name ttl
        (if fw.options.rateLimitHeaders then some ⟨rule.limit, remaining, Nat.max ttl 1⟩ else none) :=
      shape
    have delay : Nat.max ttl 1 ≤ rule.period := by
      have pos := positive rule listed
      unfold Nat.max at within ⊢
      omega
    refine ⟨rule, listed, Nat.max ttl 1, by rw [decided]; rfl, by rw [decided]; rfl,
      Nat.le_max_right ttl 1, delay, by rw [decided]; exact Decision.throttled_header_retry _ _ _,
      fun on => ?_⟩
    rw [decided, on]
    exact Decision.throttled_header_reset _ _ _ _

/-- A records store holding the text `4` for an hour, counted with a ten-second period: the text
    reads as no record, the count starts a window, and ten seconds are left; and a throttle of
    limit zero throttles its first request for its whole minute, with the quota's reset to match. -/
theorem retry_after_within_period_stale :
    let s : CounterStore := (CounterStore.ofKind .records).set "k" "4" (some 3600) 1000000
    let fw : Firewall :=
      { rules := { throttles := [⟨"api", 0, 60, .path⟩] }, options := { rateLimitHeaders := true } }
    (s.kind ≠ .failOpen ∧ 1000000 < Word.max ∧
        (s.increment "k" 10 1000000).2.overflowed = false ∧
        1 ≤ ((s.increment "k" 10 1000000).2.ttlRemaining "k" 1000000).1 ∧
        ((s.increment "k" 10 1000000).2.ttlRemaining "k" 1000000).1 ≤ Nat.max 10 1) ∧
      (fw.store.kind ≠ .failOpen ∧ (∀ rule ∈ fw.rules.throttles, 0 < rule.period) ∧
        (fw.decide { path := "/api" } 1000000).1.outcome = .throttled ∧
        ∃ rule ∈ fw.rules.throttles, ∃ retry, (fw.decide { path := "/api" } 1000000).1.rule = some rule.name ∧
          (fw.decide { path := "/api" } 1000000).1.retryAfter = some retry ∧ 1 ≤ retry ∧
          retry ≤ rule.period ∧
          (fw.decide { path := "/api" } 1000000).1.header "Retry-After" = some (Word.toDecimal retry) ∧
          (fw.options.rateLimitHeaders = true →
            (fw.decide { path := "/api" } 1000000).1.header "X-RateLimit-Reset" =
              some (Word.toDecimal retry))) := by
  intro s fw
  have counting : s.kind ≠ .failOpen := by decide
  have below : 1000000 < Word.max := by decide
  have fits : (s.increment "k" 10 1000000).2.overflowed = false := by decide
  have direct : fw.store.kind ≠ .failOpen := by decide
  have positive : ∀ rule ∈ fw.rules.throttles, 0 < rule.period := by decide
  have throttled : (fw.decide { path := "/api" } 1000000).1.outcome = .throttled := by decide
  exact ⟨⟨counting, below, fits, retry_after_within_period.1 s "k" 10 1000000 counting below fits⟩,
    direct, positive, throttled,
    retry_after_within_period.2 fw { path := "/api" } 1000000 direct below positive throttled⟩

end RequestFirewall
