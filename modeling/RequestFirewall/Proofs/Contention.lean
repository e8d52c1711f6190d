import RequestFirewall.Proofs.Accounting
/- Decisions racing on one throttle. Several decide calls on one firewall run at once, and what
   they share, the store and the diagnostics, is touched in atomic steps: under a firewall whose
   only rule is a throttle, a decision counts the request, reads the time left in its window,
   then records its outcome. `Progress` is where one caller stands between those steps, `Crowd`
   the callers with the firewall they share, and a schedule any interleaving of their steps. A
   caller scheduled alone is exactly a decide call. Under any interleaving inside one fixed
   window, with every request's key naming one counter, the counts handed out are 1 to n, each
   once, and a caller is let through exactly when its count is within the limit. -/
namespace RequestFirewall

/-- Where one decision under a lone throttle stands between the steps that touch shared state:
    before counting, counted, with the time left read, or decided with the count it drew. -/
inductive Progress where
  | ready
  | counted (key : String) (count : Nat)
  | timed (key : String) (count retryAfter : Nat)
  | decided (d : Decision) (count : Option Nat)
  deriving DecidableEq

namespace Progress

/-- One atomic step of a caller deciding `req` under the lone throttle `rule` at the clock
    reading `now`, on the firewall the callers share. -/
def step (rule : ThrottleRule) (req : Request) (now : Nat) (fw : Firewall) : Progress → Progress × Firewall
  | ready =>
    match rule.key.extract req with
    | none => (decided (Decision.pass none) none,
        { fw with diagnostics := fw.diagnostics.increment .passed none })
    | some key =>
      let counter := fw.storeKey .throttle rule.name key
      let counting := fw.store.increment counter rule.period now
      (counted counter counting.1, { fw with store := counting.2 })
  | counted key count =>
    let reading := fw.store.ttlRemaining key now
    (timed key count reading.1, { fw with store := reading.2 })
  | timed _ count retryAfter =>
    let info : Option RateLimitInfo := if fw.options.rateLimitHeaders
      then some ⟨rule.limit, rule.limit - count, Nat.max retryAfter 1⟩ else none
    if count > rule.limit then
      (decided (Decision.throttled rule.name retryAfter info) (some count),
        { fw with diagnostics := fw.diagnostics.increment .throttleExceeded (some rule.name) })
    else
      (decided (Decision.pass info) (some count),
        { fw with diagnostics := fw.diagnostics.increment .passed none })
  | decided d count => (decided d count, fw)

def stage : Progress → Nat
  | ready => 0
  | counted .. => 1
  | timed .. => 2
  | decided .. => 3

def count? : Progress → Option Nat
  | ready => none
  | counted _ count => some count
  | timed _ count _ => some count
  | decided _ count => count

def decision? : Progress → Option Decision
  | decided d _ => some d
  | _ => none

def throttled : Progress → Bool
  | decided d _ => d.outcome == .throttled
  | _ => false

theorem stage_le (p : Progress) : p.stage ≤ 3 := by
  cases p <;> simp [stage]

theorem stage_step (rule : ThrottleRule) (req : Request) (now : Nat) (fw : Firewall) (p : Progress)
    (keyed : (rule.key.extract req).isSome = true) : (p.step rule req now fw).1.stage = min 3 (p.stage + 1) := by
  cases p with
  | ready =>
    obtain ⟨raw, extracted⟩ := Option.isSome_iff_exists.mp keyed
    simp [step, extracted, stage]
  | counted k x => simp [step, stage]
  | timed k x r => by_cases exceeded : x > rule.limit <;> simp [step, stage, exceeded]
  | decided d x => simp [step, stage]

end Progress

/-- Callers deciding at once: the firewall they share and where each one stands. -/
structure Crowd (n : Nat) where
  fw : Firewall
  progress : Fin n → Progress

namespace Crowd

variable {n : Nat} (rule : ThrottleRule) (reqs : Fin n → Request)

def start (fw : Firewall) : Crowd n := ⟨fw, fun _ => .ready⟩

def step (c : Crowd n) (i : Fin n) (now : Nat) : Crowd n :=
  let moved := (c.progress i).step rule (reqs i) now c.fw
  ⟨moved.2, Function.update c.progress i moved.1⟩

def run (c : Crowd n) : List (Fin n × Nat) → Crowd n
  | [] => c
  | (i, now) :: older => (run c older).step rule reqs i now

def started (c : Crowd n) : Nat := (Finset.univ.filter fun i => (c.progress i).count?.isSome).card

def throttledCount (c : Crowd n) : Nat := (Finset.univ.filter fun i => (c.progress i).throttled).card

end Crowd

namespace Evaluating

@[simp] theorem run_pure {α : Type} (a : α) (r : Run) : (pure a : Evaluating α).run r = (a, r) := rfl

theorem throttlesReached_lone (req : Request) (r : Run) (rule : ThrottleRule)
    (lone : r.fw.rules = { throttles := [rule] }) :
    (throttlesReached req []).run r = (.inr none, r) := by
  obtain ⟨⟨rules, store, options, diagnostics⟩, now, events⟩ := r
  simp only at lone
  subst lone
  rfl

end Evaluating

theorem Progress.alone_decides (rule : ThrottleRule) (fw : Firewall) (req : Request) (now : Nat)
    (lone : fw.rules = { throttles := [rule] }) :
    let first := Progress.ready.step rule req now fw
    let second := first.1.step rule req now first.2
    let third := second.1.step rule req now second.2
    third.1.decision? = some (fw.decide req now).1 ∧ third.2 = (fw.decide req now).2.2 := by
  have split : ({ fw, now } : Run).fw.rules.throttles = [] ++ [rule] := by simp [lone]
  have cut := @Evaluating.decide_run_of_throttles req { fw, now } [] [rule] split
  have reached := Evaluating.throttlesReached_lone req { fw, now } rule lone
  dsimp only
  simp only [Firewall.decide, cut, Evaluating.run_bind, reached]
  simp only [Evaluating.fromThrottles, Evaluating.throttleStage, Evaluating.throttleStep]
  cases keyed : rule.key.extract req with
  | none =>
    simp only [Progress.step, keyed]
    exact ⟨rfl, rfl⟩
  | some key =>
    simp only [Progress.step, keyed, Firewall.storeKey, Evaluating.run_bind, Evaluating.run_storeKey,
      Evaluating.run_onStore]
    by_cases exceeded : (fw.store.increment
      (StoreKey.render ⟨fw.options.keyPrefix, .throttle, rule.name, key⟩) rule.period now).1 > rule.limit
    · simp only [exceeded, ↓reduceIte, Evaluating.run_pure, Evaluating.run_bind, Evaluating.run_hit,
        Evaluating.run_emit, Progress.decision?, true_and]
    · simp only [exceeded, ↓reduceIte, Progress.decision?, Option.isNone_none, Bool.and_true]
      cases fw.options.rateLimitHeaders <;> exact ⟨rfl, rfl⟩

def runningSlot (m deadline : Nat) : Option Slot :=
  if m = 0 then none else some ⟨Word.toDecimal m, some deadline⟩

theorem countSlot_runningSlot {period now m deadline : Nat}
    (window : windowDeadline period now = deadline) (live : now < deadline) (fits : m < Word.max) :
    countSlot (runningSlot m deadline) period now = (m + 1, ⟨Word.toDecimal (m + 1), some deadline⟩) := by
  unfold runningSlot countSlot MemoryStore.counterBase
  by_cases fresh : m = 0
  · subst fresh
    simp [window, parseCount_zero]
  · have unexpired : (⟨Word.toDecimal m, some deadline⟩ : Slot).expired now = false := by
      simp [Slot.expired, live]
    simp [fresh, unexpired, window, parseCount_toDecimal, Nat.le_of_lt fits]

theorem Firewall.storeKey_of_normalized (fw : Firewall) (kind : CounterKind) (rule : String)
    {raw k : String} (normalized : normalizeKey raw = k) :
    fw.storeKey kind rule raw =
      fw.options.keyPrefix ++ ":" ++ kind.segment ++ ":" ++ normalizeKey rule ++ ":" ++ k := by
  rw [Firewall.storeKey, StoreKey.render, normalized]

theorem card_filter_update {n : Nat} {α : Type} (f : Fin n → α) (i : Fin n) (p : α) (q : α → Bool) :
    (Finset.univ.filter fun j => q (Function.update f i p j)).card + (if q (f i) then 1 else 0) =
      (Finset.univ.filter fun j => q (f j)).card + (if q p then 1 else 0) := by
  have split : ∀ g : Fin n → α, (Finset.univ.filter fun j => q (g j)).card =
      ((Finset.univ.filter fun j => q (g j)).erase i).card + if q (g i) then 1 else 0 := by
    intro g
    by_cases holds : q (g i) = true
    · rw [if_pos holds, Finset.card_erase_add_one (by simp [holds])]
    · rw [if_neg holds, Finset.erase_eq_of_notMem (by simp [holds]), Nat.add_zero]
  have away : (Finset.univ.filter fun j => q (Function.update f i p j)).erase i =
      (Finset.univ.filter fun j => q (f j)).erase i := by
    ext j
    by_cases same : j = i
    · simp [same]
    · simp [same]
  rw [split (Function.update f i p), split f, away, Function.update_self]
  omega

namespace Crowd

variable {n : Nat} (rule : ThrottleRule) (reqs : Fin n → Request)

theorem started_update (c : Crowd n) (fw : Firewall) (i : Fin n) (p : Progress) :
    (⟨fw, Function.update c.progress i p⟩ : Crowd n).started +
        (if (c.progress i).count?.isSome then 1 else 0) =
      c.started + (if p.count?.isSome then 1 else 0) :=
  card_filter_update c.progress i p fun p => p.count?.isSome

theorem throttledCount_update (c : Crowd n) (fw : Firewall) (i : Fin n) (p : Progress) :
    (⟨fw, Function.update c.progress i p⟩ : Crowd n).throttledCount +
        (if (c.progress i).throttled then 1 else 0) =
      c.throttledCount + (if p.throttled then 1 else 0) :=
  card_filter_update c.progress i p Progress.throttled

theorem started_le (c : Crowd n) : c.started ≤ n := by
  calc c.started ≤ (Finset.univ : Finset (Fin n)).card := Finset.card_filter_le _ _
    _ = n := by simp

theorem step_of_decided {c : Crowd n} {i : Fin n} {d : Decision} {x : Option Nat}
    (done : c.progress i = .decided d x) (now : Nat) : c.step rule reqs i now = c := by
  have same : Function.update c.progress i (.decided d x) = c.progress := by
    rw [← done, Function.update_eq_self]
  simp only [step, done, Progress.step, same]

/-- What holds between the steps of callers racing on one counter `key`: the counter holds the
    number of callers that have counted, in the window ending at `deadline`; those callers drew
    different counts, from 1 up to that number; each decided caller was throttled exactly when
    its count is over the limit, and the throttle total grew by the callers throttled. -/
structure Contended (key : String) (deadline : Nat) (before : Diagnostics) (c : Crowd n) : Prop where
  keys : ∀ i, ∃ raw, rule.key.extract (reqs i) = some raw ∧ c.fw.storeKey .throttle rule.name raw = key
  native : c.fw.store.kind = .native
  slot : c.fw.store.slot key = runningSlot c.started deadline
  drawn : ∀ i x, (c.progress i).count? = some x → 1 ≤ x ∧ x ≤ c.started
  distinct : ∀ i j x, (c.progress i).count? = some x → (c.progress j).count? = some x → i = j
  keyed : ∀ i d, c.progress i ≠ .decided d none
  verdict : ∀ i d x, c.progress i = .decided d (some x) →
    d.outcome = if rule.limit < x then .throttled else .pass
  throttledTotal : c.fw.diagnostics.total .throttleExceeded =
    before.total .throttleExceeded + c.throttledCount

variable {rule reqs} {key : String} {deadline : Nat} {before : Diagnostics} {c : Crowd n}

theorem Contended.settle (inv : Contended rule reqs key deadline before c) {i : Fin n} {fw : Firewall}
    {p : Progress} (options : fw.options = c.fw.options) (store : fw.store = c.fw.store)
    (drew : p.count? = (c.progress i).count?) (keyed : ∀ d, p ≠ .decided d none)
    (verdict : ∀ d x, p = .decided d (some x) → d.outcome = if rule.limit < x then .throttled else .pass)
    (total : fw.diagnostics.total .throttleExceeded + (if (c.progress i).throttled then 1 else 0) =
      c.fw.diagnostics.total .throttleExceeded + (if p.throttled then 1 else 0)) :
    Contended rule reqs key deadline before ⟨fw, Function.update c.progress i p⟩ := by
  have counts : ∀ j, (Function.update c.progress i p j).count? = (c.progress j).count? := by
    intro j
    by_cases same : j = i
    · subst same
      rw [Function.update_self, drew]
    · rw [Function.update_of_ne same]
  have started : (⟨fw, Function.update c.progress i p⟩ : Crowd n).started = c.started := by
    have moved := started_update c fw i p
    rw [drew] at moved
    omega
  have throttled := throttledCount_update c fw i p
  refine ⟨fun j => ?_, store ▸ inv.native, ?_, fun j x drawn => ?_, fun j j' x first second => ?_,
    (Function.forall_update_iff c.progress fun _ q => ∀ d, q ≠ .decided d none).mpr
      ⟨keyed, fun j _ => inv.keyed j⟩,
    (Function.forall_update_iff c.progress fun _ q => ∀ d x, q = .decided d (some x) →
      d.outcome = if rule.limit < x then .throttled else .pass).mpr ⟨verdict, fun j _ => inv.verdict j⟩, ?_⟩
  · obtain ⟨raw, extracted, named⟩ := inv.keys j
    exact ⟨raw, extracted, by rw [← named, Firewall.storeKey, Firewall.storeKey, options]⟩
  · show fw.store.slot key = _
    rw [store, started, inv.slot]
  · rw [started]
    exact inv.drawn j x (counts j ▸ drawn)
  · exact inv.distinct j j' x (counts j ▸ first) (counts j' ▸ second)
  · show fw.diagnostics.total .throttleExceeded = _
    have before := inv.throttledTotal
    omega

theorem Contended.count (inv : Contended rule reqs key deadline before c) {i : Fin n} {now : Nat}
    (fresh : c.progress i = .ready) (window : windowDeadline rule.period now = deadline)
    (live : now < deadline) (fits : n ≤ Word.max) :
    Contended rule reqs key deadline before (c.step rule reqs i now) := by
  obtain ⟨raw, extracted, named⟩ := inv.keys i
  have moved : c.step rule reqs i now =
      ⟨{ c.fw with store := (c.fw.store.increment key rule.period now).2 },
        Function.update c.progress i (.counted key (c.fw.store.increment key rule.period now).1)⟩ := by
    simp only [step, fresh, Progress.step, extracted, named]
  rw [moved]
  have grown : (⟨{ c.fw with store := (c.fw.store.increment key rule.period now).2 },
      Function.update c.progress i (.counted key (c.fw.store.increment key rule.period now).1)⟩ :
        Crowd n).started = c.started + 1 := by
    have counted := started_update c { c.fw with store := (c.fw.store.increment key rule.period now).2 }
      i (.counted key (c.fw.store.increment key rule.period now).1)
    simp only [fresh, Progress.count?, Option.isSome_none, Option.isSome_some, Bool.false_eq_true,
      ↓reduceIte] at counted
    omega
  have below : c.started < Word.max := by
    have bounded := started_le (⟨{ c.fw with store := (c.fw.store.increment key rule.period now).2 },
      Function.update c.progress i (.counted key (c.fw.store.increment key rule.period now).1)⟩ : Crowd n)
    omega
  have running := countSlot_runningSlot window live below
  have fits : (countSlot (c.fw.store.slot key) rule.period now).1 ≤ Word.max := by
    rw [inv.slot, running]
    exact below
  have drawn := CounterStore.increment_fst_of_fits inv.native fits
  have slotted := CounterStore.increment_slot_self inv.native key rule.period now
  rw [countedSlot_of_fits fits] at slotted
  rw [inv.slot, running] at drawn slotted
  -- every other caller drew at most `m`, below the new count
  have earlier : ∀ j x, j ≠ i → (c.progress j).count? = some x → x < c.started + 1 := by
    intro j x _ holds
    have := (inv.drawn j x holds).2
    omega
  refine ⟨fun j => inv.keys j, by simp [inv.native], ?_, fun j x holds => ?_,
    fun j j' x first second => ?_,
    (Function.forall_update_iff c.progress fun _ q => ∀ d, q ≠ .decided d none).mpr
      ⟨fun _ => nofun, fun j _ => inv.keyed j⟩,
    (Function.forall_update_iff c.progress fun _ q => ∀ d x, q = .decided d (some x) →
      d.outcome = if rule.limit < x then .throttled else .pass).mpr ⟨fun _ _ => nofun, fun j _ => inv.verdict j⟩, ?_⟩
  · show (c.fw.store.increment key rule.period now).2.slot key = _
    rw [slotted, grown]
    simp [runningSlot]
  · dsimp only at holds
    rw [grown]
    by_cases same : j = i
    · subst same
      simp only [Function.update_self, Progress.count?, drawn, Option.some.injEq] at holds
      omega
    · rw [Function.update_of_ne same] at holds
      have := inv.drawn j x holds
      omega
  · dsimp only at first second
    by_cases left : j = i <;> by_cases right : j' = i
    · rw [left, right]
    · subst left
      simp only [Function.update_self, Progress.count?, drawn, Option.some.injEq] at first
      rw [Function.update_of_ne right] at second
      have := earlier j' x right second
      omega
    · subst right
      simp only [Function.update_self, Progress.count?, drawn, Option.some.injEq] at second
      rw [Function.update_of_ne left] at first
      have := earlier j x left first
      omega
    · rw [Function.update_of_ne left] at first
      rw [Function.update_of_ne right] at second
      exact inv.distinct j j' x first second
  · have kept := throttledCount_update c { c.fw with store := (c.fw.store.increment key rule.period now).2 }
      i (.counted key (c.fw.store.increment key rule.period now).1)
    simp only [fresh, Progress.throttled, Bool.false_eq_true, ↓reduceIte, Nat.add_zero] at kept
    show c.fw.diagnostics.total .throttleExceeded = _
    rw [kept]
    exact inv.throttledTotal

theorem Contended.step (inv : Contended rule reqs key deadline before c) (i : Fin n) {now : Nat}
    (window : windowDeadline rule.period now = deadline) (live : now < deadline) (fits : n ≤ Word.max) :
    Contended rule reqs key deadline before (c.step rule reqs i now) := by
  cases progress : c.progress i with
  | ready => exact inv.count progress window live fits
  | counted k x =>
    have unread : (c.fw.store.ttlRemaining k now).2 = c.fw.store := by
      rw [CounterStore.ttlRemaining_of_memory k now inv.native]
    apply inv.settle <;> simp [progress, Progress.step, Progress.count?, Progress.throttled, unread]
  | timed k x r =>
    by_cases exceeded : rule.limit < x
    · apply inv.settle <;> simp [progress, Progress.step, Progress.count?, Progress.throttled, exceeded,
        Decision.throttled, Diagnostics.total_increment]
    · apply inv.settle <;> simp [progress, Progress.step, Progress.count?, Progress.throttled, exceeded,
        Decision.pass, Diagnostics.total_increment]
  | decided d x => rwa [step_of_decided rule reqs progress]

theorem started_start (fw : Firewall) : (start fw : Crowd n).started = 0 := by
  simp [started, start, Progress.count?]

theorem Contended.start {fw : Firewall} (empty : fw.store = .ofKind .native)
    (keys : ∀ i, ∃ raw, rule.key.extract (reqs i) = some raw ∧ fw.storeKey .throttle rule.name raw = key) :
    Contended rule reqs key deadline fw.diagnostics (Crowd.start fw : Crowd n) := by
  refine ⟨keys, by show fw.store.kind = _; rw [empty]; rfl, ?_, fun i x none => ?_, fun i j x none => ?_, fun i d => ?_,
    fun i d x none => ?_, ?_⟩
  · show fw.store.slot key = _
    rw [started_start, empty]
    rfl
  all_goals simp_all [Crowd.start, Progress.count?, throttledCount, Progress.throttled]

theorem Contended.run (inv : Contended rule reqs key deadline before c) (fits : n ≤ Word.max)
    (schedule : List (Fin n × Nat))
    (window : ∀ s ∈ schedule, windowDeadline rule.period s.2 = deadline ∧ s.2 < deadline) :
    Contended rule reqs key deadline before (c.run rule reqs schedule) := by
  induction schedule with
  | nil => exact inv
  | cons s older ih =>
    obtain ⟨i, now⟩ := s
    have reading := window (i, now) List.mem_cons_self
    exact (ih fun s mem => window s (List.mem_cons_of_mem _ mem)).step i reading.1 reading.2 fits

theorem stage_run (c : Crowd n) (keyed : ∀ i, (rule.key.extract (reqs i)).isSome = true) (i : Fin n) :
    ∀ schedule : List (Fin n × Nat), ((c.run rule reqs schedule).progress i).stage =
      min 3 ((c.progress i).stage + (schedule.map Prod.fst).count i)
  | [] => by simp [run, Nat.min_eq_right (Progress.stage_le _)]
  | (j, now) :: older => by
    simp only [run, step, List.map_cons, List.count_cons]
    by_cases same : j = i
    · subst same
      rw [Function.update_self, Progress.stage_step _ _ _ _ _ (keyed j), stage_run c keyed j older]
      simp only [beq_self_eq_true, ↓reduceIte]
      omega
    · rw [Function.update_of_ne (Ne.symm same), stage_run c keyed i older]
      simp [same]

end Crowd

theorem image_eq_Icc {n : Nat} {count : Fin n → Nat} (distinct : Function.Injective count)
    (range : ∀ i, 1 ≤ count i ∧ count i ≤ n) : Finset.univ.image count = Finset.Icc 1 n := by
  apply Finset.eq_of_subset_of_card_le
  · intro x mem
    obtain ⟨i, -, rfl⟩ := Finset.mem_image.mp mem
    exact Finset.mem_Icc.mpr (range i)
  · rw [Finset.card_image_of_injective _ distinct, Nat.card_Icc]
    simp

theorem card_within {n : Nat} {count : Fin n → Nat} (distinct : Function.Injective count)
    (filled : Finset.univ.image count = Finset.Icc 1 n) (limit : Nat) :
    (Finset.univ.filter fun i => count i ≤ limit).card = min n limit := by
  have within : (Finset.Icc 1 n).filter (· ≤ limit) = Finset.Icc 1 (min n limit) := by
    ext x
    simp only [Finset.mem_filter, Finset.mem_Icc]
    omega
  have image : (Finset.univ.filter fun i => count i ≤ limit).image count =
      (Finset.univ.image count).filter (· ≤ limit) := by
    rw [Finset.filter_image]
  rw [← Finset.card_image_of_injective _ distinct, image, filled, within, Nat.card_Icc]
  omega

theorem windowIndex_opening (period w : Nat) :
    windowIndex period (w * Nat.max period 1 * 1000) = w := by
  unfold windowIndex
  rw [Nat.mul_div_cancel _ (by decide : 0 < 1000), Nat.mul_div_cancel _ (windowPeriod_pos period)]

theorem windowDeadline_of_windowIndex {period w t : Nat} (index : windowIndex period t = w)
    (below : t < Word.max) :
    windowDeadline period t = windowDeadline period (w * Nat.max period 1 * 1000) ∧
      t < windowDeadline period (w * Nat.max period 1 * 1000) := by
  have shared : windowDeadline period t = windowDeadline period (w * Nat.max period 1 * 1000) := by
    unfold windowDeadline
    rw [windowEnd_eq_of_windowIndex (index.trans (windowIndex_opening period w).symm)]
  exact ⟨shared, shared ▸ lt_windowDeadline below⟩

/-- Once every caller has decided, the race is over: the counts drawn are 1 to `n`, each once,
    the callers within the limit passed, and the throttle total grew by the others. -/
theorem Crowd.Contended.finished {n : Nat} {rule : ThrottleRule} {reqs : Fin n → Request} {key : String}
    {deadline : Nat} {before : Diagnostics} {c : Crowd n}
    (inv : Crowd.Contended rule reqs key deadline before c) (done : ∀ i, (c.progress i).stage = 3) :
    ∃ (count : Fin n → Nat) (decision : Fin n → Decision),
      (∀ i, c.progress i = .decided (decision i) (some (count i))) ∧
      Function.Injective count ∧ Finset.univ.image count = Finset.Icc 1 n ∧
      (∀ i, (decision i).outcome = if rule.limit < count i then .throttled else .pass) ∧
      (Finset.univ.filter fun i => (decision i).outcome = .pass).card = min n rule.limit ∧
      c.fw.diagnostics.total .throttleExceeded = before.total .throttleExceeded + (n - min n rule.limit) := by
  have settled : ∀ i, ∃ d x, c.progress i = .decided d (some x) := by
    intro i
    have staged := done i
    cases progress : c.progress i with
    | decided d x =>
      cases x with
      | none => exact absurd progress (inv.keyed i d)
      | some x => exact ⟨d, x, rfl⟩
    | _ => simp [progress, Progress.stage] at staged
  choose decision count drew using settled
  have all : c.started = n := by
    unfold Crowd.started
    rw [Finset.filter_true_of_mem fun i _ => by simp [drew i, Progress.count?]]
    simp
  have distinct : Function.Injective count := fun i j same =>
    inv.distinct i j (count i) (by simp [drew i, Progress.count?]) (by simp [drew j, Progress.count?, same])
  have range : ∀ i, 1 ≤ count i ∧ count i ≤ n := fun i => by
    have := inv.drawn i (count i) (by simp [drew i, Progress.count?])
    omega
  have filled := image_eq_Icc distinct range
  have verdict : ∀ i, (decision i).outcome = if rule.limit < count i then .throttled else .pass :=
    fun i => inv.verdict i (decision i) (count i) (drew i)
  have passed : (Finset.univ.filter fun i => (decision i).outcome = .pass) =
      Finset.univ.filter fun i => count i ≤ rule.limit := by
    ext i
    simp only [Finset.mem_filter, Finset.mem_univ, true_and, verdict i]
    split <;> simp <;> omega
  have throttled : c.throttledCount = (Finset.univ.filter fun i => ¬ count i ≤ rule.limit).card := by
    unfold Crowd.throttledCount
    congr 1
    refine Finset.filter_congr fun i _ => ?_
    rw [drew i]
    simp only [Progress.throttled, verdict i]
    split <;> simp <;> omega
  have split : (Finset.univ.filter fun i => count i ≤ rule.limit).card +
      (Finset.univ.filter fun i => ¬ count i ≤ rule.limit).card = (Finset.univ : Finset (Fin n)).card :=
    Finset.card_filter_add_card_filter_not _
  rw [card_within distinct filled, Finset.card_univ, Fintype.card_fin] at split
  refine ⟨count, decision, drew, distinct, filled, verdict, ?_, ?_⟩
  · rw [passed, card_within distinct filled]
  · rw [inv.throttledTotal, throttled]
    omega

/-- Under any interleaving of the atomic steps of `n` decide calls on a firewall whose only rule
    is one throttle, over a fresh memory store, where every request's key normalizes to one key
    and every clock reading falls in one window of the throttle: once every caller has taken its
    three steps, the counts drawn are 1 to `n`, each once; a caller is throttled exactly when its
    count is over the limit, so `min n limit` of them pass; and the throttle total grows by the
    rest. -/
theorem throttle_limit_holds_under_contention (rule : ThrottleRule) (options : FirewallOptions)
    (before : Diagnostics) {n : Nat} (reqs : Fin n → Request) (k : String) (w : Nat)
    (schedule : List (Fin n × Nat))
    (sameKey : ∀ i, ∃ raw, rule.key.extract (reqs i) = some raw ∧ normalizeKey raw = k)
    (oneWindow : ∀ s ∈ schedule, windowIndex rule.period s.2 = w ∧ s.2 < Word.max)
    (everyStep : ∀ i, 3 ≤ (schedule.map Prod.fst).count i) (fits : n ≤ Word.max) :
    let start : Firewall :=
      { rules := { throttles := [rule] }, store := .ofKind .native, options, diagnostics := before }
    let final := (Crowd.start start : Crowd n).run rule reqs schedule
    ∃ (count : Fin n → Nat) (decision : Fin n → Decision),
      (∀ i, final.progress i = .decided (decision i) (some (count i))) ∧
      Function.Injective count ∧ Finset.univ.image count = Finset.Icc 1 n ∧
      (∀ i, (decision i).outcome = if rule.limit < count i then .throttled else .pass) ∧
      (Finset.univ.filter fun i => (decision i).outcome = .pass).card = min n rule.limit ∧
      final.fw.diagnostics.total .throttleExceeded =
        before.total .throttleExceeded + (n - min n rule.limit) := by
  intro start final
  let deadline := windowDeadline rule.period (w * Nat.max rule.period 1 * 1000)
  have inWindow : ∀ s ∈ schedule, windowDeadline rule.period s.2 = deadline ∧ s.2 < deadline :=
    fun s mem => windowDeadline_of_windowIndex (oneWindow s mem).1 (oneWindow s mem).2
  -- all keys normalize alike, so every caller counts at one store key
  let key := options.keyPrefix ++ ":" ++ CounterKind.throttle.segment ++ ":" ++ normalizeKey rule.name ++ ":" ++ k
  have keys : ∀ i, ∃ raw, rule.key.extract (reqs i) = some raw ∧ start.storeKey .throttle rule.name raw = key := by
    intro i
    obtain ⟨raw, extracted, normalized⟩ := sameKey i
    exact ⟨raw, extracted, start.storeKey_of_normalized .throttle rule.name normalized⟩
  have inv : Crowd.Contended rule reqs key deadline before final :=
    (Crowd.Contended.start rfl keys).run fits schedule inWindow
  have keyed : ∀ i, (rule.key.extract (reqs i)).isSome = true := fun i => by
    obtain ⟨raw, extracted, -⟩ := sameKey i
    simp [extracted]
  refine inv.finished fun i => ?_
  have staged : (final.progress i).stage = min 3 (0 + (schedule.map Prod.fst).count i) :=
    Crowd.stage_run (Crowd.start start : Crowd n) keyed i schedule
  have most := everyStep i
  omega

/-- Three callers under a throttle of limit 2, their steps interleaved: each counts in turn, then
    each reads the time left, then each decides. -/
theorem throttle_limit_holds_under_contention_interleaved :
    let rule : ThrottleRule := ⟨"api", 2, 60, .path⟩
    let reqs : Fin 3 → Request := fun _ => { path := "/api" }
    let schedule : List (Fin 3 × Nat) :=
      [(0, 1040), (2, 1035), (1, 1030), (2, 1025), (0, 1020), (1, 1015), (0, 1010), (2, 1005), (1, 1000)]
    (∀ i, ∃ raw, rule.key.extract (reqs i) = some raw ∧ normalizeKey raw = normalizeKey "/api") ∧
      (∀ s ∈ schedule, windowIndex rule.period s.2 = 0 ∧ s.2 < Word.max) ∧
      (∀ i, 3 ≤ (schedule.map Prod.fst).count i) ∧ 3 ≤ Word.max ∧
      let start : Firewall :=
        { rules := { throttles := [rule] }, store := .ofKind .native, options := {}, diagnostics := {} }
      let final := (Crowd.start start : Crowd 3).run rule reqs schedule
      ∃ (count : Fin 3 → Nat) (decision : Fin 3 → Decision),
        (∀ i, final.progress i = .decided (decision i) (some (count i))) ∧
        Function.Injective count ∧ Finset.univ.image count = Finset.Icc 1 3 ∧
        (∀ i, (decision i).outcome = if rule.limit < count i then .throttled else .pass) ∧
        (Finset.univ.filter fun i => (decision i).outcome = .pass).card = min 3 rule.limit ∧
        final.fw.diagnostics.total .throttleExceeded =
          ({} : Diagnostics).total .throttleExceeded + (3 - min 3 rule.limit) := by
  intro rule reqs schedule
  have sameKey : ∀ i, ∃ raw, rule.key.extract (reqs i) = some raw ∧ normalizeKey raw = normalizeKey "/api" :=
    fun _ => ⟨"/api", rfl, rfl⟩
  have oneWindow : ∀ s ∈ schedule, windowIndex rule.period s.2 = 0 ∧ s.2 < Word.max := by decide
  have everyStep : ∀ i, 3 ≤ (schedule.map Prod.fst).count i := by decide
  have fits : 3 ≤ Word.max := by decide
  exact ⟨sameKey, oneWindow, everyStep, fits, throttle_limit_holds_under_contention rule {} {} reqs
    (normalizeKey "/api") 0 schedule sameKey oneWindow everyStep fits⟩

end RequestFirewall
