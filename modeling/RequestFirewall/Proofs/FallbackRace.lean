import RequestFirewall.Proofs.Contention
import RequestFirewall.Proofs.CounterRecords
/- Decisions racing on a counter kept as records in a plain cache. Without an atomic count, a
   count is a load of the record and, later, a write of the record one higher: two callers that
   load before either writes both write the same count, and one update is lost. Counts can only
   be lost, never made up: whatever the interleaving inside one fixed window, every record under
   the counter's key that still counts in the window holds at most the number of writes done so
   far, and so does every count a caller drew. So a throttle on such a store throttles a request
   only once more callers than its limit have counted in the window. -/
namespace RequestFirewall

/-- Every record under a key either ended by `opening`, so that every load from then on reads it
    as zero, or counts at most `m`. -/
def CountsAtMost (m opening : Nat) (slot : Option Slot) : Prop :=
  ∀ sl, slot = some sl → (CounterRecord.decode sl.value).value ≤ m ∨
    secsToMillis (CounterRecord.decode sl.value).windowEnd ≤ opening

namespace CountsAtMost

variable {m opening : Nat} {slot : Option Slot}

theorem mono (bound : CountsAtMost m opening slot) {m' : Nat} (le : m ≤ m') :
    CountsAtMost m' opening slot := fun sl found =>
  (bound sl found).imp (fun below => Nat.le_trans below le) id

theorem visible (bound : CountsAtMost m opening slot) (now : Nat) :
    CountsAtMost m opening (if liveAt slot now then slot else none) := by
  split
  · exact bound
  · intro sl found
    cases found

theorem countRecord_le (bound : CountsAtMost m opening slot) {now : Nat} (late : opening ≤ now)
    (period : Nat) : (countRecord (loadedAt slot now) period now).value ≤ m + 1 := by
  unfold loadedAt
  split
  · cases slot with
    | none => simp [countRecord]
    | some sl =>
      by_cases live : now < secsToMillis (CounterRecord.decode sl.value).windowEnd
      · -- a record still counting here is not one of an earlier window
        have counted : (CounterRecord.decode sl.value).value ≤ m :=
          (bound sl rfl).resolve_right (by omega)
        simp [countRecord, live, counted]
      · simp [countRecord, live]
  · simp [countRecord]

theorem written {r : CounterRecord} (counted : r.value ≤ m) (bounded : r.windowEnd ≤ Word.max)
    (deadline : Option Nat) : CountsAtMost m opening (some ⟨r.encode, deadline⟩) := by
  intro sl found
  cases found
  left
  show (CounterRecord.decode r.encode).value ≤ m
  rw [CounterRecord.decode_encode_eq bounded]
  split
  · exact counted
  · exact Nat.zero_le m

end CountsAtMost

theorem CounterStore.load_slot_self {s : CounterStore} (key : String) (now : Nat) (direct : s.kind ≠ .failOpen) :
    (s.load key now).2.slot key = if liveAt (s.slot key) now then s.slot key else none :=
  CounterStore.get_slot_self key now direct

theorem CountsAtMost.ttlRemaining {m opening : Nat} {s : CounterStore} {key : String}
    (records : s.kind = .records) (bound : CountsAtMost m opening (s.slot key)) (k : String) (now : Nat) :
    CountsAtMost m opening ((s.ttlRemaining k now).2.slot key) := by
  rw [(CounterStore.ttlRemaining_of_records k now records).2]
  by_cases same : key = k
  · subst same
    rw [CounterStore.load_slot_self key now (by simp [records])]
    exact bound.visible now
  · rw [CounterStore.load_slot_ne same]
    exact bound

/-- Where a caller deciding under a lone throttle stands on a store without an atomic count:
    before counting, having loaded the record it will write back (with the clock reading its ttl
    is reckoned from), or counted and going on as any decision does. -/
inductive Racer where
  | ready
  | loaded (now : Nat) (record : CounterRecord)
  | going (p : Progress)

namespace Racer

/-- One atomic step of a caller deciding `req` under the lone throttle `rule`, whose counter, if
    its request has one, is under `key`: the load, then the write back of one more, with a ttl up
    to the window's end, then the steps of a decision once counted. -/
def step (rule : ThrottleRule) (req : Request) (key : Option String) (now : Nat) (fw : Firewall) :
    Racer → Racer × Firewall
  | ready =>
    match key with
    | none => (going (.decided (Decision.pass none) none),
        { fw with diagnostics := fw.diagnostics.increment .passed none })
    | some k => (loaded now (countRecord (fw.store.load k now).1 rule.period now),
        { fw with store := (fw.store.load k now).2 })
  | loaded t r =>
    match key with
    | none => (loaded t r, fw)
    | some k => (going (.counted k r.value),
        { fw with store := fw.store.set k r.encode (some (Nat.max 1 (ceilSecsUntil (secsToMillis r.windowEnd) t))) now })
  | going p => ((going (p.step rule req now fw).1), (p.step rule req now fw).2)

def count? : Racer → Option Nat
  | going p => p.count?
  | _ => none

def decision? : Racer → Option Decision
  | going p => p.decision?
  | _ => none

end Racer

theorem CounterStore.increment_eq_load_set {s : CounterStore} (records : s.kind = .records) {key : String}
    {period now : Nat} (fits : (countRecord (s.load key now).1 period now).value ≤ Word.max) :
    s.increment key period now = ((countRecord (s.load key now).1 period now).value,
      (s.load key now).2.set key (countRecord (s.load key now).1 period now).encode
        (some (Nat.max 1 (ceilSecsUntil (secsToMillis (countRecord (s.load key now).1 period now).windowEnd) now)))
        now) := by
  unfold CounterStore.increment
  rw [records]
  dsimp only
  generalize (s.load key now).1 = loaded at fits ⊢
  cases loaded with
  | none => rfl
  | some r =>
    simp only [countRecord] at fits ⊢
    by_cases live : now < secsToMillis r.windowEnd
    · rw [if_pos live] at fits
      simp only [if_pos live, Word.succ?_of_lt (Nat.lt_of_succ_le fits)]
    · simp only [if_neg live]
      rfl

theorem Racer.alone_counts (rule : ThrottleRule) (req : Request) (now : Nat) (fw : Firewall)
    (records : fw.store.kind = .records)
    (fits : ∀ k, (rule.key.extract req).map (fw.storeKey .throttle rule.name) = some k →
      (countRecord (fw.store.load k now).1 rule.period now).value ≤ Word.max) :
    let key := (rule.key.extract req).map (fw.storeKey .throttle rule.name)
    let first := Racer.ready.step rule req key now fw
    first.1.step rule req key now first.2 =
      (.going (Progress.ready.step rule req now fw).1, (Progress.ready.step rule req now fw).2) := by
  intro key first
  cases extracted : rule.key.extract req with
  | none => simp [first, key, Racer.step, Progress.step, extracted]
  | some raw =>
    simp only [first, key, Racer.step, Progress.step, extracted, Option.map_some]
    rw [CounterStore.increment_eq_load_set records (fits _ (by rw [extracted, Option.map_some]))]

theorem Racer.alone_decides (rule : ThrottleRule) (fw : Firewall) (req : Request) (now : Nat)
    (lone : fw.rules = { throttles := [rule] }) (records : fw.store.kind = .records)
    (fits : ∀ k, (rule.key.extract req).map (fw.storeKey .throttle rule.name) = some k →
      (countRecord (fw.store.load k now).1 rule.period now).value ≤ Word.max) :
    let key := (rule.key.extract req).map (fw.storeKey .throttle rule.name)
    let first := Racer.ready.step rule req key now fw
    let second := first.1.step rule req key now first.2
    let third := second.1.step rule req key now second.2
    let fourth := third.1.step rule req key now third.2
    fourth.1.decision? = some (fw.decide req now).1 ∧ fourth.2 = (fw.decide req now).2.2 := by
  have counted := Racer.alone_counts rule req now fw records fits
  have decided := Progress.alone_decides rule fw req now lone
  dsimp only at counted decided ⊢
  rw [counted]
  exact decided

/-- Callers racing on a store without an atomic count: the firewall they share and where each
    one stands. -/
structure Race (n : Nat) where
  fw : Firewall
  racer : Fin n → Racer

namespace Race

variable {n : Nat} (rule : ThrottleRule) (reqs : Fin n → Request) (keys : Fin n → Option String)

def start (fw : Firewall) : Race n := ⟨fw, fun _ => .ready⟩

def step (c : Race n) (i : Fin n) (now : Nat) : Race n :=
  ⟨((c.racer i).step rule (reqs i) (keys i) now c.fw).2,
    Function.update c.racer i ((c.racer i).step rule (reqs i) (keys i) now c.fw).1⟩

def run (c : Race n) : List (Fin n × Nat) → Race n
  | [] => c
  | (i, now) :: older => (run c older).step rule reqs keys i now

def written (c : Race n) : Nat := (Finset.univ.filter fun i => (c.racer i).count?.isSome).card

theorem written_update (c : Race n) (fw : Firewall) (i : Fin n) (r : Racer) :
    (⟨fw, Function.update c.racer i r⟩ : Race n).written + (if (c.racer i).count?.isSome then 1 else 0) =
      c.written + (if r.count?.isSome then 1 else 0) :=
  card_filter_update c.racer i r fun r => r.count?.isSome

end Race

theorem opening_le_of_windowIndex {period w now : Nat} (index : windowIndex period now = w) :
    w * Nat.max period 1 * 1000 ≤ now := by
  unfold windowIndex at index
  subst index
  calc now / 1000 / Nat.max period 1 * Nat.max period 1 * 1000
      ≤ now / 1000 * 1000 := Nat.mul_le_mul_right 1000 (Nat.div_mul_le_self _ _)
    _ ≤ now := Nat.div_mul_le_self now 1000

namespace Race

variable {n : Nat} {rule : ThrottleRule} {reqs : Fin n → Request} {keys : Fin n → Option String}

/-- What holds between the steps of callers racing on the counter under `key`: the store keeps
    records, and every record under the key that still counts after `opening` holds at most the
    number of callers that wrote; a caller between its load and its write holds at most one more;
    every count drawn is at most that number; and a decided caller was throttled exactly when its
    count is over the limit. -/
structure Racing (rule : ThrottleRule) (key : String) (opening : Nat) (c : Race n) : Prop where
  records : c.fw.store.kind = .records
  stored : CountsAtMost c.written opening (c.fw.store.slot key)
  pending : ∀ i t r, c.racer i = .loaded t r → r.value ≤ c.written + 1 ∧ r.windowEnd ≤ Word.max
  drawn : ∀ i x, (c.racer i).count? = some x → x ≤ c.written
  counting : ∀ i, c.racer i ≠ .going .ready
  keyed : ∀ i d, c.racer i ≠ .going (.decided d none)
  verdict : ∀ i d x, c.racer i = .going (.decided d (some x)) →
    d.outcome = if rule.limit < x then .throttled else .pass

variable {key : String} {opening : Nat} {c : Race n}

theorem Racing.update (inv : Racing rule key opening c) {fw : Firewall} {i : Fin n} {r : Racer} {w : Nat}
    (written : (⟨fw, Function.update c.racer i r⟩ : Race n).written = w) (grows : c.written ≤ w)
    (records : fw.store.kind = .records) (stored : CountsAtMost w opening (fw.store.slot key))
    (pending : ∀ t q, r = .loaded t q → q.value ≤ w + 1 ∧ q.windowEnd ≤ Word.max)
    (drawn : ∀ x, r.count? = some x → x ≤ w) (counting : r ≠ .going .ready)
    (keyed : ∀ d, r ≠ .going (.decided d none))
    (verdict : ∀ d x, r = .going (.decided d (some x)) → d.outcome = if rule.limit < x then .throttled else .pass) :
    Racing rule key opening ⟨fw, Function.update c.racer i r⟩ := by
  subst written
  refine ⟨records, stored,
    (Function.forall_update_iff c.racer fun _ q => ∀ t r, q = .loaded t r → r.value ≤ _ + 1 ∧ r.windowEnd ≤ Word.max).mpr
      ⟨pending, fun j _ t q holds => ?_⟩,
    (Function.forall_update_iff c.racer fun _ q => ∀ x, q.count? = some x → x ≤ _).mpr
      ⟨drawn, fun j _ x holds => Nat.le_trans (inv.drawn j x holds) grows⟩,
    (Function.forall_update_iff c.racer fun _ q => q ≠ .going .ready).mpr ⟨counting, fun j _ => inv.counting j⟩,
    (Function.forall_update_iff c.racer fun _ q => ∀ d, q ≠ .going (.decided d none)).mpr
      ⟨keyed, fun j _ => inv.keyed j⟩,
    (Function.forall_update_iff c.racer fun _ q => ∀ d x, q = .going (.decided d (some x)) →
      d.outcome = if rule.limit < x then .throttled else .pass).mpr ⟨verdict, fun j _ => inv.verdict j⟩⟩
  obtain ⟨counted, bounded⟩ := inv.pending j t q holds
  exact ⟨by omega, bounded⟩

theorem Racing.load (inv : Racing rule key opening c) {i : Fin n} {now : Nat} (fresh : c.racer i = .ready)
    (keyed : keys i = some key) (late : opening ≤ now) :
    Racing rule key opening (c.step rule reqs keys i now) := by
  have direct : c.fw.store.kind ≠ .failOpen := by simp [inv.records]
  have moved : c.step rule reqs keys i now = ⟨{ c.fw with store := (c.fw.store.load key now).2 },
      Function.update c.racer i (.loaded now (countRecord (c.fw.store.load key now).1 rule.period now))⟩ := by
    simp only [Race.step, fresh, Racer.step, keyed]
  rw [moved]
  have same : (⟨{ c.fw with store := (c.fw.store.load key now).2 }, Function.update c.racer i
      (.loaded now (countRecord (c.fw.store.load key now).1 rule.period now))⟩ : Race n).written = c.written := by
    have counted := written_update c { c.fw with store := (c.fw.store.load key now).2 } i
      (.loaded now (countRecord (c.fw.store.load key now).1 rule.period now))
    simpa [fresh, Racer.count?] using counted
  refine inv.update same le_rfl (by simp [inv.records]) ?_ (fun t r holds => ?_) (by simp [Racer.count?])
    (by simp) (by simp) (by simp)
  · show CountsAtMost _ _ ((c.fw.store.load key now).2.slot key)
    rw [CounterStore.load_slot_self key now direct]
    exact inv.stored.visible now
  · simp only [Racer.loaded.injEq] at holds
    obtain ⟨rfl, rfl⟩ := holds
    rw [CounterStore.load_fst key _ direct]
    exact ⟨inv.stored.countRecord_le late _, countRecord_windowEnd_le_max _ _ _⟩

theorem Racing.write (inv : Racing rule key opening c) {i : Fin n} {t now : Nat} {r : CounterRecord}
    (loaded : c.racer i = .loaded t r) (keyed : keys i = some key) :
    Racing rule key opening (c.step rule reqs keys i now) := by
  have direct : c.fw.store.kind ≠ .failOpen := by simp [inv.records]
  let ttl := Nat.max 1 (ceilSecsUntil (secsToMillis r.windowEnd) t)
  have moved : c.step rule reqs keys i now = ⟨{ c.fw with store := c.fw.store.set key r.encode (some ttl) now },
      Function.update c.racer i (.going (.counted key r.value))⟩ := by
    simp only [Race.step, loaded, Racer.step, keyed]
    rfl
  rw [moved]
  have grown : (⟨{ c.fw with store := c.fw.store.set key r.encode (some ttl) now },
      Function.update c.racer i (.going (.counted key r.value))⟩ : Race n).written = c.written + 1 := by
    have counted := written_update c { c.fw with store := c.fw.store.set key r.encode (some ttl) now } i
      (.going (.counted key r.value))
    simp only [loaded, Racer.count?, Progress.count?, Option.isSome_none, Option.isSome_some,
      Bool.false_eq_true, ↓reduceIte] at counted
    omega
  obtain ⟨counted, bounded⟩ := inv.pending i t r loaded
  refine inv.update grown (Nat.le_succ _) (by simp [inv.records]) ?_ (by simp) (fun x holds => ?_)
    (by simp) (by simp) (by simp)
  · show CountsAtMost _ _ ((c.fw.store.set key r.encode (some ttl) now).slot key)
    have lasting : some ttl ≠ some 0 := by simp [ttl, Nat.max]
    rw [CounterStore.set_slot_self key now direct, if_neg lasting]
    exact CountsAtMost.written counted bounded _
  · simp only [Racer.count?, Progress.count?, Option.some.injEq] at holds
    omega

theorem Racing.settle (inv : Racing rule key opening c) {i : Fin n} {q p : Progress} {fw : Firewall}
    (going : c.racer i = .going q) (drew : p.count? = q.count?) (records : fw.store.kind = .records)
    (stored : CountsAtMost c.written opening (fw.store.slot key)) (counting : p ≠ .ready)
    (keyed : ∀ d, p ≠ .decided d none)
    (verdict : ∀ d x, p = .decided d (some x) → d.outcome = if rule.limit < x then .throttled else .pass) :
    Racing rule key opening ⟨fw, Function.update c.racer i (.going p)⟩ := by
  have same : (⟨fw, Function.update c.racer i (.going p)⟩ : Race n).written = c.written := by
    have moved := written_update c fw i (.going p)
    rw [going] at moved
    simp only [Racer.count?, drew] at moved
    exact Nat.add_right_cancel moved
  refine inv.update same le_rfl records stored (by simp) (fun x holds => ?_)
    (fun moved => counting (Racer.going.inj moved)) (fun d moved => keyed d (Racer.going.inj moved))
    fun d x moved => verdict d x (Racer.going.inj moved)
  have kept : (c.racer i).count? = some x := by
    rw [going]
    rw [Racer.count?, drew] at holds
    exact holds
  exact inv.drawn i x kept

theorem Racing.step (inv : Racing rule key opening c) (i : Fin n) {now : Nat} (keyed : keys i = some key)
    (late : opening ≤ now) : Racing rule key opening (c.step rule reqs keys i now) := by
  cases racer : c.racer i with
  | ready => exact inv.load racer keyed late
  | loaded t r => exact inv.write racer keyed
  | going p =>
    have moved : c.step rule reqs keys i now = ⟨(p.step rule (reqs i) now c.fw).2,
        Function.update c.racer i (.going (p.step rule (reqs i) now c.fw).1)⟩ := by
      simp only [Race.step, racer, Racer.step]
    rw [moved]
    cases p with
    | ready => exact absurd racer (inv.counting i)
    | counted k x =>
      -- reading the time left only drops an expired record
      refine inv.settle racer rfl (by simp [Progress.step, inv.records]) ?_ (by simp [Progress.step])
        (by simp [Progress.step]) (by simp [Progress.step])
      exact inv.stored.ttlRemaining inv.records k now
    | timed k x retry =>
      by_cases exceeded : rule.limit < x
      · apply inv.settle racer <;> simp [Progress.step, Progress.count?, exceeded, inv.records, inv.stored,
          Decision.throttled]
      · apply inv.settle racer <;> simp [Progress.step, Progress.count?, exceeded, inv.records, inv.stored,
          Decision.pass]
    | decided d x =>
      refine inv.settle racer rfl inv.records inv.stored (by simp [Progress.step]) (fun d' moved => ?_) fun d' x' moved => ?_
      · cases moved
        exact inv.keyed i d racer
      · cases moved
        exact inv.verdict i d x' racer

theorem Racing.start {fw : Firewall} (records : fw.store.kind = .records)
    (unwritten : CountsAtMost 0 opening (fw.store.slot key)) : Racing rule key opening (Race.start fw : Race n) := by
  have none : (Race.start fw : Race n).written = 0 := by simp [written, Race.start, Racer.count?]
  refine ⟨records, by rw [none]; exact unwritten, fun i t r holds => ?_, fun i x holds => ?_, fun i => ?_,
    fun i d => ?_, fun i d x holds => ?_⟩
  all_goals simp_all [Race.start, Racer.count?]

theorem Racing.run (inv : Racing rule key opening c) (oneKey : ∀ i, keys i = some key) :
    ∀ schedule : List (Fin n × Nat), (∀ s ∈ schedule, opening ≤ s.2) →
      Racing rule key opening (c.run rule reqs keys schedule)
  | [], _ => inv
  | (i, now) :: older, late =>
    (inv.run oneKey older fun s mem => late s (List.mem_cons_of_mem _ mem)).step i (oneKey i)
      (late (i, now) List.mem_cons_self)

end Race

/-- Counts on a store without an atomic count are lost under contention but never made up: under
    any interleaving of the steps of `n` decide calls under a lone throttle, all counting under one
    key of a store that keeps records, every reading in one window of the throttle, from a state in
    which the key holds no count of that window: every record under the key that still counts in
    the window, and every count a caller drew, is at most the number of callers whose write back
    has completed; so a caller is throttled only once more callers than the limit have counted. -/
theorem lost_updates_never_inflate (rule : ThrottleRule) (fw : Firewall) {n : Nat} (reqs : Fin n → Request)
    (keys : Fin n → Option String) (key : String) (w : Nat) (schedule : List (Fin n × Nat))
    (records : fw.store.kind = .records) (oneKey : ∀ i, keys i = some key)
    (unwritten : CountsAtMost 0 (w * Nat.max rule.period 1 * 1000) (fw.store.slot key))
    (oneWindow : ∀ s ∈ schedule, windowIndex rule.period s.2 = w) :
    let final := (Race.start fw : Race n).run rule reqs keys schedule
    CountsAtMost final.written (w * Nat.max rule.period 1 * 1000) (final.fw.store.slot key) ∧
      (∀ i x, (final.racer i).count? = some x → x ≤ final.written) ∧
      (∀ i d, (final.racer i).decision? = some d → d.outcome = .throttled → rule.limit < final.written) := by
  intro final
  have inv : Race.Racing rule key (w * Nat.max rule.period 1 * 1000) final :=
    (Race.Racing.start records unwritten).run oneKey schedule fun s mem =>
      opening_le_of_windowIndex (oneWindow s mem)
  refine ⟨inv.stored, inv.drawn, fun i d decided throttled => ?_⟩
  cases racer : final.racer i with
  | going p =>
    cases p with
    | decided d' x =>
      simp only [racer, Racer.decision?, Progress.decision?, Option.some.injEq] at decided
      subst decided
      cases x with
      | none => exact absurd racer (inv.keyed i _)
      | some x =>
        have verdict := inv.verdict i _ x racer
        have drawn := inv.drawn i x (by simp [racer, Racer.count?, Progress.count?])
        rw [throttled] at verdict
        split at verdict
        · omega
        · cases verdict
    | _ => simp [racer, Racer.decision?, Progress.decision?] at decided
  | _ => simp [racer, Racer.decision?] at decided

theorem lost_updates_never_inflate_two_loads :
    let rule : ThrottleRule := ⟨"api", 1, 60, .path⟩
    let fw : Firewall := { rules := { throttles := [rule] }, store := .ofKind .records }
    let reqs : Fin 3 → Request := fun _ => { path := "/api" }
    let keys : Fin 3 → Option String := fun _ => some "rampart:throttle:api:/api"
    -- the first two callers both load before either writes back, and one count is lost
    let schedule : List (Fin 3 × Nat) := [(2, 1011), (1, 1010), (0, 1009), (2, 1008), (1, 1007),
      (0, 1006), (2, 1005), (2, 1004), (1, 1003), (0, 1002), (1, 1001), (0, 1000)]
    let final := (Race.start fw : Race 3).run rule reqs keys schedule
    CountsAtMost final.written (0 * Nat.max rule.period 1 * 1000)
        (final.fw.store.slot "rampart:throttle:api:/api") ∧
      (∀ i x, (final.racer i).count? = some x → x ≤ final.written) ∧
      (∀ i d, (final.racer i).decision? = some d → d.outcome = .throttled → rule.limit < final.written) := by
  intro rule fw reqs keys schedule final
  have unwritten : CountsAtMost 0 (0 * Nat.max rule.period 1 * 1000) (fw.store.slot "rampart:throttle:api:/api") := by
    intro sl found
    cases found
  have oneWindow : ∀ s ∈ schedule, windowIndex rule.period s.2 = 0 := by
    simp [schedule, rule, windowIndex]
  exact lost_updates_never_inflate rule fw reqs keys "rampart:throttle:api:/api" 0 schedule rfl (fun _ => rfl)
    unwritten oneWindow

end RequestFirewall
