import RequestFirewall.Proofs.Counting
/- Fail2ban over whole runs. Each fail2ban rule keeps two things per key: a failure counter,
   counted in fixed windows like a throttle's, and a ban flag that holds until its deadline. A
   decision that reaches the rule with a live flag is blocked and touches neither; otherwise a
   request its filter matches counts a failure, and the failure that reaches the threshold sets
   the flag. Unban deletes the flag, a fail2ban reset deletes the counter, and a flag whose
   deadline has passed reads as absent. Along a run this is a trail of bans and failures; the
   stored flag and counter agree with it after every run, so whether a decision is blocked and
   whether it sets a ban is read off the trail. -/
namespace RequestFirewall

def banDeadline (banSeconds t : Nat) : Nat := Word.satAdd t (secsToMillis banSeconds)

/-- The flag a ban set at `t` leaves: a ban of no seconds leaves none. -/
def banFlag (banSeconds t : Nat) : Option Slot :=
  if banSeconds = 0 then none else some ⟨"1", some (banDeadline banSeconds t)⟩

theorem banDeadline_zero_le (t : Nat) : banDeadline 0 t ≤ t := by
  simp only [banDeadline, secsToMillis, Word.satAdd, Word.satMul, Nat.zero_mul]
  exact Nat.min_le_left t Word.max

namespace Evaluating

variable {req : Request} {rule : Fail2BanRule} {r : Run} {key : String}

theorem checkFail2ban_run_of_live (native : r.fw.store.kind = .native)
    (keyed : rule.key.extract req = some key)
    (live : liveAt (r.fw.store.slot (StoreKey.render ⟨r.fw.options.keyPrefix, .fail2banBan,
      rule.name, key⟩)) r.now = true) :
    ((checkFail2ban req rule).run r).1 = some (.blocked rule.name .fail2ban) ∧
      ((checkFail2ban req rule).run r).2.events = r.events ∧
      ((checkFail2ban req rule).run r).2.fw.store = r.fw.store := by
  have direct : r.fw.store.kind ≠ .failOpen := by simp [native]
  unfold checkFail2ban
  rw [keyed]
  simp only [run_bind, run_storeKey, run_onStore, CounterStore.has_fst _ _ direct, live,
    CounterStore.has_snd_of_live _ _ direct live]
  exact ⟨rfl, rfl, rfl⟩

/-- Without a live ban flag, a fail2ban rule with a key passes on, and the flag is gone. When
    its filter matches, it counts a failure and, once the count reaches the threshold, sets the
    flag and reports the ban. -/
theorem checkFail2ban_run_of_dead (native : r.fw.store.kind = .native)
    (keyed : rule.key.extract req = some key)
    (dead : liveAt (r.fw.store.slot (StoreKey.render ⟨r.fw.options.keyPrefix, .fail2banBan,
      rule.name, key⟩)) r.now = false) {counted : Nat × Slot}
    (counting : countSlot (r.fw.store.slot (StoreKey.render ⟨r.fw.options.keyPrefix, .fail2banFail,
      rule.name, key⟩)) rule.period r.now = counted) (fits : counted.1 ≤ Word.max) :
    ((checkFail2ban req rule).run r).1 = none ∧
      ((checkFail2ban req rule).run r).2.events =
        (if rule.filter.holds req = true ∧ rule.threshold ≤ counted.1 then
          r.events.push (.fail2banBanned rule.name key counted.1 rule.threshold rule.period
            rule.banSeconds)
        else r.events) ∧
      ((checkFail2ban req rule).run r).2.fw.store.slot
          (StoreKey.render ⟨r.fw.options.keyPrefix, .fail2banFail, rule.name, key⟩) =
        (if rule.filter.holds req then some counted.2
        else r.fw.store.slot (StoreKey.render ⟨r.fw.options.keyPrefix, .fail2banFail, rule.name, key⟩)) ∧
      ((checkFail2ban req rule).run r).2.fw.store.slot
          (StoreKey.render ⟨r.fw.options.keyPrefix, .fail2banBan, rule.name, key⟩) =
        (if rule.filter.holds req = true ∧ rule.threshold ≤ counted.1 then
          banFlag rule.banSeconds r.now
        else none) := by
  have direct : r.fw.store.kind ≠ .failOpen := by simp [native]
  unfold checkFail2ban
  rw [keyed]
  simp only [run_bind, run_storeKey, run_onStore, CounterStore.has_fst _ _ direct, dead]
  have apart : StoreKey.render ⟨r.fw.options.keyPrefix, .fail2banFail, rule.name, key⟩ ≠
      StoreKey.render ⟨r.fw.options.keyPrefix, .fail2banBan, rule.name, key⟩ :=
    elsewhere_of_kind_ne (by decide) _ _ _ _ key
  generalize StoreKey.render ⟨r.fw.options.keyPrefix, .fail2banBan, rule.name, key⟩ = ban
    at dead apart ⊢
  generalize named : StoreKey.render ⟨r.fw.options.keyPrefix, .fail2banFail, rule.name, key⟩ = fail
    at counting apart ⊢
  have readBan : (r.fw.store.has ban r.now).2.slot ban = none := by
    rw [CounterStore.has_slot_self _ _ direct, dead]
    rfl
  have readFail : (r.fw.store.has ban r.now).2.slot fail = r.fw.store.slot fail :=
    CounterStore.has_slot_ne apart
  have readNative : (r.fw.store.has ban r.now).2.kind = .native :=
    (CounterStore.has_kind _ _ _).trans native
  generalize (r.fw.store.has ban r.now).2 = read at readBan readFail readNative ⊢
  rw [if_neg Bool.false_ne_true]
  cases holds : rule.filter.holds req with
  | false => exact ⟨rfl, rfl, readFail, readBan⟩
  | true =>
    have fitsRead : (countSlot (read.slot fail) rule.period r.now).1 ≤ Word.max := by
      rw [readFail, counting]
      exact fits
    have count : (read.increment fail rule.period r.now).1 = counted.1 := by
      rw [CounterStore.increment_fst_of_fits readNative fitsRead, readFail, counting]
    have slotted : (read.increment fail rule.period r.now).2.slot fail = some counted.2 := by
      rw [CounterStore.increment_slot_self readNative, countedSlot_of_fits fitsRead, readFail, counting]
    have countedBan : (read.increment fail rule.period r.now).2.slot ban = none :=
      (CounterStore.increment_slot_ne _ apart.symm).trans readBan
    have countedDirect : (read.increment fail rule.period r.now).2.kind ≠ .failOpen := by
      rw [CounterStore.increment_kind, readNative]
      decide
    subst named
    by_cases reached : rule.threshold ≤ counted.1
    · simp only [if_true, run_bind, run_storeKey, run_onStore, run_hit, ge_iff_le, count, reached,
        run_emit, true_and]
      refine ⟨rfl, rfl, (CounterStore.set_slot_ne _ _ apart).trans slotted, ?_⟩
      refine (CounterStore.set_slot_self ban r.now countedDirect "1" (some rule.banSeconds)).trans ?_
      unfold banFlag
      split <;> simp_all [banDeadline]
    · simp only [if_true, run_bind, run_storeKey, run_onStore, run_hit, ge_iff_le, count, reached,
        if_false, and_false]
      exact ⟨rfl, rfl, slotted, countedBan⟩

theorem checkFail2ban_slots (native : r.fw.store.kind = .native) (key : String)
    (fits : (countSlot (r.fw.store.slot (StoreKey.render ⟨r.fw.options.keyPrefix, .fail2banFail,
      rule.name, key⟩)) rule.period r.now).1 ≤ Word.max) :
    ((checkFail2ban req rule).run r).2.fw.store.slot
        (StoreKey.render ⟨r.fw.options.keyPrefix, .fail2banBan, rule.name, key⟩) =
      (if (rule.key.extract req).any (fun k => normalizeKey k == normalizeKey key) &&
          !liveAt (r.fw.store.slot (StoreKey.render ⟨r.fw.options.keyPrefix, .fail2banBan, rule.name,
            key⟩)) r.now then
        if rule.filter.holds req = true ∧ rule.threshold ≤ (countSlot (r.fw.store.slot
            (StoreKey.render ⟨r.fw.options.keyPrefix, .fail2banFail, rule.name, key⟩)) rule.period r.now).1
        then banFlag rule.banSeconds r.now
        else none
      else r.fw.store.slot (StoreKey.render ⟨r.fw.options.keyPrefix, .fail2banBan, rule.name, key⟩)) ∧
    ((checkFail2ban req rule).run r).2.fw.store.slot
        (StoreKey.render ⟨r.fw.options.keyPrefix, .fail2banFail, rule.name, key⟩) =
      (if (rule.key.extract req).any (fun k => normalizeKey k == normalizeKey key) &&
          !liveAt (r.fw.store.slot (StoreKey.render ⟨r.fw.options.keyPrefix, .fail2banBan, rule.name,
            key⟩)) r.now && rule.filter.holds req then
        some (countSlot (r.fw.store.slot (StoreKey.render ⟨r.fw.options.keyPrefix, .fail2banFail,
          rule.name, key⟩)) rule.period r.now).2
      else r.fw.store.slot (StoreKey.render ⟨r.fw.options.keyPrefix, .fail2banFail, rule.name, key⟩)) := by
  cases keyed : rule.key.extract req with
  | none =>
    have step : (checkFail2ban req rule).run r = (none, r) := by
      simp only [checkFail2ban, keyed]
      rfl
    simp [step]
  | some found =>
    by_cases same : normalizeKey found = normalizeKey key
    · -- the rule's own flag and counter for this key
      have address : ∀ kind, StoreKey.render ⟨r.fw.options.keyPrefix, kind, rule.name, found⟩ =
          StoreKey.render ⟨r.fw.options.keyPrefix, kind, rule.name, key⟩ :=
        fun _ => StoreKey.render_key_eq_iff.mpr same
      rw [← address, ← address]
      cases live : liveAt (r.fw.store.slot (StoreKey.render ⟨r.fw.options.keyPrefix, .fail2banBan,
          rule.name, found⟩)) r.now with
      | true =>
        obtain ⟨-, -, store⟩ := checkFail2ban_run_of_live native keyed live
        simp [store]
      | false =>
        obtain ⟨-, -, failSlot, banSlot⟩ := checkFail2ban_run_of_dead native keyed live rfl
          (by rw [address]; exact fits)
        simp [same, failSlot, banSlot]
    · -- the flag and counter of another key
      have elsewhere : ∀ kind, StoreKey.render ⟨r.fw.options.keyPrefix, kind, rule.name, key⟩ ≠
          StoreKey.render ⟨r.fw.options.keyPrefix, kind, rule.name, found⟩ :=
        fun _ equal => same (StoreKey.render_key_eq_iff.mp equal).symm
      have avoids : ∀ kind, Avoids r.fw.rules r.fw.options
          (StoreKey.render ⟨r.fw.options.keyPrefix, kind, rule.name, key⟩) (checkFail2ban req rule) :=
        fun kind => checkFail2ban_avoids req
          (fun k' keyed' => by
            rw [keyed] at keyed'
            cases keyed'
            by_cases kinds : kind = .fail2banBan
            · exact kinds ▸ elsewhere _
            · exact elsewhere_of_kind_ne (Ne.symm kinds) _ _ _ _ found)
          (fun k' keyed' => by
            rw [keyed] at keyed'
            cases keyed'
            by_cases kinds : kind = .fail2banFail
            · exact kinds ▸ elsewhere _
            · exact elsewhere_of_kind_ne (Ne.symm kinds) _ _ _ _ found)
      have differs : (normalizeKey found == normalizeKey key) = false := by simp [same]
      simp only [Option.any_some, differs, Bool.false_and, Bool.false_eq_true, if_false]
      exact ⟨avoids _ r rfl rfl, avoids _ r rfl rfl⟩

end Evaluating

/-- Whether a decision reaches the fail2ban rule `rule`, after the rules `before`, with a key
    that normalizes as `key` does. -/
def reachesFail2ban (before : List Fail2BanRule) (rule : Fail2BanRule) (key : String)
    (fw : Firewall) (req : Request) (now : Nat) : Bool :=
  ((Evaluating.fail2bansReached req before).run { fw, now }).1.isNone &&
    (rule.key.extract req).any fun k => normalizeKey k == normalizeKey key

theorem fail2ban_slot_apart {kind : CounterKind}
    (fail2ban : kind = .fail2banBan ∨ kind = .fail2banFail) (pre rule key : String) :
    (∀ r : TrackRule, Elsewhere pre .track r.name (StoreKey.render ⟨pre, kind, rule, key⟩)) ∧
      (∀ r : ThrottleRule, Elsewhere pre .throttle r.name (StoreKey.render ⟨pre, kind, rule, key⟩)) := by
  rcases fail2ban with rfl | rfl <;>
    exact ⟨fun _ => elsewhere_of_kind_ne (by decide) _ _ _ _,
      fun _ => elsewhere_of_kind_ne (by decide) _ _ _ _⟩

section Fail2ban

variable {fw : Firewall} {before after : List Fail2BanRule} {rule : Fail2BanRule} {key : String}

theorem decide_slots_of_fail2ban (native : fw.store.kind = .native)
    (split : fw.rules.fail2bans = before ++ rule :: after)
    (owned : ∀ other ∈ before ++ after,
      Elsewhere fw.options.keyPrefix .fail2banBan other.name (fw.storeKey .fail2banBan rule.name key) ∧
        Elsewhere fw.options.keyPrefix .fail2banFail other.name (fw.storeKey .fail2banFail rule.name key))
    (req : Request) (now : Nat)
    (fits : (countSlot (fw.store.slot (fw.storeKey .fail2banFail rule.name key)) rule.period now).1 ≤
      Word.max) :
    (fw.decide req now).2.2.store.slot (fw.storeKey .fail2banBan rule.name key) =
        (if reachesFail2ban before rule key fw req now &&
            !liveAt (fw.store.slot (fw.storeKey .fail2banBan rule.name key)) now then
          if rule.filter.holds req = true ∧ rule.threshold ≤
              (countSlot (fw.store.slot (fw.storeKey .fail2banFail rule.name key)) rule.period now).1
          then banFlag rule.banSeconds now
          else none
        else fw.store.slot (fw.storeKey .fail2banBan rule.name key)) ∧
      (fw.decide req now).2.2.store.slot (fw.storeKey .fail2banFail rule.name key) =
        (if reachesFail2ban before rule key fw req now &&
            !liveAt (fw.store.slot (fw.storeKey .fail2banBan rule.name key)) now &&
            rule.filter.holds req then
          some (countSlot (fw.store.slot (fw.storeKey .fail2banFail rule.name key)) rule.period now).2
        else fw.store.slot (fw.storeKey .fail2banFail rule.name key)) := by
  unfold Firewall.storeKey at owned ⊢
  have banApart := fail2ban_slot_apart (Or.inl rfl) fw.options.keyPrefix rule.name key
  have failApart := fail2ban_slot_apart (Or.inr rfl) fw.options.keyPrefix rule.name key
  have banOthers : ∀ other ∈ before ++ after,
      Elsewhere fw.options.keyPrefix .fail2banBan other.name
          (StoreKey.render ⟨fw.options.keyPrefix, .fail2banBan, rule.name, key⟩) ∧
        Elsewhere fw.options.keyPrefix .fail2banFail other.name
          (StoreKey.render ⟨fw.options.keyPrefix, .fail2banBan, rule.name, key⟩) :=
    fun other mem => ⟨(owned other mem).1, elsewhere_of_kind_ne (by decide) _ _ _ _⟩
  have failOthers : ∀ other ∈ before ++ after,
      Elsewhere fw.options.keyPrefix .fail2banBan other.name
          (StoreKey.render ⟨fw.options.keyPrefix, .fail2banFail, rule.name, key⟩) ∧
        Elsewhere fw.options.keyPrefix .fail2banFail other.name
          (StoreKey.render ⟨fw.options.keyPrefix, .fail2banFail, rule.name, key⟩) :=
    fun other mem => ⟨elsewhere_of_kind_ne (by decide) _ _ _ _, (owned other mem).2⟩
  show ((Evaluating.decide req).run { fw, now }).2.fw.store.slot _ = _ ∧
    ((Evaluating.decide req).run { fw, now }).2.fw.store.slot _ = _
  rw [Evaluating.decide_run_of_fail2bans
    (show ({ fw, now } : Run).fw.rules.fail2bans = before ++ rule :: after from split),
    Evaluating.run_bind]
  unfold reachesFail2ban
  have reachBan := Evaluating.fail2bansReached_avoids req (fun r _ => banApart.1 r)
    (fun other mem => banOthers other (List.mem_append_left _ mem)) { fw, now } rfl rfl
  have reachFail := Evaluating.fail2bansReached_avoids req (fun r _ => failApart.1 r)
    (fun other mem => failOthers other (List.mem_append_left _ mem)) { fw, now } rfl rfl
  have reachKeeps := Evaluating.fail2bansReached_steady req before { fw, now }
  generalize (Evaluating.fail2bansReached req before).run { fw, now } = reached
    at reachBan reachFail reachKeeps
  obtain ⟨res, r₂⟩ := reached
  dsimp only at reachBan reachFail reachKeeps ⊢
  cases res with
  | some d =>
    simp only [Option.isNone_some, Bool.false_and, Bool.false_eq_true, if_false]
    exact ⟨reachBan, reachFail⟩
  | none =>
    simp only [Option.isNone_none, Bool.true_and]
    rw [Evaluating.fromFail2bans_cons, Evaluating.run_bind]
    have stepKeeps := Evaluating.checkFail2ban_steady req rule r₂
    have tailBan := @Evaluating.afterFail2ban_avoids fw.rules fw.options _ req after
      (fun other mem => banOthers other (List.mem_append_right _ mem)) (fun r _ => banApart.2 r)
      ((Evaluating.checkFail2ban req rule).run r₂).1 _
      (stepKeeps.rules.trans reachKeeps.rules) (stepKeeps.options.trans reachKeeps.options)
    have tailFail := @Evaluating.afterFail2ban_avoids fw.rules fw.options _ req after
      (fun other mem => failOthers other (List.mem_append_right _ mem)) (fun r _ => failApart.2 r)
      ((Evaluating.checkFail2ban req rule).run r₂).1 _
      (stepKeeps.rules.trans reachKeeps.rules) (stepKeeps.options.trans reachKeeps.options)
    obtain ⟨banStep, failStep⟩ :=
      @Evaluating.checkFail2ban_slots req rule r₂ (reachKeeps.kind.trans native) key
        (by rw [reachKeeps.options, reachKeeps.now, reachFail]; exact fits)
    rw [reachKeeps.options, reachKeeps.now] at banStep failStep
    dsimp only at banStep failStep
    refine ⟨tailBan.trans ?_, tailFail.trans ?_⟩
    · rw [banStep, reachBan, reachFail]
    · rw [failStep, reachBan, reachFail]

end Fail2ban

/-- What a run did to one fail2ban rule for one key, newest first: the bans it set (`count t`)
    and lifted (`reset`), and the failures it counted and cleared. -/
structure BanTrail where
  bans : List Touch
  failures : List Touch

/-- Whether the newest ban since the last lift still holds at `now`. -/
def BanTrail.banned (trail : BanTrail) (banSeconds now : Nat) : Bool :=
  match lastCount trail.bans with
  | some t => decide (now < banDeadline banSeconds t)
  | none => false

namespace BanTrail

/-- The trail after a decision at `now` that reaches the rule with the key or not (`reaches`),
    and that its filter matches or not (`holds`). Without a ban holding, a decision that reaches
    the rule and that its filter matches counts a failure, and sets a ban when the failures of
    its window since the last clear reach the threshold. -/
def onDecision (trail : BanTrail) (rule : Fail2BanRule) (reaches holds : Bool) (now : Nat) :
    BanTrail :=
  if reaches && !trail.banned rule.banSeconds now && holds then
    let failures := Touch.count now :: trail.failures
    ⟨(if rule.threshold ≤ windowTally rule.period now failures then .count now else .skip) ::
      trail.bans, failures⟩
  else ⟨.skip :: trail.bans, .skip :: trail.failures⟩

def onAdmin (trail : BanTrail) (lifts clears : Bool) : BanTrail :=
  ⟨(if lifts then .reset else .skip) :: trail.bans, (if clears then .reset else .skip) :: trail.failures⟩

end BanTrail

/-- The trail of the fail2ban rule `rule`, after the rules `before`, for `key` along a run: an
    unban or a reset at the rule's store key lifts the ban or clears the failures. -/
def Firewall.banTrail (start : Firewall) (before : List Fail2BanRule) (rule : Fail2BanRule)
    (key : String) : List Call → BanTrail
  | [] => ⟨[], []⟩
  | c :: older =>
    let trail := start.banTrail before rule key older
    let fw := start.replay older
    match c with
    | .decide req now =>
      trail.onDecision rule (reachesFail2ban before rule key fw req now) (rule.filter.holds req) now
    | c => trail.onAdmin (c.clears fw (start.storeKey .fail2banBan rule.name key))
        (c.clears fw (start.storeKey .fail2banFail rule.name key))

def lastClock : List Call → Nat
  | [] => 0
  | c :: older => c.clock?.getD (lastClock older)

theorem lastClock_eq_latestReading : ∀ calls : List Call, lastClock calls = latestReading Call.clock? calls
  | [] => rfl
  | c :: older => by simp only [lastClock, latestReading, lastClock_eq_latestReading older]

theorem lastClock_le {now : Nat} {calls : List Call}
    (bound : ∀ c ∈ calls, ∀ t, c.clock? = some t → t ≤ now) : lastClock calls ≤ now := by
  rw [lastClock_eq_latestReading]
  exact latestReading_le bound

/-- The ban flag agrees with the bans of a trail as of the clock reading `clock`: no flag
    without a ban since the last lift, and after a ban set at `t` its flag, or none once the
    ban has run out. -/
def BanAgrees (banSeconds : Nat) (bans : List Touch) (flag : Option Slot) (clock : Nat) : Prop :=
  match lastCount bans with
  | none => flag = none
  | some t => flag = some ⟨"1", some (banDeadline banSeconds t)⟩ ∨
      (flag = none ∧ banDeadline banSeconds t ≤ clock)

section BanAgrees

variable {banSeconds clock : Nat} {bans : List Touch} {flag : Option Slot}

theorem liveAt_of_banAgrees (agrees : BanAgrees banSeconds bans flag clock) {now : Nat}
    (late : clock ≤ now) : liveAt flag now = BanTrail.banned ⟨bans, []⟩ banSeconds now := by
  unfold BanAgrees at agrees
  unfold BanTrail.banned
  split at agrees
  · rename_i none
    simp [none, agrees, liveAt]
  · rename_i t some
    simp only [some]
    rcases agrees with flagged | ⟨gone, ended⟩
    · by_cases ended : banDeadline banSeconds t ≤ now
      · simp [flagged, liveAt, Slot.expired, ended]
      · simp [flagged, liveAt, Slot.expired, ended, Nat.lt_of_not_le ended]
    · simp only [gone, liveAt]
      exact (decide_eq_false (by omega)).symm

theorem banAgrees_later (agrees : BanAgrees banSeconds bans flag clock) {clock' : Nat}
    (later : clock ≤ clock') : BanAgrees banSeconds bans flag clock' := by
  unfold BanAgrees at agrees ⊢
  split at agrees
  · exact agrees
  · rcases agrees with flagged | ⟨gone, ended⟩
    · exact Or.inl flagged
    · exact Or.inr ⟨gone, Nat.le_trans ended later⟩

theorem banAgrees_gone (agrees : BanAgrees banSeconds bans flag clock) {now : Nat}
    (free : BanTrail.banned ⟨bans, []⟩ banSeconds now = false) :
    BanAgrees banSeconds bans none now := by
  unfold BanAgrees at agrees ⊢
  unfold BanTrail.banned at free
  split at agrees
  · rfl
  · rename_i t some
    simp only [some, decide_eq_false_iff_not, Nat.not_lt] at free
    exact Or.inr ⟨rfl, free⟩

theorem banAgrees_set (now : Nat) :
    BanAgrees banSeconds (.count now :: bans) (banFlag banSeconds now) now := by
  unfold BanAgrees banFlag
  simp only [lastCount]
  split
  · rename_i zero
    subst zero
    exact Or.inr ⟨rfl, banDeadline_zero_le now⟩
  · exact Or.inl rfl

end BanAgrees

/-- The flag and the counter of a fail2ban rule for one key agree with its trail as of the
    clock reading `clock`. -/
structure TrailAgrees (rule : Fail2BanRule) (trail : BanTrail) (flag counter : Option Slot)
    (clock : Nat) : Prop where
  bans : BanAgrees rule.banSeconds trail.bans flag clock
  failures : SlotAgrees rule.period trail.failures counter
  chronological : Chronological trail.failures
  settled : ∀ t, .count t ∈ trail.failures → t ≤ clock

theorem count_mem_of_mem_cons {touch : Touch} {touches : List Touch} {t : Nat}
    (notCount : ∀ t', touch ≠ .count t') (mem : Touch.count t ∈ touch :: touches) :
    Touch.count t ∈ touches :=
  (List.mem_cons.mp mem).resolve_left fun same => notCount t same.symm

section Trail

variable {start : Firewall} {before after : List Fail2BanRule} {rule : Fail2BanRule} {key : String}

theorem trailAgrees_decide {fw : Firewall} (setup : start.SameSetup fw)
    (native : start.store.kind = .native) (split : start.rules.fail2bans = before ++ rule :: after)
    (owned : ∀ other ∈ before ++ after,
      Elsewhere start.options.keyPrefix .fail2banBan other.name
          (start.storeKey .fail2banBan rule.name key) ∧
        Elsewhere start.options.keyPrefix .fail2banFail other.name
          (start.storeKey .fail2banFail rule.name key))
    {trail : BanTrail} {clock : Nat}
    (agrees : TrailAgrees rule trail (fw.store.slot (start.storeKey .fail2banBan rule.name key))
      (fw.store.slot (start.storeKey .fail2banFail rule.name key)) clock)
    {req : Request} {now : Nat} (late : clock ≤ now) (below : now < Word.max)
    (fits : windowTally rule.period now (.count now :: trail.failures) ≤ Word.max) :
    TrailAgrees rule
      (trail.onDecision rule (reachesFail2ban before rule key fw req now) (rule.filter.holds req) now)
      ((fw.decide req now).2.2.store.slot (start.storeKey .fail2banBan rule.name key))
      ((fw.decide req now).2.2.store.slot (start.storeKey .fail2banFail rule.name key)) now := by
  have sameKey : ∀ kind, fw.storeKey kind rule.name key = start.storeKey kind rule.name key := by
    intro kind
    rw [Firewall.storeKey, Firewall.storeKey, setup.options]
  have live : liveAt (fw.store.slot (start.storeKey .fail2banBan rule.name key)) now =
      trail.banned rule.banSeconds now := liveAt_of_banAgrees agrees.bans late
  have settled : ∀ t, .count t ∈ trail.failures → t ≤ now :=
    fun t mem => (agrees.settled t mem).trans late
  obtain ⟨count, counted⟩ := countSlot_agrees agrees.failures agrees.chronological settled below
  rw [Nat.min_eq_left (Nat.le_succ_of_le fits)] at count
  rw [countedSlot_of_fits (count ▸ fits)] at counted
  obtain ⟨banAfter, failAfter⟩ := decide_slots_of_fail2ban (setup.kind.trans native)
    (setup.rules ▸ split) (by rw [sameKey, sameKey, setup.options]; exact owned) req now
    (by rw [sameKey, count]; exact fits)
  rw [sameKey, sameKey] at banAfter failAfter
  rw [live, count] at banAfter
  rw [live] at failAfter
  rw [banAfter, failAfter]
  unfold BanTrail.onDecision
  by_cases counts : (reachesFail2ban before rule key fw req now && !trail.banned rule.banSeconds now &&
      rule.filter.holds req) = true
  · -- a failure is counted, and a ban set once the count reaches the threshold
    simp only [Bool.and_eq_true, Bool.not_eq_true'] at counts
    obtain ⟨⟨reaches, free⟩, holds⟩ := counts
    simp only [reaches, free, holds, Bool.not_false, Bool.and_self, if_true, true_and]
    refine ⟨?_, counted, ⟨fun t mem => settled t mem, agrees.chronological⟩, ?_⟩
    · by_cases full : rule.threshold ≤ windowTally rule.period now (.count now :: trail.failures)
      · simp only [full, if_true]
        exact banAgrees_set now
      · simp only [full, if_false]
        exact banAgrees_gone agrees.bans free
    · intro t mem
      rcases List.mem_cons.mp mem with here | there
      · cases here
        exact Nat.le_refl now
      · exact settled t there
  · -- nothing is counted; a flag that is no longer live may be dropped
    simp only [counts, if_false, Bool.false_eq_true]
    refine ⟨?_, slotAgrees_skip.mpr agrees.failures, agrees.chronological,
      fun t mem => settled t (count_mem_of_mem_cons (fun _ => by simp) mem)⟩
    split
    · rename_i reachesFree
      simp only [Bool.and_eq_true, Bool.not_eq_true'] at reachesFree counts
      have holds : rule.filter.holds req = false := by simpa [reachesFree] using counts
      simp only [holds, Bool.false_eq_true, false_and, if_false]
      exact banAgrees_gone agrees.bans reachesFree.2
    · exact banAgrees_later agrees.bans late

theorem trailAgrees_admin {fw : Firewall} (direct : fw.store.kind ≠ .failOpen)
    (sameOptions : fw.options = start.options) {trail : BanTrail} {clock : Nat}
    (agrees : TrailAgrees rule trail (fw.store.slot (start.storeKey .fail2banBan rule.name key))
      (fw.store.slot (start.storeKey .fail2banFail rule.name key)) clock)
    {c : Call} (admin : ∀ req now, c ≠ .decide req now)
    (late : ∀ now, c.clock? = some now → clock ≤ now) :
    TrailAgrees rule
      (trail.onAdmin (c.clears fw (start.storeKey .fail2banBan rule.name key))
        (c.clears fw (start.storeKey .fail2banFail rule.name key)))
      ((fw.perform c).store.slot (start.storeKey .fail2banBan rule.name key))
      ((fw.perform c).store.slot (start.storeKey .fail2banFail rule.name key))
      (c.clock?.getD clock) := by
  have later : clock ≤ c.clock?.getD clock := by
    cases clock? : c.clock? with
    | none => exact Nat.le_refl clock
    | some now => exact late now clock?
  have notBan : ∀ rule', Elsewhere fw.options.keyPrefix .fail2banBan rule'
      (start.storeKey .fail2banFail rule.name key) := by
    intro rule'
    rw [sameOptions]
    exact elsewhere_of_kind_ne (by decide) _ _ _ _
  have failures := Firewall.perform_slot_of_admin direct notBan admin
  unfold BanTrail.onAdmin
  refine ⟨?_, ?_, ?_, ?_⟩
  · -- the flag is lifted, kept, or dropped by a read once it is no longer live
    dsimp only
    rcases Firewall.perform_slot_cases_of_admin
        (a := start.storeKey .fail2banBan rule.name key) direct admin with
      kept | ⟨stays, now, clock?, dead, gone⟩
    · rw [kept]
      split
      · rfl
      · exact banAgrees_later agrees.bans later
    · rw [stays, gone, clock?]
      have free := (liveAt_of_banAgrees agrees.bans (late now clock?)).symm.trans dead
      exact banAgrees_gone agrees.bans free
  · -- the counter is cleared or kept
    dsimp only
    rw [failures]
    split
    · exact slotAgrees_reset.mpr rfl
    · exact slotAgrees_skip.mpr agrees.failures
  · dsimp only
    split <;> exact agrees.chronological
  · intro t mem
    refine Nat.le_trans (agrees.settled t (count_mem_of_mem_cons ?_ mem)) later
    intro t'
    split <;> simp

end Trail

theorem banTrail_failures_length (start : Firewall) (before : List Fail2BanRule)
    (rule : Fail2BanRule) (key : String) :
    ∀ calls : List Call, (start.banTrail before rule key calls).failures.length = calls.length
  | [] => rfl
  | c :: older => by
    have rest := banTrail_failures_length start before rule key older
    cases c with
    | decide req now =>
      simp only [Firewall.banTrail, BanTrail.onDecision]
      split <;> simp [rest]
    | _ => simp [Firewall.banTrail, BanTrail.onAdmin, rest]

section Runs

variable {rules : RuleSet} {options : FirewallOptions} {before after : List Fail2BanRule}
  {rule : Fail2BanRule} {key : String}

/-- After every run whose clock goes forward below the largest word, and that is no longer than
    the largest word, the flag and the counter of `rule` for `key` agree with its trail, when no
    other fail2ban rule of the set can address them. -/
theorem banTrail_agrees (split : rules.fail2bans = before ++ rule :: after)
    (owned : ∀ other ∈ before ++ after,
      Elsewhere options.keyPrefix .fail2banBan other.name
          ((Firewall.create rules {} options).storeKey .fail2banBan rule.name key) ∧
        Elsewhere options.keyPrefix .fail2banFail other.name
          ((Firewall.create rules {} options).storeKey .fail2banFail rule.name key)) :
    ∀ {calls : List Call}, Clocked calls → calls.length ≤ Word.max →
      TrailAgrees rule ((Firewall.create rules {} options).banTrail before rule key calls)
        (((Firewall.create rules {} options).replay calls).store.slot
          ((Firewall.create rules {} options).storeKey .fail2banBan rule.name key))
        (((Firewall.create rules {} options).replay calls).store.slot
          ((Firewall.create rules {} options).storeKey .fail2banFail rule.name key))
        (lastClock calls)
  | [], _, _ => ⟨rfl, rfl, trivial, fun _ mem => nomatch mem⟩
  | c :: older, clocked, short => by
    have shorter : older.length ≤ Word.max := Nat.le_of_succ_le short
    have agrees := banTrail_agrees split owned clocked.2 shorter
    have setup := Firewall.sameSetup_replay (Firewall.create rules {} options) older
    cases c with
    | decide req now =>
      have fits : windowTally rule.period now
          (.count now :: ((Firewall.create rules {} options).banTrail before rule key older).failures) ≤
            Word.max := by
        calc _ ≤ (Touch.count now ::
                ((Firewall.create rules {} options).banTrail before rule key older).failures).length :=
              windowTally_le_length _ _ _
          _ = (Call.decide req now :: older).length := by
              simp [banTrail_failures_length]
          _ ≤ Word.max := short
      exact trailAgrees_decide setup rfl split owned agrees (lastClock_le (clocked.1 now rfl).2)
        (clocked.1 now rfl).1 fits
    | _ =>
      exact trailAgrees_admin (setup.kind ▸ show StoreKind.native ≠ .failOpen by decide) setup.options
        agrees (by intro _ _ h; cases h)
        fun now clock? => lastClock_le (clocked.1 now clock?).2

/-- Fail2ban over whole runs from an empty memory store, whose clock goes forward below the
    largest word and that is no longer than the largest word. A decision that reaches the
    fail2ban rule `rule` with a key normalizing as `k` does is blocked by it exactly when a ban
    of the trail holds: the newest ban set since the last unban at the rule's store key, at
    `t₀`, with `now` before `t₀` plus the ban length; the decision is then blocked by the rule.
    Otherwise it passes on, and sets a ban and reports it exactly when its filter matches and it
    is the `i`-th failure of its window since the last reset at the rule's store key, with `i`
    at least the threshold. The rule must be alone among the fail2ban rules at its store keys. -/
theorem fail2ban_blocks_and_bans {calls : List Call} {req : Request} {now : Nat} {k key : String}
    {r : Run} (clocked : Clocked (.decide req now :: calls)) (short : calls.length < Word.max)
    (split : rules.fail2bans = before ++ rule :: after)
    (owned : ∀ other ∈ before ++ after,
      Elsewhere options.keyPrefix .fail2banBan other.name
          ((Firewall.create rules {} options).storeKey .fail2banBan rule.name k) ∧
        Elsewhere options.keyPrefix .fail2banFail other.name
          ((Firewall.create rules {} options).storeKey .fail2banFail rule.name k))
    (reached : (Evaluating.fail2bansReached req before).run
      { fw := (Firewall.create rules {} options).replay calls, now } = (none, r))
    (keyed : rule.key.extract req = some key) (same : normalizeKey key = normalizeKey k) :
    ((Evaluating.checkFail2ban req rule).run r).1 =
        (if ((Firewall.create rules {} options).banTrail before rule k calls).banned
            rule.banSeconds now then
          some (Decision.blocked rule.name .fail2ban)
        else none) ∧
      (((Firewall.create rules {} options).banTrail before rule k calls).banned rule.banSeconds now →
        (((Firewall.create rules {} options).replay calls).decide req now).1 =
          Decision.blocked rule.name .fail2ban) ∧
      ((Evaluating.checkFail2ban req rule).run r).2.events =
        let trail := (Firewall.create rules {} options).banTrail before rule k calls
        let i := windowTally rule.period now (.count now :: trail.failures)
        if trail.banned rule.banSeconds now = false ∧ rule.filter.holds req = true ∧
            rule.threshold ≤ i then
          r.events.push (.fail2banBanned rule.name key i rule.threshold rule.period rule.banSeconds)
        else r.events := by
  set start := Firewall.create rules {} options
  set fw := start.replay calls
  set trail := start.banTrail before rule k calls
  have setup := Firewall.sameSetup_replay start calls
  have agrees : TrailAgrees rule trail (fw.store.slot (start.storeKey .fail2banBan rule.name k))
      (fw.store.slot (start.storeKey .fail2banFail rule.name k)) (lastClock calls) :=
    banTrail_agrees split owned clocked.2 (Nat.le_of_lt short)
  have late : lastClock calls ≤ now := lastClock_le (clocked.1 now rfl).2
  have banApart := fail2ban_slot_apart (Or.inl rfl) options.keyPrefix rule.name k
  have failApart := fail2ban_slot_apart (Or.inr rfl) options.keyPrefix rule.name k
  have reachBan := Evaluating.fail2bansReached_avoids req (fun r _ => banApart.1 r)
    (fun other mem => ⟨(owned other (List.mem_append_left _ mem)).1,
      elsewhere_of_kind_ne (by decide) _ _ _ _⟩) { fw, now } setup.rules setup.options
  have reachFail := Evaluating.fail2bansReached_avoids req (fun r _ => failApart.1 r)
    (fun other mem => ⟨elsewhere_of_kind_ne (by decide) _ _ _ _,
      (owned other (List.mem_append_left _ mem)).2⟩) { fw, now } setup.rules setup.options
  have reachKeeps := Evaluating.fail2bansReached_steady req before { fw, now }
  rw [reached] at reachBan reachFail reachKeeps
  have address : ∀ kind, StoreKey.render ⟨r.fw.options.keyPrefix, kind, rule.name, key⟩ =
      start.storeKey kind rule.name k := by
    intro kind
    rw [reachKeeps.options, setup.options, Firewall.storeKey, StoreKey.render_key_eq_iff]
    exact same
  have native : r.fw.store.kind = .native := reachKeeps.kind.trans setup.kind
  have live : liveAt (r.fw.store.slot (StoreKey.render ⟨r.fw.options.keyPrefix, .fail2banBan,
      rule.name, key⟩)) r.now = trail.banned rule.banSeconds now := by
    rw [address, reachKeeps.now]
    exact (congrArg (liveAt · now) reachBan).trans (liveAt_of_banAgrees agrees.bans late)
  cases banned : trail.banned rule.banSeconds now with
  | true =>
    obtain ⟨decision, events, -⟩ := Evaluating.checkFail2ban_run_of_live native keyed (live.trans banned)
    refine ⟨decision, fun _ => ?_, by simp [events, banned]⟩
    show ((Evaluating.decide req).run { fw, now }).1 = _
    rw [Evaluating.decide_run_of_fail2bans
      (show ({ fw, now } : Run).fw.rules.fail2bans = before ++ rule :: after from setup.rules ▸ split),
      Evaluating.run_bind, reached]
    dsimp only
    rw [Evaluating.fromFail2bans_cons, Evaluating.run_bind, decision]
    rfl
  | false =>
    -- no ban holds: the count the rule sees is the tally of the trail's failures
    have counting : countSlot (r.fw.store.slot (StoreKey.render ⟨r.fw.options.keyPrefix,
        .fail2banFail, rule.name, key⟩)) rule.period r.now =
          countSlot (fw.store.slot (start.storeKey .fail2banFail rule.name k)) rule.period now := by
      rw [address, reachKeeps.now]
      exact congrArg (countSlot · rule.period now) reachFail
    have fits : windowTally rule.period now (.count now :: trail.failures) ≤ Word.max := by
      calc _ ≤ (Touch.count now :: trail.failures).length := windowTally_le_length _ _ _
        _ = calls.length + 1 := by simp [trail, banTrail_failures_length]
        _ ≤ Word.max := short
    have count := (countSlot_agrees agrees.failures agrees.chronological
      (fun t mem => (agrees.settled t mem).trans late) (clocked.1 now rfl).1).1
    rw [Nat.min_eq_left (Nat.le_succ_of_le fits)] at count
    obtain ⟨decision, events, -, -⟩ :=
      Evaluating.checkFail2ban_run_of_dead native keyed (live.trans banned) counting (count ▸ fits)
    refine ⟨decision, fun free => absurd free (by simp), ?_⟩
    rw [events, count]
    simp [banned]

end Runs

/-- One failure at 0.5 s bans `/login` for ten minutes under a threshold of one, so the next
    request, at 1 s, is blocked by the rule. -/
theorem fail2ban_blocks_and_bans_login :
    Clocked [.decide { path := "/login" } 1000, .decide { path := "/login" } 500] ∧
      (((Firewall.create { fail2bans := [⟨"login", 1, 60, 600, .always, .path⟩] } {} {}).replay
          [.decide { path := "/login" } 500]).decide { path := "/login" } 1000).1 =
        Decision.blocked "login" .fail2ban := by
  have clocked : Clocked [.decide ({ path := "/login" } : Request) 1000,
      .decide { path := "/login" } 500] := by
    simp [Clocked, Call.clock?, Word.max]
  have banned : ((Firewall.create { fail2bans := [⟨"login", 1, 60, 600, .always, .path⟩] } {} {}).banTrail
      [] ⟨"login", 1, 60, 600, .always, .path⟩ "/login" [.decide { path := "/login" } 500]).banned
        600 1000 = true := by
    decide
  obtain ⟨-, blocks, -⟩ := @fail2ban_blocks_and_bans
    { fail2bans := [⟨"login", 1, 60, 600, .always, .path⟩] } {} [] [] ⟨"login", 1, 60, 600, .always, .path⟩
    [.decide { path := "/login" } 500] { path := "/login" } 1000 "/login" "/login" _ clocked (by decide)
    rfl (by simp) (Prod.ext (by decide) rfl) rfl rfl
  exact ⟨clocked, blocks banned⟩

/-- Bans are lifted by store key, not by rule name: once `login` has banned `/x`, an unban for
    ` login`, whose name normalizes alike, lifts that ban, so the next request for `/x` passes. -/
theorem ban_lifted_by_name_alike :
    " login" ≠ "login" ∧ normalizeKey " login" = normalizeKey "login" ∧
      (((Firewall.create { fail2bans := [⟨"login", 1, 60, 600, .always, .path⟩] } {} {}).replay
          [.decide { path := "/x" } 1000]).decide { path := "/x" } 1000).1 =
        Decision.blocked "login" .fail2ban ∧
      (((Firewall.create { fail2bans := [⟨"login", 1, 60, 600, .always, .path⟩] } {} {}).replay
          [.unban " login" "/x", .decide { path := "/x" } 1000, .decide { path := "/x" } 1000]).decide
            { path := "/x" } 1000).1 = Decision.pass none := by
  decide


end RequestFirewall
