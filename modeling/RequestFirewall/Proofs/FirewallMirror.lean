import RequestFirewall.Proofs.CounterRecords
/- A firewall over either store. A firewall over a records store and one over a native store,
   with the same rules and options, go through every run of decisions and admin calls in
   lockstep: ban flags are read, set and lifted in both by the same operations on the same
   slots, and every other address a decision touches holds a counter, which the two stores keep
   in agreement (`StoreMirror`). Each decision counts at most once per track rule, fail2ban rule
   and throttle, so a run with fewer increments than the largest word keeps room to spare, and
   every call answers alike in both. -/
namespace RequestFirewall

def BanAddress (pre a : String) : Prop :=
  ∃ rule key, a = StoreKey.render ⟨pre, .fail2banBan, rule, key⟩

theorem not_banAddress {kind : CounterKind} (counter : kind ≠ .fail2banBan) (pre rule key : String) :
    ¬BanAddress pre (StoreKey.render ⟨pre, kind, rule, key⟩) := by
  rintro ⟨rule', key', same⟩
  exact elsewhere_of_kind_ne counter.symm pre rule' rule key key' same

def RuleSet.countingRules (rules : RuleSet) : Nat :=
  rules.tracks.length + rules.fail2bans.length + rules.throttles.length

/-- Two firewalls alike but for their stores, a native one and one of records, which agree as
    of the clock reading `clock` with room for `room` more increments. -/
structure Firewall.Mirrors (room clock : Nat) (fw₁ fw₂ : Firewall) : Prop where
  rules : fw₂.rules = fw₁.rules
  options : fw₂.options = fw₁.options
  diagnostics : fw₂.diagnostics = fw₁.diagnostics
  stores : StoreMirror (BanAddress fw₁.options.keyPrefix) room clock fw₁.store fw₂.store

theorem Firewall.Mirrors.mono {room clock : Nat} {fw₁ fw₂ : Firewall} (mirror : fw₁.Mirrors room clock fw₂)
    {room' clock' : Nat} (fewer : room' ≤ room) (later : clock ≤ clock') : fw₁.Mirrors room' clock' fw₂ :=
  ⟨mirror.rules, mirror.options, mirror.diagnostics, mirror.stores.mono fewer later⟩

/-- Two states of a decision alike but for their stores, which agree as of the decision's clock
    reading. -/
structure Run.Mirrors (room : Nat) (r₁ r₂ : Run) : Prop where
  firewalls : r₁.fw.Mirrors room r₁.now r₂.fw
  now : r₂.now = r₁.now
  events : r₂.events = r₁.events

namespace Run.Mirrors

variable {room : Nat} {r₁ r₂ : Run}

theorem mono (mirror : r₁.Mirrors room r₂) {room' : Nat} (fewer : room' ≤ room) : r₁.Mirrors room' r₂ :=
  ⟨mirror.firewalls.mono fewer (Nat.le_refl _), mirror.now, mirror.events⟩

theorem hit (mirror : r₁.Mirrors room r₂) (c : Category) (rule : Option String) :
    ((Evaluating.hit c rule).run r₁).2.Mirrors room ((Evaluating.hit c rule).run r₂).2 :=
  ⟨⟨mirror.firewalls.rules, mirror.firewalls.options,
    congrArg (·.increment c rule) mirror.firewalls.diagnostics, mirror.firewalls.stores⟩,
    mirror.now, mirror.events⟩

theorem emit (mirror : r₁.Mirrors room r₂) (e : FirewallEvent) :
    ((Evaluating.emit e).run r₁).2.Mirrors room ((Evaluating.emit e).run r₂).2 :=
  ⟨mirror.firewalls, mirror.now, congrArg (·.push e) mirror.events⟩

end Run.Mirrors

namespace Evaluating

/-- A step that, from two states of these rules and options that agree with room for `cost`
    more increments, gives the same result and leaves states that agree. -/
def Mirrored (rules : RuleSet) (options : FirewallOptions) (cost : Nat) {α : Type}
    (p : Evaluating α) : Prop :=
  ∀ room (r₁ r₂ : Run), r₁.fw.rules = rules → r₁.fw.options = options → r₁.Mirrors (room + cost) r₂ →
    (p.run r₁).1 = (p.run r₂).1 ∧ (p.run r₁).2.Mirrors room (p.run r₂).2

namespace Mirrored

variable {rules : RuleSet} {options : FirewallOptions} {α β : Type}

theorem weaken {n m : Nat} {p : Evaluating α} (mirrored : Mirrored rules options n p) (le : n ≤ m) :
    Mirrored rules options m p := by
  intro room r₁ r₂ sameRules sameOptions mirror
  have spare : room + m = room + (m - n) + n := by omega
  have step := mirrored (room + (m - n)) r₁ r₂ sameRules sameOptions (spare ▸ mirror)
  exact ⟨step.1, step.2.mono (Nat.le_add_right _ _)⟩

theorem pure' (x : α) (n : Nat) : Mirrored rules options n (pure x : Evaluating α) :=
  fun _ _ _ _ _ mirror => ⟨rfl, mirror.mono (Nat.le_add_right _ n)⟩

theorem bind' {n k : Nat} {p : Evaluating α} {f : α → Evaluating β} (steady : Steady p)
    (first : Mirrored rules options n p) (next : ∀ x, Mirrored rules options (k - n) (f x))
    (within : n ≤ k) : Mirrored rules options k (p >>= f) := by
  intro room r₁ r₂ sameRules sameOptions mirror
  have keeps := steady r₁
  have step := first (room + (k - n)) r₁ r₂ sameRules sameOptions
    ((show room + k = room + (k - n) + n by omega) ▸ mirror)
  rw [run_bind, run_bind, ← step.1]
  exact next _ room _ _ (keeps.rules.trans sameRules) (keeps.options.trans sameOptions) step.2

theorem get_bind {n : Nat} {f : Run → Evaluating β}
    (reads : ∀ r r' : Run, r'.fw.rules = r.fw.rules → r'.fw.options = r.fw.options → f r' = f r)
    (next : ∀ r : Run, r.fw.rules = rules → r.fw.options = options → Mirrored rules options n (f r)) :
    Mirrored rules options n (get >>= f) := by
  intro room r₁ r₂ sameRules sameOptions mirror
  rw [run_get_bind, run_get_bind, reads r₁ r₂ mirror.firewalls.rules mirror.firewalls.options]
  exact next r₁ sameRules sameOptions room r₁ r₂ sameRules sameOptions mirror

theorem storeKey_bind {n : Nat} {kind : CounterKind} {rule key : String} {f : String → Evaluating β}
    (next : Mirrored rules options n (f (StoreKey.render ⟨options.keyPrefix, kind, rule, key⟩))) :
    Mirrored rules options n (storeKey kind rule key >>= f) := by
  intro room r₁ r₂ sameRules sameOptions mirror
  rw [run_bind, run_bind, run_storeKey, run_storeKey, mirror.firewalls.options, sameOptions]
  exact next room r₁ r₂ sameRules sameOptions mirror

theorem onStore_bind {cost k : Nat} {g : CounterStore → Nat → α × CounterStore} {f : α → Evaluating β}
    (step : ∀ room now (s₁ s₂ : CounterStore),
      StoreMirror (BanAddress options.keyPrefix) (room + cost) now s₁ s₂ →
        (g s₁ now).1 = (g s₂ now).1 ∧
          StoreMirror (BanAddress options.keyPrefix) room now (g s₁ now).2 (g s₂ now).2)
    (next : ∀ x, Mirrored rules options (k - cost) (f x)) (within : cost ≤ k) :
    Mirrored rules options k (onStore g >>= f) := by
  intro room r₁ r₂ sameRules sameOptions mirror
  obtain ⟨fw₂, now₂, events₂⟩ := r₂
  obtain ⟨firewalls, rfl, rfl⟩ := mirror
  have stores := firewalls.stores
  rw [sameOptions, show room + k = room + (k - cost) + cost by omega] at stores
  have moved := step (room + (k - cost)) r₁.now r₁.fw.store fw₂.store stores
  rw [run_bind, run_bind, run_onStore, run_onStore, ← moved.1]
  refine next _ room _ _ sameRules sameOptions
    ⟨⟨firewalls.rules, firewalls.options, firewalls.diagnostics, ?_⟩, rfl, rfl⟩
  rw [sameOptions]
  exact moved.2

theorem hit_bind {n : Nat} {c : Category} {rule : Option String} {f : Unit → Evaluating β}
    (next : Mirrored rules options n (f ())) : Mirrored rules options n (hit c rule >>= f) :=
  fun room _ _ sameRules sameOptions mirror =>
    next room _ _ sameRules sameOptions (mirror.hit c rule)

theorem emit_bind {n : Nat} {e : FirewallEvent} {f : Unit → Evaluating β}
    (next : Mirrored rules options n (f ())) : Mirrored rules options n (emit e >>= f) :=
  fun room _ _ sameRules sameOptions mirror =>
    next room _ _ sameRules sameOptions (mirror.emit e)

theorem emit' (e : FirewallEvent) (n : Nat) : Mirrored rules options n (emit e) :=
  fun _ _ _ _ _ mirror => ⟨rfl, (mirror.emit e).mono (Nat.le_add_right _ n)⟩

end Mirrored

section Stages

variable {rules : RuleSet} {options : FirewallOptions} (req : Request)

-- Each store step is stated with the room `room + cost` that `onStore_bind` asks for, a
-- read or a write of a flag costing nothing.
theorem increment_step {kind : CounterKind} (counter : kind ≠ .fail2banBan) (rule key : String)
    (period : Nat) (room now : Nat) (s₁ s₂ : CounterStore)
    (mirror : StoreMirror (BanAddress options.keyPrefix) (room + 1) now s₁ s₂) :
    (s₁.increment (StoreKey.render ⟨options.keyPrefix, kind, rule, key⟩) period now).1 =
        (s₂.increment (StoreKey.render ⟨options.keyPrefix, kind, rule, key⟩) period now).1 ∧
      StoreMirror (BanAddress options.keyPrefix) room now
        (s₁.increment (StoreKey.render ⟨options.keyPrefix, kind, rule, key⟩) period now).2
        (s₂.increment (StoreKey.render ⟨options.keyPrefix, kind, rule, key⟩) period now).2 :=
  mirror.increment _ (not_banAddress counter _ _ _) (Nat.le_refl now) period

theorem ttlRemaining_step {kind : CounterKind} (counter : kind ≠ .fail2banBan) (rule key : String)
    (room now : Nat) (s₁ s₂ : CounterStore)
    (mirror : StoreMirror (BanAddress options.keyPrefix) (room + 0) now s₁ s₂) :
    (s₁.ttlRemaining (StoreKey.render ⟨options.keyPrefix, kind, rule, key⟩) now).1 =
        (s₂.ttlRemaining (StoreKey.render ⟨options.keyPrefix, kind, rule, key⟩) now).1 ∧
      StoreMirror (BanAddress options.keyPrefix) room now
        (s₁.ttlRemaining (StoreKey.render ⟨options.keyPrefix, kind, rule, key⟩) now).2
        (s₂.ttlRemaining (StoreKey.render ⟨options.keyPrefix, kind, rule, key⟩) now).2 :=
  mirror.ttlRemaining _ (not_banAddress counter _ _ _) (Nat.le_refl now)

theorem has_step (rule key : String) (room now : Nat) (s₁ s₂ : CounterStore)
    (mirror : StoreMirror (BanAddress options.keyPrefix) (room + 0) now s₁ s₂) :
    (s₁.has (StoreKey.render ⟨options.keyPrefix, .fail2banBan, rule, key⟩) now).1 =
        (s₂.has (StoreKey.render ⟨options.keyPrefix, .fail2banBan, rule, key⟩) now).1 ∧
      StoreMirror (BanAddress options.keyPrefix) room now
        (s₁.has (StoreKey.render ⟨options.keyPrefix, .fail2banBan, rule, key⟩) now).2
        (s₂.has (StoreKey.render ⟨options.keyPrefix, .fail2banBan, rule, key⟩) now).2 :=
  mirror.has _ ⟨rule, key, rfl⟩ now

theorem set_step (rule key value : String) (ttl : Option Nat) (room now : Nat) (s₁ s₂ : CounterStore)
    (mirror : StoreMirror (BanAddress options.keyPrefix) (room + 0) now s₁ s₂) :
    () = () ∧ StoreMirror (BanAddress options.keyPrefix) room now
      (s₁.set (StoreKey.render ⟨options.keyPrefix, .fail2banBan, rule, key⟩) value ttl now)
      (s₂.set (StoreKey.render ⟨options.keyPrefix, .fail2banBan, rule, key⟩) value ttl now) :=
  ⟨rfl, mirror.set _ ⟨rule, key, rfl⟩ value ttl now⟩

theorem trackStep_mirrored (rule : TrackRule) : Mirrored rules options 1 (trackStep req rule) := by
  unfold trackStep
  split
  · split
    · exact Mirrored.storeKey_bind (Mirrored.onStore_bind
        (increment_step (show CounterKind.track ≠ .fail2banBan by decide) _ _ _)
        (fun _ => Mirrored.hit_bind (Mirrored.emit' _ _)) (Nat.le_refl 1))
    · exact Mirrored.pure' () 1
  · exact Mirrored.pure' () 1

theorem trackStage_mirrored (tracks : List TrackRule) :
    Mirrored rules options tracks.length (trackStage req tracks) := by
  induction tracks with
  | nil => exact Mirrored.pure' () 0
  | cons rule rest ih =>
    exact Mirrored.bind' (trackStep_steady req rule) (trackStep_mirrored req rule) (fun _ => ih)
      (by simp)

theorem checkSafelists_mirrored : Mirrored rules options 0 (checkSafelists req) := by
  unfold checkSafelists
  refine Mirrored.get_bind (fun _ _ sameRules _ => by simp only [sameRules]) fun _ _ _ => ?_
  split
  · exact Mirrored.hit_bind (Mirrored.emit_bind (Mirrored.pure' _ 0))
  · exact Mirrored.pure' _ 0

theorem checkBlocklists_mirrored : Mirrored rules options 0 (checkBlocklists req) := by
  unfold checkBlocklists
  refine Mirrored.get_bind (fun _ _ sameRules _ => by simp only [sameRules]) fun _ _ _ => ?_
  dsimp only
  split
  · exact Mirrored.hit_bind (Mirrored.emit_bind (Mirrored.pure' _ 0))
  · exact Mirrored.pure' _ 0

theorem listStage_mirrored : Mirrored rules options 0 (listStage req) := by
  unfold listStage
  refine Mirrored.bind' (checkSafelists_steady req) (checkSafelists_mirrored req) (fun o => ?_)
    (Nat.le_refl 0)
  split
  · exact Mirrored.pure' _ 0
  · exact checkBlocklists_mirrored req

theorem checkFail2ban_mirrored (rule : Fail2BanRule) :
    Mirrored rules options 1 (checkFail2ban req rule) := by
  unfold checkFail2ban
  split
  · exact Mirrored.pure' _ 1
  · refine Mirrored.storeKey_bind (Mirrored.onStore_bind (has_step _ _) (fun _ => ?_) (Nat.zero_le 1))
    split
    · exact Mirrored.hit_bind (Mirrored.pure' _ _)
    · split
      · refine Mirrored.storeKey_bind (Mirrored.onStore_bind
          (increment_step (show CounterKind.fail2banFail ≠ .fail2banBan by decide) _ _ _)
          (fun _ => Mirrored.hit_bind ?_) (Nat.le_refl 1))
        split
        · exact Mirrored.onStore_bind (set_step _ _ _ _)
            (fun _ => Mirrored.hit_bind (Mirrored.emit_bind (Mirrored.pure' _ _))) (Nat.zero_le _)
        · exact Mirrored.pure' _ _
      · exact Mirrored.pure' _ _

theorem fail2banStage_mirrored (fail2bans : List Fail2BanRule) :
    Mirrored rules options fail2bans.length (fail2banStage req fail2bans) := by
  induction fail2bans with
  | nil => exact Mirrored.pure' _ 0
  | cons rule rest ih =>
    refine Mirrored.bind' (checkFail2ban_steady req rule) (checkFail2ban_mirrored req rule)
      (fun o => ?_) (by simp)
    cases o with
    | some d => exact Mirrored.pure' _ _
    | none => exact ih

theorem throttleStep_mirrored (headersOn : Bool) (rule : ThrottleRule) (quota : Option RateLimitInfo) :
    Mirrored rules options 1 (throttleStep headersOn req rule quota) := by
  unfold throttleStep
  split
  · exact Mirrored.pure' _ 1
  · have throttle : CounterKind.throttle ≠ .fail2banBan := by decide
    refine Mirrored.storeKey_bind (Mirrored.onStore_bind (increment_step throttle _ _ _)
      (fun _ => Mirrored.onStore_bind (ttlRemaining_step throttle _ _) (fun _ => ?_) (Nat.zero_le _))
      (Nat.le_refl 1))
    split
    · exact Mirrored.hit_bind (Mirrored.emit_bind (Mirrored.pure' _ _))
    · split <;> exact Mirrored.pure' _ _

theorem throttleStage_mirrored (headersOn : Bool) (throttles : List ThrottleRule)
    (quota : Option RateLimitInfo) :
    Mirrored rules options throttles.length (throttleStage headersOn req throttles quota) := by
  induction throttles generalizing quota with
  | nil => exact Mirrored.pure' _ 0
  | cons rule rest ih =>
    refine Mirrored.bind' (throttleStep_steady headersOn req rule quota)
      (throttleStep_mirrored req headersOn rule quota) (fun o => ?_) (by simp)
    cases o with
    | inl d => exact Mirrored.pure' _ _
    | inr q => exact ih q

theorem opening_mirrored : Mirrored rules options rules.tracks.length (opening req) := by
  refine Mirrored.get_bind (fun _ _ sameRules _ => by simp only [sameRules]) fun r sameRules _ => ?_
  rw [sameRules]
  exact Mirrored.bind' (trackStage_steady req _) (trackStage_mirrored req _)
    (fun _ => (listStage_mirrored req).weaken (Nat.zero_le _)) (Nat.le_refl _)

theorem fromThrottles_mirrored (headersOn : Bool) (throttles : List ThrottleRule)
    (quota : Option RateLimitInfo) :
    Mirrored rules options throttles.length (fromThrottles headersOn req throttles quota) := by
  refine Mirrored.bind' (throttleStage_steady headersOn req throttles quota)
    (throttleStage_mirrored req headersOn throttles quota) (fun o => ?_) (Nat.le_refl _)
  cases o with
  | inl d => exact Mirrored.pure' _ _
  | inr q => exact Mirrored.hit_bind (Mirrored.pure' _ _)

theorem fromFail2bans_mirrored (fail2bans : List Fail2BanRule) :
    Mirrored rules options (fail2bans.length + rules.throttles.length) (fromFail2bans req fail2bans) := by
  refine Mirrored.bind' (fail2banStage_steady req fail2bans) (fail2banStage_mirrored req fail2bans)
    (fun o => ?_) (Nat.le_add_right _ _)
  rw [Nat.add_sub_cancel_left]
  cases o with
  | some d => exact Mirrored.pure' _ _
  | none =>
    refine Mirrored.get_bind (fun _ _ sameRules sameOptions => by simp only [sameRules, sameOptions])
      fun r sameRules _ => ?_
    rw [sameRules]
    exact fromThrottles_mirrored req _ _ none

theorem decide_mirrored : Mirrored rules options rules.countingRules (decide req) := by
  rw [decide_eq]
  refine Mirrored.bind' (opening_steady req) (opening_mirrored req) (fun o => ?_)
    (by unfold RuleSet.countingRules; omega)
  cases o with
  | some d => exact Mirrored.pure' _ _
  | none =>
    refine Mirrored.get_bind (fun _ _ sameRules _ => by simp only [sameRules]) fun r sameRules _ => ?_
    rw [sameRules]
    exact (fromFail2bans_mirrored req _).weaken (by unfold RuleSet.countingRules; omega)

end Stages

end Evaluating

/-- What a call answers: a decision with its events, whether a key is banned, or nothing. -/
inductive Response where
  | decision (d : Decision) (events : List FirewallEvent)
  | banned (b : Bool)
  | done

namespace Firewall

theorem decide_eq_run (fw : Firewall) (req : Request) (now : Nat) :
    fw.decide req now = (((Evaluating.decide req).run ⟨fw, now, #[]⟩).1,
      ((Evaluating.decide req).run ⟨fw, now, #[]⟩).2.events.toList,
      ((Evaluating.decide req).run ⟨fw, now, #[]⟩).2.fw) := rfl

def respond (fw : Firewall) : Call → Response
  | .decide req now => .decision (fw.decide req now).1 (fw.decide req now).2.1
  | .isBanned rule key now => .banned (fw.isBanned rule key now).1
  | _ => .done

def responses (fw : Firewall) : List Call → List Response
  | [] => []
  | c :: older => (fw.replay older).respond c :: fw.responses older

namespace Mirrors

variable {room clock : Nat} {fw₁ fw₂ : Firewall}

theorem perform (mirror : fw₁.Mirrors (room + fw₁.rules.countingRules) clock fw₂) {c : Call}
    (later : ∀ now, c.clock? = some now → clock ≤ now) :
    fw₁.respond c = fw₂.respond c ∧
      (fw₁.perform c).Mirrors room (c.clock?.getD clock) (fw₂.perform c) := by
  cases c with
  | decide req now =>
    have start : Run.Mirrors (room + fw₁.rules.countingRules) ⟨fw₁, now, #[]⟩ ⟨fw₂, now, #[]⟩ :=
      ⟨mirror.mono (Nat.le_refl _) (later now rfl), rfl, rfl⟩
    have step := @Evaluating.decide_mirrored fw₁.rules fw₁.options req room _ _ rfl rfl start
    have keeps := Evaluating.decide_steady req ⟨fw₁, now, #[]⟩
    have events : ((Evaluating.decide req).run ⟨fw₁, now, #[]⟩).2.events =
        ((Evaluating.decide req).run ⟨fw₂, now, #[]⟩).2.events := step.2.events.symm
    refine ⟨?_, ?_⟩
    · rw [respond, respond, decide_eq_run, decide_eq_run, step.1, events]
    · have agrees := step.2.firewalls
      rw [keeps.now] at agrees
      exact agrees
  | isBanned rule key now =>
    have moved := mirror.mono (Nat.le_add_right room _) (later now rfl)
    have flag := moved.stores.has _ ⟨rule, key, rfl⟩ now
    simp only [respond, Firewall.perform, isBanned, storeKey, Call.clock?, Option.getD_some,
      moved.options]
    exact ⟨congrArg Response.banned flag.1, moved.rules, rfl, moved.diagnostics, flag.2⟩
  | unban rule key | resetFail2ban rule key | resetThrottle rule key =>
    have kept := mirror.mono (Nat.le_add_right room _) (Nat.le_refl clock)
    simp only [respond, Firewall.perform, unban, resetFail2ban, resetThrottle, storeKey, Call.clock?,
      Option.getD_none, kept.options]
    exact ⟨trivial, kept.rules, rfl, kept.diagnostics, kept.stores.delete _⟩

/-- Over a run whose clock never goes back, with room for every decision's increments, firewalls
    over either store, started empty, answer every call alike and stay in agreement as of the
    run's newest reading. -/
theorem replay {rules : RuleSet} {options : FirewallOptions} :
    ∀ {calls : List Call} {room : Nat}, ClockForward Call.clock? calls →
      room + calls.length * rules.countingRules ≤ Word.max →
      (create rules (.ofKind .native) options).responses calls =
          (create rules (.ofKind .records) options).responses calls ∧
        ((create rules (.ofKind .native) options).replay calls).Mirrors room
          (latestReading Call.clock? calls) ((create rules (.ofKind .records) options).replay calls)
  | [], room, _, fits => ⟨rfl, rfl, rfl, rfl, StoreMirror.empty _ (by simpa using fits) 0⟩
  | c :: older, room, forward, fits => by
    have before := @replay rules options older (room + rules.countingRules) (List.Pairwise.of_cons forward)
      (by simp only [List.length_cons, Nat.succ_mul] at fits; omega)
    have setup := sameSetup_replay (create rules (.ofKind .native) options) older
    have step := Mirrors.perform (by rw [setup.rules]; exact before.2)
      fun now clock => latestReading_le_of_forward forward clock
    refine ⟨?_, step.2⟩
    simp only [responses]
    rw [step.1, before.1]

end Mirrors

end Firewall

/-- A firewall over a records store answers every call of a run as one over a native store: the
    same decisions with the same events, and the same ban readings, for every rule set and
    options, over every run whose clock never goes back and that counts fewer than the largest
    word of times. -/
theorem responses_records_eq_native {rules : RuleSet} {options : FirewallOptions} {calls : List Call}
    (forward : ClockForward Call.clock? calls) (short : calls.length * rules.countingRules ≤ Word.max) :
    (Firewall.create rules (.ofKind .native) options).responses calls =
      (Firewall.create rules (.ofKind .records) options).responses calls :=
  (@Firewall.Mirrors.replay rules options calls 0 forward (by omega)).1

/-- Counters kept as records refine the memory store's own counters: every run of counter
    operations answers alike from empty stores, and so does every run of calls on a firewall over
    either store. -/
theorem records_store_refines_native :
    (∀ ops : List CounterOp, ClockForward CounterOp.clock? ops → ops.length ≤ Word.max →
      (CounterStore.ofKind .native).answers ops = (CounterStore.ofKind .records).answers ops) ∧
    ∀ (rules : RuleSet) (options : FirewallOptions) (calls : List Call),
      ClockForward Call.clock? calls → calls.length * rules.countingRules ≤ Word.max →
      (Firewall.create rules (.ofKind .native) options).responses calls =
        (Firewall.create rules (.ofKind .records) options).responses calls :=
  ⟨fun _ forward short => answers_records_eq_native forward short,
    fun _ _ _ forward short => responses_records_eq_native forward short⟩

/-- A counter counted with a short period, then a long one, then read; and a throttle counted
    on either side of a lifted ban. -/
theorem records_store_refines_native_mixed :
    ClockForward CounterOp.clock?
        [.ttlRemaining "k" 2006000, .increment "k" 3600 2005000, .increment "k" 10 2000000] ∧
      (CounterStore.ofKind .native).answers
          [.ttlRemaining "k" 2006000, .increment "k" 3600 2005000, .increment "k" 10 2000000] =
        (CounterStore.ofKind .records).answers
          [.ttlRemaining "k" 2006000, .increment "k" 3600 2005000, .increment "k" 10 2000000] ∧
      ClockForward Call.clock? [.decide { path := "/api" } 1500, .unban "login" "/api",
        .decide { path := "/api" } 1000] ∧
      (Firewall.create { throttles := [⟨"api", 1, 60, .path⟩] } (.ofKind .native) {}).responses
          [.decide { path := "/api" } 1500, .unban "login" "/api", .decide { path := "/api" } 1000] =
        (Firewall.create { throttles := [⟨"api", 1, 60, .path⟩] } (.ofKind .records) {}).responses
          [.decide { path := "/api" } 1500, .unban "login" "/api", .decide { path := "/api" } 1000] := by
  have ops : ClockForward CounterOp.clock?
      [.ttlRemaining "k" 2006000, .increment "k" 3600 2005000, .increment "k" 10 2000000] := by
    simp [ClockForward, CounterOp.clock?]
  have calls : ClockForward Call.clock? [.decide ({ path := "/api" } : Request) 1500,
      .unban "login" "/api", .decide { path := "/api" } 1000] := by
    simp [ClockForward, Call.clock?]
  exact ⟨ops, records_store_refines_native.1 _ ops (by decide), calls,
    records_store_refines_native.2 _ _ _ calls (by decide)⟩

end RequestFirewall
