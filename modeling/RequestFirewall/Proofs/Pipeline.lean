import RequestFirewall.Firewall
import RequestFirewall.Proofs.StoreSlots
/- The decision pipeline stage by stage. Each loop of a decision is written again by recursion
   on its rule list (`trackStage`, `fail2banStage`, `throttleStage`) and proved equal to the
   loop, so that a decision reads as the tracks, the lists, the fail2ban rules, the throttles and
   a pass, each rule one step. Every step keeps the rules, the options, the clock and the kind
   of store (`Steady`), so the rules a stage reads are those the call started with, and a
   decision can be cut before any fail2ban rule or throttle: what runs before it, and what runs
   from it on. -/
namespace RequestFirewall

namespace Evaluating

@[simp] theorem run_get (r : Run) : (get : Evaluating Run).run r = (r, r) := rfl

theorem run_bind {α β : Type} (p : Evaluating α) (f : α → Evaluating β) (r : Run) :
    (p >>= f).run r = (f (p.run r).1).run (p.run r).2 := rfl

@[simp] theorem run_get_bind {α : Type} (f : Run → Evaluating α) (r : Run) :
    (get >>= f).run r = (f r).run r := rfl

@[simp] theorem run_storeKey (kind : CounterKind) (rule key : String) (r : Run) :
    (storeKey kind rule key).run r = (StoreKey.render ⟨r.fw.options.keyPrefix, kind, rule, key⟩, r) :=
  rfl

@[simp] theorem run_onStore {α : Type} (f : CounterStore → Nat → α × CounterStore) (r : Run) :
    (onStore f).run r =
      ((f r.fw.store r.now).1, { r with fw := { r.fw with store := (f r.fw.store r.now).2 } }) :=
  rfl

@[simp] theorem run_hit (c : Category) (rule : Option String) (r : Run) :
    (hit c rule).run r =
      ((), { r with fw := { r.fw with diagnostics := r.fw.diagnostics.increment c rule } }) := rfl

@[simp] theorem run_emit (e : FirewallEvent) (r : Run) :
    (emit e).run r = ((), { r with events := r.events.push e }) := rfl

def listStage (req : Request) : Evaluating (Option Decision) := do
  if let some d ← checkSafelists req then return some d
  checkBlocklists req

def trackStep (req : Request) (rule : TrackRule) : Evaluating Unit :=
  if rule.filter.holds req then
    match rule.key.extract req with
    | some key => do
      let k ← storeKey .track rule.name key
      let count ← onStore fun s now => s.increment k rule.period now
      hit .trackHit (some rule.name)
      emit (.trackHit rule.name key count rule.period)
    | none => pure ()
  else pure ()

def trackStage (req : Request) : List TrackRule → Evaluating Unit
  | [] => pure ()
  | rule :: rest => do
    trackStep req rule
    trackStage req rest

def fail2banStage (req : Request) : List Fail2BanRule → Evaluating (Option Decision)
  | [] => pure none
  | rule :: rest => do
    match ← checkFail2ban req rule with
    | some d => pure (some d)
    | none => fail2banStage req rest

def throttleStep (headersOn : Bool) (req : Request) (rule : ThrottleRule)
    (quota : Option RateLimitInfo) : Evaluating (Sum Decision (Option RateLimitInfo)) :=
  match rule.key.extract req with
  | none => pure (.inr quota)
  | some key => do
    let k ← storeKey .throttle rule.name key
    let count ← onStore fun s now => s.increment k rule.period now
    let retryAfter ← onStore fun s now => s.ttlRemaining k now
    let info : RateLimitInfo := ⟨rule.limit, rule.limit - count, Nat.max retryAfter 1⟩
    if count > rule.limit then
      hit .throttleExceeded (some rule.name)
      emit (.throttleExceeded rule.name key count rule.limit rule.period retryAfter)
      pure (.inl (Decision.throttled rule.name retryAfter (if headersOn then some info else none)))
    else if headersOn && quota.isNone then pure (.inr (some info))
    else pure (.inr quota)

def throttleStage (headersOn : Bool) (req : Request) :
    List ThrottleRule → Option RateLimitInfo → Evaluating (Sum Decision (Option RateLimitInfo))
  | [], quota => pure (.inr quota)
  | rule :: rest, quota => do
    match ← throttleStep headersOn req rule quota with
    | .inl d => pure (.inl d)
    | .inr quota => throttleStage headersOn req rest quota

theorem get_bind_get {α : Type} (k : Run → Run → Evaluating α) :
    (do let a ← get; let b ← get; k a b) = (do let a ← get; k a a) := rfl

theorem forIn_trackStage (req : Request) (body : TrackRule → PUnit → Evaluating (ForInStep PUnit))
    (step : ∀ rule, body rule () = (do trackStep req rule; pure (.yield ())))
    (rules : List TrackRule) : forIn rules () body = (do trackStage req rules; pure ()) := by
  induction rules with
  | nil => simp [trackStage]
  | cons rule rest ih => simp [List.forIn_cons, step, trackStage, ih]

theorem runTracks_eq (req : Request) :
    runTracks req = (do let r ← get; trackStage req r.fw.rules.tracks) := by
  unfold runTracks
  congr 1
  funext r
  rw [forIn_trackStage req _ ?_]
  · simp
  · intro rule
    unfold trackStep
    split
    · cases rule.key.extract req <;> simp
    · simp

theorem forIn_fail2banStage (req : Request)
    (body : Fail2BanRule → Option (Option Decision) × Unit →
      Evaluating (ForInStep (Option (Option Decision) × Unit)))
    (step : ∀ rule, body rule (none, ()) = (do
      match ← checkFail2ban req rule with
      | some d => pure (.done (some (some d), ()))
      | none => pure (.yield (none, ()))))
    (finish : Option (Option Decision) × Unit → Evaluating (Option Decision))
    (finishDone : ∀ d, finish (some d, ()) = pure d) (finishEnd : finish (none, ()) = pure none)
    (rules : List Fail2BanRule) :
    forIn rules (none, ()) body >>= finish = fail2banStage req rules := by
  induction rules with
  | nil => simp [finishEnd, fail2banStage]
  | cons rule rest ih =>
    simp only [List.forIn_cons, step, bind_assoc, fail2banStage]
    congr 1
    funext o
    cases o with
    | some d => simp [finishDone]
    | none => simp [ih]

theorem checkFail2bans_eq (req : Request) :
    checkFail2bans req = (do let r ← get; fail2banStage req r.fw.rules.fail2bans) := by
  unfold checkFail2bans
  congr 1
  funext r
  dsimp only
  refine forIn_fail2banStage req _ ?_ _ (fun _ => rfl) rfl _
  intro rule
  congr 1
  funext o
  cases o <;> rfl

theorem forIn_throttleStage (headersOn : Bool) (req : Request)
    (body : ThrottleRule → Option (Sum Decision (Option RateLimitInfo)) × Option RateLimitInfo →
      Evaluating (ForInStep (Option (Sum Decision (Option RateLimitInfo)) × Option RateLimitInfo)))
    (step : ∀ rule quota, body rule (none, quota) = (do
      match ← throttleStep headersOn req rule quota with
      | .inl d => pure (.done (some (.inl d), quota))
      | .inr quota => pure (.yield (none, quota))))
    (finish : Option (Sum Decision (Option RateLimitInfo)) × Option RateLimitInfo →
      Evaluating (Sum Decision (Option RateLimitInfo)))
    (finishDone : ∀ d quota, finish (some d, quota) = pure d)
    (finishEnd : ∀ quota, finish (none, quota) = pure (.inr quota))
    (rules : List ThrottleRule) (quota : Option RateLimitInfo) :
    forIn rules (none, quota) body >>= finish = throttleStage headersOn req rules quota := by
  induction rules generalizing quota with
  | nil => simp [finishEnd, throttleStage]
  | cons rule rest ih =>
    simp only [List.forIn_cons, step, bind_assoc, throttleStage]
    congr 1
    funext o
    cases o with
    | inl d => simp [finishDone]
    | inr q => simp [ih]

theorem checkThrottles_eq (req : Request) :
    checkThrottles req = (do
      let r ← get
      throttleStage r.fw.options.rateLimitHeaders req r.fw.rules.throttles none) := by
  unfold checkThrottles
  rw [get_bind_get]
  congr 1
  funext r
  dsimp only
  refine forIn_throttleStage _ req _ ?_ _ (fun _ _ => rfl) (fun _ => rfl) _ _
  intro rule quota
  unfold throttleStep
  cases rule.key.extract req with
  | none => rfl
  | some key =>
    simp only [bind_assoc]
    congr 1; funext k; congr 1; funext count; congr 1; funext retryAfter
    split
    · simp
    · split <;> simp

/-- The stages that never count a failure or a request against a limit: the tracks, then the
    lists. -/
def opening (req : Request) : Evaluating (Option Decision) := do
  let r ← get
  trackStage req r.fw.rules.tracks
  listStage req

def fromThrottles (headersOn : Bool) (req : Request) (rules : List ThrottleRule)
    (quota : Option RateLimitInfo) : Evaluating Decision := do
  match ← throttleStage headersOn req rules quota with
  | .inl d => pure d
  | .inr quota =>
    hit .passed none
    pure (Decision.pass quota)

def fromFail2bans (req : Request) (rules : List Fail2BanRule) : Evaluating Decision := do
  match ← fail2banStage req rules with
  | some d => pure d
  | none =>
    let r ← get
    fromThrottles r.fw.options.rateLimitHeaders req r.fw.rules.throttles none

def fromTracks (req : Request) (rules : List TrackRule) : Evaluating Decision := do
  trackStage req rules
  match ← listStage req with
  | some d => pure d
  | none =>
    let r ← get
    fromFail2bans req r.fw.rules.fail2bans

theorem decide_eq (req : Request) :
    decide req = (do
      match ← opening req with
      | some d => pure d
      | none =>
        let r ← get
        fromFail2bans req r.fw.rules.fail2bans) := by
  unfold decide opening listStage fromFail2bans fromThrottles
  rw [runTracks_eq, checkFail2bans_eq, checkThrottles_eq]
  simp only [bind_assoc]
  congr 1
  funext r
  congr 1
  funext u
  congr 1
  funext safe
  cases safe with
  | some d => simp
  | none =>
    dsimp only
    congr 1
    funext blocked
    cases blocked with
    | some d => rfl
    | none =>
      dsimp only
      congr 1
      funext r
      congr 1
      funext banned
      cases banned <;> rfl

theorem trackStage_append (req : Request) (first second : List TrackRule) :
    trackStage req (first ++ second) = (do trackStage req first; trackStage req second) := by
  induction first with
  | nil => simp [trackStage]
  | cons rule rest ih => simp [trackStage, ih]

theorem fail2banStage_append (req : Request) (first second : List Fail2BanRule) :
    fail2banStage req (first ++ second) = (do
      match ← fail2banStage req first with
      | some d => pure (some d)
      | none => fail2banStage req second) := by
  induction first with
  | nil => simp [fail2banStage]
  | cons rule rest ih =>
    simp only [List.cons_append, fail2banStage, bind_assoc]
    congr 1
    funext o
    cases o with
    | some d => simp
    | none => simp [ih]

theorem throttleStage_append (headersOn : Bool) (req : Request) (first second : List ThrottleRule)
    (quota : Option RateLimitInfo) :
    throttleStage headersOn req (first ++ second) quota = (do
      match ← throttleStage headersOn req first quota with
      | .inl d => pure (.inl d)
      | .inr quota => throttleStage headersOn req second quota) := by
  induction first generalizing quota with
  | nil => simp [throttleStage]
  | cons rule rest ih =>
    simp only [List.cons_append, throttleStage, bind_assoc]
    congr 1
    funext o
    cases o with
    | inl d => simp
    | inr q => simp [ih]

theorem fromThrottles_cons (headersOn : Bool) (req : Request) (rule : ThrottleRule)
    (rest : List ThrottleRule) (quota : Option RateLimitInfo) :
    fromThrottles headersOn req (rule :: rest) quota = (do
      match ← throttleStep headersOn req rule quota with
      | .inl d => pure d
      | .inr quota => fromThrottles headersOn req rest quota) := by
  simp only [fromThrottles, throttleStage, bind_assoc]
  congr 1
  funext o
  cases o <;> simp

theorem fromThrottles_append (headersOn : Bool) (req : Request) (first second : List ThrottleRule)
    (quota : Option RateLimitInfo) :
    fromThrottles headersOn req (first ++ second) quota = (do
      match ← throttleStage headersOn req first quota with
      | .inl d => pure d
      | .inr quota => fromThrottles headersOn req second quota) := by
  simp only [fromThrottles, throttleStage_append, bind_assoc]
  congr 1
  funext o
  cases o <;> simp

theorem fromFail2bans_append (req : Request) (first second : List Fail2BanRule) :
    fromFail2bans req (first ++ second) = (do
      match ← fail2banStage req first with
      | some d => pure d
      | none => fromFail2bans req second) := by
  simp only [fromFail2bans, fail2banStage_append, bind_assoc]
  congr 1
  funext o
  cases o <;> simp

theorem fromFail2bans_cons (req : Request) (rule : Fail2BanRule) (rest : List Fail2BanRule) :
    fromFail2bans req (rule :: rest) = (do
      match ← checkFail2ban req rule with
      | some d => pure d
      | none => fromFail2bans req rest) := by
  simp only [fromFail2bans, fail2banStage, bind_assoc]
  congr 1
  funext o
  cases o <;> simp

end Evaluating

/-- What a step of a decision leaves alone: the rules, the options, the clock and the kind of
    store. -/
structure Run.Keeps (r r' : Run) : Prop where
  rules : r'.fw.rules = r.fw.rules
  options : r'.fw.options = r.fw.options
  now : r'.now = r.now
  kind : r'.fw.store.kind = r.fw.store.kind

theorem Run.Keeps.refl (r : Run) : r.Keeps r := ⟨rfl, rfl, rfl, rfl⟩

theorem Run.Keeps.trans {r₁ r₂ r₃ : Run} (first : r₁.Keeps r₂) (second : r₂.Keeps r₃) :
    r₁.Keeps r₃ :=
  ⟨second.rules.trans first.rules, second.options.trans first.options, second.now.trans first.now,
    second.kind.trans first.kind⟩

namespace Evaluating

/-- A step that keeps what `Run.Keeps` names, from every state. -/
def Steady {α : Type} (p : Evaluating α) : Prop := ∀ r : Run, r.Keeps (p.run r).2

namespace Steady

theorem pure' {α : Type} (a : α) : Steady (pure a : Evaluating α) := fun r => Run.Keeps.refl r

theorem bind' {α β : Type} {p : Evaluating α} {f : α → Evaluating β} (first : Steady p)
    (next : ∀ a, Steady (f a)) : Steady (p >>= f) := fun r =>
  (first r).trans (next (p.run r).1 (p.run r).2)

theorem get' : Steady (get : Evaluating Run) := fun r => Run.Keeps.refl r

theorem storeKey' (kind : CounterKind) (rule key : String) : Steady (storeKey kind rule key) :=
  fun r => Run.Keeps.refl r

theorem onStore' {α : Type} {f : CounterStore → Nat → α × CounterStore}
    (keeps : ∀ s now, (f s now).2.kind = s.kind) : Steady (onStore f) :=
  fun r => ⟨rfl, rfl, rfl, keeps r.fw.store r.now⟩

theorem hit' (c : Category) (rule : Option String) : Steady (hit c rule) := fun _ => ⟨rfl, rfl, rfl, rfl⟩

theorem emit' (e : FirewallEvent) : Steady (emit e) := fun _ => ⟨rfl, rfl, rfl, rfl⟩

end Steady

theorem trackStep_steady (req : Request) (rule : TrackRule) : Steady (trackStep req rule) := by
  unfold trackStep
  split
  · split
    · exact Steady.bind' (Steady.storeKey' _ _ _) fun k =>
        Steady.bind' (Steady.onStore' fun s now => CounterStore.increment_kind s k now _) fun _ =>
          Steady.bind' (Steady.hit' _ _) fun _ => Steady.emit' _
    · exact Steady.pure' ()
  · exact Steady.pure' ()

theorem trackStage_steady (req : Request) (rules : List TrackRule) : Steady (trackStage req rules) := by
  induction rules with
  | nil => exact Steady.pure' ()
  | cons rule rest ih => exact Steady.bind' (trackStep_steady req rule) fun _ => ih

theorem checkSafelists_steady (req : Request) : Steady (checkSafelists req) := by
  unfold checkSafelists
  refine Steady.bind' Steady.get' fun _ => ?_
  split
  · exact Steady.bind' (Steady.hit' _ _) fun _ => Steady.bind' (Steady.emit' _) fun _ => Steady.pure' _
  · exact Steady.pure' _

theorem checkBlocklists_steady (req : Request) : Steady (checkBlocklists req) := by
  unfold checkBlocklists
  refine Steady.bind' Steady.get' fun _ => ?_
  dsimp only
  split
  · exact Steady.bind' (Steady.hit' _ _) fun _ => Steady.bind' (Steady.emit' _) fun _ => Steady.pure' _
  · exact Steady.pure' _

theorem listStage_steady (req : Request) : Steady (listStage req) := by
  unfold listStage
  refine Steady.bind' (checkSafelists_steady req) fun o => ?_
  split
  · exact Steady.pure' _
  · exact checkBlocklists_steady req

theorem checkFail2ban_steady (req : Request) (rule : Fail2BanRule) : Steady (checkFail2ban req rule) := by
  unfold checkFail2ban
  split
  · exact Steady.pure' _
  · refine Steady.bind' (Steady.storeKey' _ _ _) fun banKey =>
      Steady.bind' (Steady.onStore' fun s now => CounterStore.has_kind s banKey now) fun _ => ?_
    split
    · exact Steady.bind' (Steady.hit' _ _) fun _ => Steady.pure' _
    · split
      · refine Steady.bind' (Steady.storeKey' _ _ _) fun failKey =>
          Steady.bind' (Steady.onStore' fun s now => CounterStore.increment_kind s failKey now _)
            fun _ => Steady.bind' (Steady.hit' _ _) fun _ => ?_
        split
        · exact Steady.bind' (Steady.onStore' fun s now => CounterStore.set_kind s banKey now _ _)
            fun _ => Steady.bind' (Steady.hit' _ _) fun _ => Steady.bind' (Steady.emit' _)
              fun _ => Steady.pure' _
        · exact Steady.pure' _
      · exact Steady.pure' _

theorem fail2banStage_steady (req : Request) (rules : List Fail2BanRule) :
    Steady (fail2banStage req rules) := by
  induction rules with
  | nil => exact Steady.pure' _
  | cons rule rest ih =>
    refine Steady.bind' (checkFail2ban_steady req rule) fun o => ?_
    cases o with
    | some d => exact Steady.pure' _
    | none => exact ih

theorem throttleStep_steady (headersOn : Bool) (req : Request) (rule : ThrottleRule)
    (quota : Option RateLimitInfo) : Steady (throttleStep headersOn req rule quota) := by
  unfold throttleStep
  split
  · exact Steady.pure' _
  · refine Steady.bind' (Steady.storeKey' _ _ _) fun k =>
      Steady.bind' (Steady.onStore' fun s now => CounterStore.increment_kind s k now _) fun _ =>
        Steady.bind' (Steady.onStore' fun s now => CounterStore.ttlRemaining_kind s k now) fun _ => ?_
    split
    · exact Steady.bind' (Steady.hit' _ _) fun _ => Steady.bind' (Steady.emit' _)
        fun _ => Steady.pure' _
    · split <;> exact Steady.pure' _

theorem throttleStage_steady (headersOn : Bool) (req : Request) (rules : List ThrottleRule)
    (quota : Option RateLimitInfo) : Steady (throttleStage headersOn req rules quota) := by
  induction rules generalizing quota with
  | nil => exact Steady.pure' _
  | cons rule rest ih =>
    refine Steady.bind' (throttleStep_steady headersOn req rule quota) fun o => ?_
    cases o with
    | inl d => exact Steady.pure' _
    | inr q => exact ih q

theorem opening_steady (req : Request) : Steady (opening req) :=
  Steady.bind' Steady.get' fun _ =>
    Steady.bind' (trackStage_steady req _) fun _ => listStage_steady req

theorem fromThrottles_steady (headersOn : Bool) (req : Request) (throttles : List ThrottleRule)
    (quota : Option RateLimitInfo) : Steady (fromThrottles headersOn req throttles quota) := by
  refine Steady.bind' (throttleStage_steady headersOn req throttles quota) fun o => ?_
  cases o with
  | inl d => exact Steady.pure' _
  | inr q => exact Steady.bind' (Steady.hit' _ _) fun _ => Steady.pure' _

theorem fromFail2bans_steady (req : Request) (fail2bans : List Fail2BanRule) :
    Steady (fromFail2bans req fail2bans) := by
  refine Steady.bind' (fail2banStage_steady req fail2bans) fun o => ?_
  cases o with
  | some d => exact Steady.pure' _
  | none => exact Steady.bind' Steady.get' fun _ => fromThrottles_steady _ req _ none

theorem decide_steady (req : Request) : Steady (decide req) := by
  rw [decide_eq]
  refine Steady.bind' (opening_steady req) fun o => ?_
  cases o with
  | some d => exact Steady.pure' _
  | none => exact Steady.bind' Steady.get' fun _ => fromFail2bans_steady req _

theorem run_bind_congr {α β : Type} {p : Evaluating α} {f g : α → Evaluating β} (steady : Steady p)
    (r : Run) (same : ∀ a r', r.Keeps r' → (f a).run r' = (g a).run r') :
    (p >>= f).run r = (p >>= g).run r :=
  same (p.run r).1 (p.run r).2 (steady r)

/-- A decision up to the fail2ban rules that follow `before`: the decision made on the way, if
    one is. -/
def fail2bansReached (req : Request) (before : List Fail2BanRule) : Evaluating (Option Decision) := do
  match ← opening req with
  | some d => pure (some d)
  | none => fail2banStage req before

/-- A decision up to the throttles that follow `before`: the decision made on the way, or the
    quota the throttles after `before` start from. -/
def throttlesReached (req : Request) (before : List ThrottleRule) :
    Evaluating (Sum Decision (Option RateLimitInfo)) := do
  match ← opening req with
  | some d => pure (.inl d)
  | none =>
    let r ← get
    match ← fail2banStage req r.fw.rules.fail2bans with
    | some d => pure (.inl d)
    | none => throttleStage r.fw.options.rateLimitHeaders req before none

theorem fail2bansReached_steady (req : Request) (before : List Fail2BanRule) :
    Steady (fail2bansReached req before) := by
  refine Steady.bind' (opening_steady req) fun o => ?_
  cases o with
  | some d => exact Steady.pure' _
  | none => exact fail2banStage_steady req before

theorem throttlesReached_steady (req : Request) (before : List ThrottleRule) :
    Steady (throttlesReached req before) := by
  refine Steady.bind' (opening_steady req) fun o => ?_
  cases o with
  | some d => exact Steady.pure' _
  | none =>
    refine Steady.bind' Steady.get' fun r => Steady.bind' (fail2banStage_steady req _) fun o => ?_
    cases o with
    | some d => exact Steady.pure' _
    | none => exact throttleStage_steady _ req before none

theorem decide_run_of_fail2bans {req : Request} {r : Run} {before rest : List Fail2BanRule}
    (split : r.fw.rules.fail2bans = before ++ rest) :
    (decide req).run r = (do
      match ← fail2bansReached req before with
      | some d => pure d
      | none => fromFail2bans req rest).run r := by
  rw [decide_eq, fail2bansReached, bind_assoc]
  refine run_bind_congr (opening_steady req) r fun o r' keeps => ?_
  cases o with
  | some d => rfl
  | none =>
    show (fromFail2bans req r'.fw.rules.fail2bans).run r' = _
    rw [keeps.rules, split, fromFail2bans_append]

theorem decide_run_of_tracks {req : Request} {r : Run} {before rest : List TrackRule}
    (split : r.fw.rules.tracks = before ++ rest) :
    (decide req).run r = (do trackStage req before; fromTracks req rest).run r := by
  rw [decide_eq, opening, bind_assoc, run_get_bind, split, trackStage_append]
  simp only [fromTracks, bind_assoc]

theorem fromTracks_cons (req : Request) (rule : TrackRule) (rest : List TrackRule) :
    fromTracks req (rule :: rest) = (do trackStep req rule; fromTracks req rest) := by
  simp only [fromTracks, trackStage, bind_assoc]

theorem decide_run_of_throttles {req : Request} {r : Run} {before rest : List ThrottleRule}
    (split : r.fw.rules.throttles = before ++ rest) :
    (decide req).run r = (do
      match ← throttlesReached req before with
      | .inl d => pure d
      | .inr quota => fromThrottles r.fw.options.rateLimitHeaders req rest quota).run r := by
  rw [decide_eq, throttlesReached, bind_assoc]
  refine run_bind_congr (opening_steady req) r fun o r' keeps => ?_
  cases o with
  | some d => rfl
  | none =>
    show (fromFail2bans req r'.fw.rules.fail2bans).run r' = _
    simp only [fromFail2bans, bind_assoc, run_get_bind]
    refine run_bind_congr (fail2banStage_steady req _) r' fun o r'' keeps' => ?_
    cases o with
    | some d => rfl
    | none =>
      have rules : r''.fw.rules = r.fw.rules := keeps'.rules.trans keeps.rules
      have options : r''.fw.options = r.fw.options := keeps'.options.trans keeps.options
      show (fromThrottles r''.fw.options.rateLimitHeaders req r''.fw.rules.throttles none).run r'' = _
      rw [rules, options, split, fromThrottles_append, keeps.options]

end Evaluating

end RequestFirewall
