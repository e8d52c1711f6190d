import RequestFirewall.Proofs.Pipeline
import RequestFirewall.Proofs.StoreKeys
/- Decisions key by key. A rule reads and writes the store only under its own store keys: the
   key prefix, its kind, its name and the request's key. So a step leaves the slot under an
   address `a` as it was whenever none of the rules it runs can address `a` (`Elsewhere`), and
   under one prefix counters of another kind never can. This is the frame every law about a
   single counter or ban flag rests on. -/
namespace RequestFirewall

/-- No counter of `kind` for the rule named `rule` is stored at `a`, whatever the request's key. -/
def Elsewhere (pre : String) (kind : CounterKind) (rule a : String) : Prop :=
  ∀ key, a ≠ StoreKey.render ⟨pre, kind, rule, key⟩

theorem elsewhere_of_kind_ne {kind kind' : CounterKind} (other : kind ≠ kind') (pre rule rule' key' : String) :
    Elsewhere pre kind rule (StoreKey.render ⟨pre, kind', rule', key'⟩) :=
  fun key same => other (@StoreKey.kind_eq_of_render_eq ⟨pre, kind', rule', key'⟩
    ⟨pre, kind, rule, key⟩ rfl same).symm

namespace Evaluating

/-- A step that, from every state with these rules and options, leaves the slot under `a` as
    it was. -/
def Avoids (rules : RuleSet) (options : FirewallOptions) (a : String) {α : Type}
    (p : Evaluating α) : Prop :=
  ∀ r : Run, r.fw.rules = rules → r.fw.options = options →
    (p.run r).2.fw.store.slot a = r.fw.store.slot a

namespace Avoids

variable {rules : RuleSet} {options : FirewallOptions} {a : String} {α β : Type}

theorem pure' (x : α) : Avoids rules options a (pure x : Evaluating α) := fun _ _ _ => rfl

theorem bind' {p : Evaluating α} {f : α → Evaluating β} (steady : Steady p)
    (first : Avoids rules options a p) (next : ∀ x, Avoids rules options a (f x)) :
    Avoids rules options a (p >>= f) := by
  intro r sameRules sameOptions
  have keeps := steady r
  show ((f (p.run r).1).run (p.run r).2).2.fw.store.slot a = _
  rw [next _ _ (keeps.rules.trans sameRules) (keeps.options.trans sameOptions),
    first r sameRules sameOptions]

theorem get_bind {f : Run → Evaluating β}
    (next : ∀ r : Run, r.fw.rules = rules → r.fw.options = options → Avoids rules options a (f r)) :
    Avoids rules options a (get >>= f) :=
  fun r sameRules sameOptions => next r sameRules sameOptions r sameRules sameOptions

theorem storeKey_bind {kind : CounterKind} {rule key : String} {f : String → Evaluating β}
    (next : Avoids rules options a (f (StoreKey.render ⟨options.keyPrefix, kind, rule, key⟩))) :
    Avoids rules options a (storeKey kind rule key >>= f) := by
  intro r sameRules sameOptions
  show ((f (StoreKey.render ⟨r.fw.options.keyPrefix, kind, rule, key⟩)).run r).2.fw.store.slot a = _
  rw [sameOptions]
  exact next r sameRules sameOptions

theorem onStore_bind {g : CounterStore → Nat → α × CounterStore} {f : α → Evaluating β}
    (away : ∀ s now, (g s now).2.slot a = s.slot a) (next : ∀ x, Avoids rules options a (f x)) :
    Avoids rules options a (onStore g >>= f) := by
  intro r sameRules sameOptions
  exact (next _ { r with fw := { r.fw with store := (g r.fw.store r.now).2 } } sameRules
    sameOptions).trans (away r.fw.store r.now)

theorem onStore' {g : CounterStore → Nat → α × CounterStore}
    (away : ∀ s now, (g s now).2.slot a = s.slot a) : Avoids rules options a (onStore g) :=
  fun r _ _ => away r.fw.store r.now

theorem hit_bind {c : Category} {rule : Option String} {f : Unit → Evaluating β}
    (next : Avoids rules options a (f ())) : Avoids rules options a (hit c rule >>= f) :=
  fun _ sameRules sameOptions => next _ sameRules sameOptions

theorem hit' (c : Category) (rule : Option String) : Avoids rules options a (hit c rule) :=
  fun _ _ _ => rfl

theorem emit' (e : FirewallEvent) : Avoids rules options a (emit e) := fun _ _ _ => rfl

theorem emit_bind {e : FirewallEvent} {f : Unit → Evaluating β}
    (next : Avoids rules options a (f ())) : Avoids rules options a (emit e >>= f) :=
  fun _ sameRules sameOptions => next _ sameRules sameOptions

end Avoids

section Stages

variable {rules : RuleSet} {options : FirewallOptions} {a : String} (req : Request)

theorem trackStep_avoids {rule : TrackRule}
    (apart : ∀ key, rule.key.extract req = some key →
      a ≠ StoreKey.render ⟨options.keyPrefix, .track, rule.name, key⟩) :
    Avoids rules options a (trackStep req rule) := by
  unfold trackStep
  split
  · split
    · rename_i key keyed
      refine Avoids.storeKey_bind (Avoids.onStore_bind ?_ fun _ => Avoids.hit_bind (Avoids.emit' _))
      exact fun s now => CounterStore.increment_slot_ne _ (apart key keyed)
    · exact Avoids.pure' ()
  · exact Avoids.pure' ()

theorem trackStage_avoids {tracks : List TrackRule}
    (apart : ∀ rule ∈ tracks, Elsewhere options.keyPrefix .track rule.name a) :
    Avoids rules options a (trackStage req tracks) := by
  induction tracks with
  | nil => exact Avoids.pure' ()
  | cons rule rest ih =>
    exact Avoids.bind' (trackStep_steady req rule)
      (trackStep_avoids req fun key _ => apart rule List.mem_cons_self key)
      fun _ => ih fun rule' mem => apart rule' (List.mem_cons_of_mem _ mem)

theorem checkSafelists_avoids : Avoids rules options a (checkSafelists req) := by
  unfold checkSafelists
  refine Avoids.get_bind fun _ _ _ => ?_
  split
  · exact Avoids.hit_bind (Avoids.emit_bind (Avoids.pure' _))
  · exact Avoids.pure' _

theorem checkBlocklists_avoids : Avoids rules options a (checkBlocklists req) := by
  unfold checkBlocklists
  refine Avoids.get_bind fun _ _ _ => ?_
  dsimp only
  split
  · exact Avoids.hit_bind (Avoids.emit_bind (Avoids.pure' _))
  · exact Avoids.pure' _

theorem listStage_avoids : Avoids rules options a (listStage req) := by
  unfold listStage
  refine Avoids.bind' (checkSafelists_steady req) (checkSafelists_avoids req) fun o => ?_
  split
  · exact Avoids.pure' _
  · exact checkBlocklists_avoids req

theorem checkFail2ban_avoids {rule : Fail2BanRule}
    (ban : ∀ key, rule.key.extract req = some key →
      a ≠ StoreKey.render ⟨options.keyPrefix, .fail2banBan, rule.name, key⟩)
    (fail : ∀ key, rule.key.extract req = some key →
      a ≠ StoreKey.render ⟨options.keyPrefix, .fail2banFail, rule.name, key⟩) :
    Avoids rules options a (checkFail2ban req rule) := by
  unfold checkFail2ban
  split
  · exact Avoids.pure' _
  · rename_i key keyed
    replace ban := ban key keyed
    replace fail := fail key keyed
    refine Avoids.storeKey_bind (Avoids.onStore_bind
      (fun s now => CounterStore.has_slot_ne ban) fun _ => ?_)
    split
    · exact Avoids.hit_bind (Avoids.pure' _)
    · split
      · refine Avoids.storeKey_bind (Avoids.onStore_bind
          (fun s now => CounterStore.increment_slot_ne _ fail) fun _ => Avoids.hit_bind ?_)
        split
        · exact Avoids.onStore_bind (fun s now => CounterStore.set_slot_ne _ _ ban)
            fun _ => Avoids.hit_bind (Avoids.emit_bind (Avoids.pure' _))
        · exact Avoids.pure' _
      · exact Avoids.pure' _

theorem fail2banStage_avoids {fail2bans : List Fail2BanRule}
    (apart : ∀ rule ∈ fail2bans, Elsewhere options.keyPrefix .fail2banBan rule.name a ∧
      Elsewhere options.keyPrefix .fail2banFail rule.name a) :
    Avoids rules options a (fail2banStage req fail2bans) := by
  induction fail2bans with
  | nil => exact Avoids.pure' _
  | cons rule rest ih =>
    have here := apart rule List.mem_cons_self
    refine Avoids.bind' (checkFail2ban_steady req rule)
      (checkFail2ban_avoids req (fun key _ => here.1 key) (fun key _ => here.2 key))
      fun o => ?_
    cases o with
    | some d => exact Avoids.pure' _
    | none => exact ih fun rule' mem => apart rule' (List.mem_cons_of_mem _ mem)

theorem throttleStep_avoids (headersOn : Bool) {rule : ThrottleRule}
    (apart : ∀ key, rule.key.extract req = some key →
      a ≠ StoreKey.render ⟨options.keyPrefix, .throttle, rule.name, key⟩)
    (quota : Option RateLimitInfo) :
    Avoids rules options a (throttleStep headersOn req rule quota) := by
  unfold throttleStep
  split
  · exact Avoids.pure' _
  · rename_i key keyed
    refine Avoids.storeKey_bind (Avoids.onStore_bind
      (fun s now => CounterStore.increment_slot_ne _ (apart key keyed)) fun _ => Avoids.onStore_bind
        (fun s now => CounterStore.ttlRemaining_slot_ne (apart key keyed)) fun _ => ?_)
    split
    · exact Avoids.hit_bind (Avoids.emit_bind (Avoids.pure' _))
    · split <;> exact Avoids.pure' _

theorem throttleStage_avoids (headersOn : Bool) {throttles : List ThrottleRule}
    (apart : ∀ rule ∈ throttles, Elsewhere options.keyPrefix .throttle rule.name a)
    (quota : Option RateLimitInfo) :
    Avoids rules options a (throttleStage headersOn req throttles quota) := by
  induction throttles generalizing quota with
  | nil => exact Avoids.pure' _
  | cons rule rest ih =>
    refine Avoids.bind' (throttleStep_steady headersOn req rule quota)
      (throttleStep_avoids req headersOn (fun key _ => apart rule List.mem_cons_self key) quota)
      fun o => ?_
    cases o with
    | inl d => exact Avoids.pure' _
    | inr q => exact ih (fun rule' mem => apart rule' (List.mem_cons_of_mem _ mem)) q

theorem opening_avoids (apart : ∀ rule ∈ rules.tracks, Elsewhere options.keyPrefix .track rule.name a) :
    Avoids rules options a (opening req) :=
  Avoids.get_bind fun _ sameRules _ =>
    Avoids.bind' (trackStage_steady req _) (trackStage_avoids req (sameRules ▸ apart))
      fun _ => listStage_avoids req

theorem fromThrottles_avoids (headersOn : Bool) {throttles : List ThrottleRule}
    (apart : ∀ rule ∈ throttles, Elsewhere options.keyPrefix .throttle rule.name a)
    (quota : Option RateLimitInfo) :
    Avoids rules options a (fromThrottles headersOn req throttles quota) := by
  refine Avoids.bind' (throttleStage_steady headersOn req throttles quota)
    (throttleStage_avoids req headersOn apart quota) fun o => ?_
  cases o with
  | inl d => exact Avoids.pure' _
  | inr q => exact Avoids.hit_bind (Avoids.pure' _)

theorem fromFail2bans_avoids {fail2bans : List Fail2BanRule}
    (apart : ∀ rule ∈ fail2bans, Elsewhere options.keyPrefix .fail2banBan rule.name a ∧
      Elsewhere options.keyPrefix .fail2banFail rule.name a)
    (throttles : ∀ rule ∈ rules.throttles, Elsewhere options.keyPrefix .throttle rule.name a) :
    Avoids rules options a (fromFail2bans req fail2bans) := by
  refine Avoids.bind' (fail2banStage_steady req fail2bans) (fail2banStage_avoids req apart) fun o => ?_
  cases o with
  | some d => exact Avoids.pure' _
  | none => exact Avoids.get_bind fun _ sameRules _ => fromThrottles_avoids req _ (sameRules ▸ throttles) none

theorem afterFail2ban_avoids {rest : List Fail2BanRule}
    (apart : ∀ rule ∈ rest, Elsewhere options.keyPrefix .fail2banBan rule.name a ∧
      Elsewhere options.keyPrefix .fail2banFail rule.name a)
    (throttles : ∀ rule ∈ rules.throttles, Elsewhere options.keyPrefix .throttle rule.name a)
    (o : Option Decision) :
    Avoids rules options a (match o with
      | some d => pure d
      | none => fromFail2bans req rest) := by
  cases o with
  | some d => exact Avoids.pure' d
  | none => exact fromFail2bans_avoids req apart throttles

theorem afterThrottle_avoids (headersOn : Bool) {rest : List ThrottleRule}
    (apart : ∀ rule ∈ rest, Elsewhere options.keyPrefix .throttle rule.name a)
    (res : Sum Decision (Option RateLimitInfo)) :
    Avoids rules options a (match res with
      | .inl d => pure d
      | .inr quota => fromThrottles headersOn req rest quota) := by
  cases res with
  | inl d => exact Avoids.pure' d
  | inr quota => exact fromThrottles_avoids req headersOn apart quota

theorem fail2bansReached_avoids {before : List Fail2BanRule}
    (tracks : ∀ rule ∈ rules.tracks, Elsewhere options.keyPrefix .track rule.name a)
    (apart : ∀ rule ∈ before, Elsewhere options.keyPrefix .fail2banBan rule.name a ∧
      Elsewhere options.keyPrefix .fail2banFail rule.name a) :
    Avoids rules options a (fail2bansReached req before) := by
  refine Avoids.bind' (opening_steady req) (opening_avoids req tracks) fun o => ?_
  cases o with
  | some d => exact Avoids.pure' _
  | none => exact fail2banStage_avoids req apart

theorem throttlesReached_avoids {before : List ThrottleRule}
    (tracks : ∀ rule ∈ rules.tracks, Elsewhere options.keyPrefix .track rule.name a)
    (fail2bans : ∀ rule ∈ rules.fail2bans, Elsewhere options.keyPrefix .fail2banBan rule.name a ∧
      Elsewhere options.keyPrefix .fail2banFail rule.name a)
    (apart : ∀ rule ∈ before, Elsewhere options.keyPrefix .throttle rule.name a) :
    Avoids rules options a (throttlesReached req before) := by
  refine Avoids.bind' (opening_steady req) (opening_avoids req tracks) fun o => ?_
  cases o with
  | some d => exact Avoids.pure' _
  | none =>
    refine Avoids.get_bind fun _ sameRules _ => Avoids.bind' (fail2banStage_steady req _)
      (fail2banStage_avoids req (sameRules ▸ fail2bans)) fun o => ?_
    cases o with
    | some d => exact Avoids.pure' _
    | none => exact throttleStage_avoids req _ apart none

theorem fromTracks_avoids {tracks : List TrackRule}
    (apart : ∀ rule ∈ tracks, Elsewhere options.keyPrefix .track rule.name a)
    (fail2bans : ∀ rule ∈ rules.fail2bans, Elsewhere options.keyPrefix .fail2banBan rule.name a ∧
      Elsewhere options.keyPrefix .fail2banFail rule.name a)
    (throttles : ∀ rule ∈ rules.throttles, Elsewhere options.keyPrefix .throttle rule.name a) :
    Avoids rules options a (fromTracks req tracks) := by
  refine Avoids.bind' (trackStage_steady req tracks) (trackStage_avoids req apart) fun _ => ?_
  refine Avoids.bind' (listStage_steady req) (listStage_avoids req) fun o => ?_
  cases o with
  | some d => exact Avoids.pure' _
  | none =>
    exact Avoids.get_bind fun _ sameRules _ =>
      fromFail2bans_avoids req (sameRules ▸ fail2bans) throttles

end Stages

end Evaluating

end RequestFirewall
