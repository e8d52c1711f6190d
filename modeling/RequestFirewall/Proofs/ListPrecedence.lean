import RequestFirewall.Proofs.Accounting
import RequestFirewall.Proofs.CounterRecords
import RequestFirewall.Proofs.Outage
/- Requests the lists decide. The tracks run first and count whatever they match; then the first
   matching safelist rule, in registration order, lets the request through, and otherwise the
   first matching blocklist rule blocks it, whatever the fail2ban rules, the throttles and their
   counters are. Such a call writes the store only through the tracks, exactly as the same
   firewall would with its rule set cut down to the tracks, and it neither reads nor writes a
   counter of any other kind: two stores that agree on the track counters give the same decision,
   the same events and the same diagnostics. Of the diagnostics only the track hits and the
   deciding list's category move. -/
namespace RequestFirewall

namespace CounterStore

variable {key : String} {period now : Nat}

theorem increment_down (s : CounterStore) : (s.increment key period now).2.down = s.down := by
  have loaded : (s.load key now).2.down = s.down := by
    show (s.get key now).2.down = s.down
    unfold get
    split
    · rfl
    · split
      rfl
  unfold increment
  split
  · dsimp only
    split
    · unfold set
      split <;> exact loaded
    · exact loaded
  · split
    · rfl
    · split <;> rfl

/-- A count reads and writes no slot but its own: what it answers and leaves there depends only
    on that slot, the kind of store and its link. -/
theorem increment_congr {s s' : CounterStore} (kind : s'.kind = s.kind) (down : s'.down = s.down)
    (same : s'.slot key = s.slot key) :
    (s'.increment key period now).1 = (s.increment key period now).1 ∧
      (s'.increment key period now).2.slot key = (s.increment key period now).2.slot key := by
  have failing : s'.failing = s.failing := by simp [CounterStore.failing, kind, down]
  cases up : s.failing
  · by_cases records : s.kind = .records
    · by_cases fits : (countRecord (loadedAt (s.slot key) now) period now).value ≤ Word.max
      · have ours := increment_of_records key now records period fits
        have theirs := increment_of_records key now (kind.trans records) period (same ▸ fits)
        rw [ours.1, ours.2, theirs.1, theirs.2, same]
        exact ⟨rfl, rfl⟩
      · have beyond := Nat.lt_of_not_le fits
        rw [increment_of_records_overflow key now records beyond,
          increment_of_records_overflow key now (kind.trans records) (same ▸ beyond)]
        have direct : s.kind ≠ .failOpen := by simp [records]
        have direct' : s'.kind ≠ .failOpen := by simp [kind, records]
        refine ⟨rfl, ?_⟩
        rw [overflow_slot, overflow_slot]
        show (s'.get key now).2.slot key = (s.get key now).2.slot key
        rw [get_slot_self key now direct', get_slot_self key now direct, same]
    · have theirs : s'.kind ≠ .records := kind ▸ records
      rw [increment_eq_countSlot_of_up theirs (failing.trans up), increment_eq_countSlot_of_up records up,
        same]
      by_cases fits : (countSlot (s.slot key) period now).1 ≤ Word.max
      · rw [if_pos fits, if_pos fits]
        exact ⟨rfl, (Table.find?_insert_self _ _ _).trans (Table.find?_insert_self _ _ _).symm⟩
      · rw [if_neg fits, if_neg fits, overflow_slot, overflow_slot]
        exact ⟨rfl, same⟩
  · rw [increment_of_failing up, increment_of_failing (failing.trans up)]
    exact ⟨rfl, same⟩

end CounterStore

namespace Diagnostics

theorem get?_increment_of_ne (d : Diagnostics) {c c' : Category} (rule : Option String) (other : c ≠ c') :
    (d.increment c rule).get? c' = d.get? c' := by
  unfold increment get?
  split
  · -- the entry of `c` is updated in place, and the entry of `c'` is another
    rw [List.find?_map]
    cases found : d.counts.find? (·.1 == c') with
    | none => simp [apply_ite Prod.fst, found]
    | some e =>
      have named : e.1 = c' := by simpa using List.find?_some found
      simp [apply_ite Prod.fst, found, named, Ne.symm other]
  · simp [List.find?_append, other]

end Diagnostics

namespace Evaluating

theorem trackStep_get? (req : Request) (rule : TrackRule) (r : Run) {c : Category} (other : c ≠ .trackHit) :
    ((trackStep req rule).run r).2.fw.diagnostics.get? c = r.fw.diagnostics.get? c := by
  unfold trackStep
  split
  · split
    · simp only [run_bind, run_storeKey, run_onStore, run_hit, run_emit]
      exact Diagnostics.get?_increment_of_ne _ _ (Ne.symm other)
    · rfl
  · rfl

theorem trackStage_get? (req : Request) {c : Category} (other : c ≠ .trackHit) :
    ∀ (tracks : List TrackRule) (r : Run),
      ((trackStage req tracks).run r).2.fw.diagnostics.get? c = r.fw.diagnostics.get? c
  | [], _ => rfl
  | rule :: rest, r => by
    simp only [trackStage, run_bind]
    rw [trackStage_get? req other rest, trackStep_get? req rule r other]

end Evaluating

def Run.withRules (r : Run) (rules : RuleSet) : Run := { r with fw := { r.fw with rules } }

namespace Evaluating

theorem trackStep_withRules (req : Request) (rule : TrackRule) (r : Run) (rules : RuleSet) :
    (trackStep req rule).run (r.withRules rules) =
      (((trackStep req rule).run r).1, ((trackStep req rule).run r).2.withRules rules) := by
  unfold trackStep
  split
  · split
    · simp only [run_bind, run_storeKey, run_onStore, run_hit, run_emit, Run.withRules]
    · rfl
  · rfl

theorem trackStage_withRules (req : Request) (rules : RuleSet) :
    ∀ (tracks : List TrackRule) (r : Run), (trackStage req tracks).run (r.withRules rules) =
      (((trackStage req tracks).run r).1, ((trackStage req tracks).run r).2.withRules rules)
  | [], _ => rfl
  | rule :: rest, r => by
    simp only [trackStage, run_bind]
    rw [trackStep_withRules, trackStage_withRules req rules rest]

end Evaluating

/-- Two decisions in progress alike but for the store's slots outside `shown`. -/
structure Run.AlikeOn (shown : String → Prop) (r r' : Run) : Prop where
  now : r'.now = r.now
  events : r'.events = r.events
  options : r'.fw.options = r.fw.options
  diagnostics : r'.fw.diagnostics = r.fw.diagnostics
  kind : r'.fw.store.kind = r.fw.store.kind
  down : r'.fw.store.down = r.fw.store.down
  slots : ∀ a, shown a → r'.fw.store.slot a = r.fw.store.slot a

def trackKeys (options : FirewallOptions) (a : String) : Prop :=
  ∃ rule key, a = StoreKey.render ⟨options.keyPrefix, .track, rule, key⟩

namespace Evaluating

/-- A step that reads the store only at the slots `shown`: from two states with these options,
    alike on those slots, it answers alike and leaves them alike. -/
def ReadsOnly (options : FirewallOptions) (shown : String → Prop) {α : Type} (p : Evaluating α) : Prop :=
  ∀ r r' : Run, r.fw.options = options → r.AlikeOn shown r' →
    (p.run r').1 = (p.run r).1 ∧ (p.run r).2.AlikeOn shown (p.run r').2

namespace ReadsOnly

variable {options : FirewallOptions} {shown : String → Prop} {α β : Type}

theorem pure' (x : α) : ReadsOnly options shown (pure x : Evaluating α) := fun _ _ _ alike => ⟨rfl, alike⟩

theorem bind' {p : Evaluating α} {f : α → Evaluating β} (steady : Steady p)
    (first : ReadsOnly options shown p) (next : ∀ x, ReadsOnly options shown (f x)) :
    ReadsOnly options shown (p >>= f) := by
  intro r r' sameOptions alike
  obtain ⟨answer, alike'⟩ := first r r' sameOptions alike
  have rest := next (p.run r).1 _ _ ((steady r).options.trans sameOptions) alike'
  simp only [run_bind, answer]
  exact rest

theorem storeKey_bind {kind : CounterKind} {rule key : String} {f : String → Evaluating β}
    (next : ReadsOnly options shown (f (StoreKey.render ⟨options.keyPrefix, kind, rule, key⟩))) :
    ReadsOnly options shown (storeKey kind rule key >>= f) := by
  intro r r' sameOptions alike
  simp only [run_bind, run_storeKey, alike.options, sameOptions]
  exact next r r' sameOptions alike

theorem increment_bind {k : String} {period : Nat} {f : Nat → Evaluating β} (seen : shown k)
    (next : ∀ n, ReadsOnly options shown (f n)) :
    ReadsOnly options shown (onStore (fun s now => s.increment k period now) >>= f) := by
  intro r ⟨fw', now', events'⟩ sameOptions alike
  obtain rfl : now' = r.now := alike.now
  have counted := @CounterStore.increment_congr k period r.now r.fw.store fw'.store alike.kind alike.down
    (alike.slots k seen)
  simp only [run_bind, run_onStore, counted.1]
  refine next _ _ _ sameOptions ⟨rfl, alike.events, alike.options, alike.diagnostics, ?_, ?_, fun a shownA => ?_⟩
  · simpa using alike.kind
  · simpa [CounterStore.increment_down] using alike.down
  · by_cases here : a = k
    · subst here
      exact counted.2
    · simp only [CounterStore.increment_slot_ne _ here]
      exact alike.slots a shownA

theorem hit_bind {c : Category} {rule : Option String} {f : Unit → Evaluating β}
    (next : ReadsOnly options shown (f ())) : ReadsOnly options shown (hit c rule >>= f) := by
  intro r r' sameOptions alike
  exact next _ _ sameOptions ⟨alike.now, alike.events, alike.options,
    congrArg (·.increment c rule) alike.diagnostics, alike.kind, alike.down, alike.slots⟩

theorem emit' (e : FirewallEvent) : ReadsOnly options shown (emit e) := fun _ _ _ alike =>
  ⟨rfl, alike.now, congrArg (·.push e) alike.events, alike.options, alike.diagnostics, alike.kind,
    alike.down, alike.slots⟩

end ReadsOnly

theorem trackStep_readsOnly (req : Request) (rule : TrackRule) :
    ReadsOnly options (trackKeys options) (trackStep req rule) := by
  unfold trackStep
  split
  · split
    · exact ReadsOnly.storeKey_bind (ReadsOnly.increment_bind ⟨_, _, rfl⟩ fun _ =>
        ReadsOnly.hit_bind (ReadsOnly.emit' _))
    · exact ReadsOnly.pure' ()
  · exact ReadsOnly.pure' ()

theorem trackStage_readsOnly (req : Request) (tracks : List TrackRule) :
    ReadsOnly options (trackKeys options) (trackStage req tracks) := by
  induction tracks with
  | nil => exact ReadsOnly.pure' ()
  | cons rule rest ih => exact ReadsOnly.bind' (trackStep_steady req rule) (trackStep_readsOnly req rule) fun _ => ih

end Evaluating

namespace Firewall

def afterTracks (fw : Firewall) (req : Request) (now : Nat) : Run :=
  ((Evaluating.trackStage req fw.rules.tracks).run { fw, now }).2

def tracksOnly (fw : Firewall) : Firewall := { fw with rules := { tracks := fw.rules.tracks } }

theorem afterTracks_rules (fw : Firewall) (req : Request) (now : Nat) :
    (fw.afterTracks req now).fw.rules = fw.rules :=
  (Evaluating.trackStage_steady req _ _).rules

theorem run_decide (fw : Firewall) (req : Request) (now : Nat) :
    (Evaluating.decide req).run { fw, now } = (do
      match ← Evaluating.listStage req with
      | some d => pure d
      | none =>
        let r ← get
        Evaluating.fromFail2bans req r.fw.rules.fail2bans).run (fw.afterTracks req now) := by
  rw [Evaluating.decide_eq, Evaluating.opening, bind_assoc, Evaluating.run_get_bind, bind_assoc,
    Evaluating.run_bind]
  rfl

theorem decide_of_listStage {fw : Firewall} {req : Request} {now : Nat} {d : Decision} {r : Run}
    (listed : (Evaluating.listStage req).run (fw.afterTracks req now) = (some d, r)) :
    fw.decide req now = (d, r.events.toList, r.fw) := by
  have run : (Evaluating.decide req).run { fw, now } = (d, r) := by
    rw [run_decide, Evaluating.run_bind, listed]
    rfl
  simp only [Firewall.decide, run]

theorem afterTracks_tracksOnly (fw : Firewall) (req : Request) (now : Nat) :
    fw.tracksOnly.afterTracks req now = (fw.afterTracks req now).withRules fw.tracksOnly.rules :=
  congrArg Prod.snd (Evaluating.trackStage_withRules req fw.tracksOnly.rules fw.rules.tracks { fw, now })

theorem decide_tracksOnly (fw : Firewall) (req : Request) (now : Nat) :
    fw.tracksOnly.decide req now = (Decision.pass none, (fw.afterTracks req now).events.toList,
      { (fw.afterTracks req now).fw with
        rules := fw.tracksOnly.rules
        diagnostics := (fw.afterTracks req now).fw.diagnostics.increment .passed none }) := by
  simp only [Firewall.decide, run_decide, afterTracks_tracksOnly]
  simp [Evaluating.listStage, Evaluating.checkSafelists, Evaluating.checkBlocklists, Evaluating.fromFail2bans,
    Evaluating.fail2banStage, Evaluating.fromThrottles, Evaluating.throttleStage, Run.withRules, tracksOnly]
  rfl

end Firewall

theorem findSome?_checked {α β : Type} (p : α → β) (ok : β → Bool) {l : List α} {x : α}
    (first : l.find? (fun y => ok (p y)) = some x) :
    l.findSome? (fun y => if ok (p y) then some (y, p y) else none) = some (x, p x) := by
  induction l with
  | nil => cases first
  | cons y rest ih =>
    by_cases here : ok (p y) = true
    · simp only [List.find?_cons, here, Option.some.injEq] at first
      subst first
      simp [here]
    · simp only [List.find?_cons, here] at first
      simp [here, ih first]

namespace Evaluating

theorem listStage_run_of_safelisted {req : Request} {r : Run} {rule : SafelistRule}
    (first : r.fw.rules.safelists.find? (·.condition.holds req) = some rule) :
    (listStage req).run r = (some (Decision.safelisted rule.name),
      { r with
        fw := { r.fw with diagnostics := r.fw.diagnostics.increment .safelisted (some rule.name) }
        events := r.events.push (.safelistMatched rule.name rule.condition.describe) }) := by
  simp [listStage, checkSafelists, first]
  rfl

theorem listStage_run_of_blocklisted {req : Request} {r : Run} {rule : BlocklistRule}
    (clear : r.fw.rules.safelists.find? (·.condition.holds req) = none)
    (first : r.fw.rules.blocklists.find? (·.condition.holds req) = some rule) :
    (listStage req).run r = (some (Decision.blocked rule.name .blocklist),
      { r with
        fw := { r.fw with diagnostics := r.fw.diagnostics.increment .blocklisted (some rule.name) }
        events := r.events.push
          (.blocklistMatched rule.name (rule.condition.check req).source (rule.condition.check req).metadata) }) := by
  have found := findSome?_checked (fun b : BlocklistRule => b.condition.check req) Check.isMatch first
  simp [listStage, checkSafelists, checkBlocklists, clear, found]
  rfl

end Evaluating

/-- What a call does that a list rule decides with `d`, reporting `e`. It is decided so; its
    events are the tracks' events followed by `e` and its writes are the tracks' writes, as with
    the rule set cut down to the tracks; no counter of another kind is written, and none is read:
    a store alike on the track counters gives the same decision, events and diagnostics. Of the
    diagnostics only the track hits, as with the cut rule set, and the category of `e` move, the
    latter by one. -/
structure ListDecides (fw : Firewall) (req : Request) (now : Nat) (d : Decision) (e : FirewallEvent) :
    Prop where
  decision : (fw.decide req now).1 = d
  events : (fw.decide req now).2.1 = (fw.tracksOnly.decide req now).2.1 ++ [e]
  store : (fw.decide req now).2.2.store = (fw.tracksOnly.decide req now).2.2.store
  untouched : ∀ kind, kind ≠ .track → ∀ rule key,
    (fw.decide req now).2.2.store.slot (fw.storeKey kind rule key) = fw.store.slot (fw.storeKey kind rule key)
  unread : ∀ s : CounterStore, s.kind = fw.store.kind → s.down = fw.store.down →
    (∀ rule key, s.slot (fw.storeKey .track rule key) = fw.store.slot (fw.storeKey .track rule key)) →
    ({ fw with store := s }.decide req now).1 = d ∧
      ({ fw with store := s }.decide req now).2.1 = (fw.decide req now).2.1 ∧
      ({ fw with store := s }.decide req now).2.2.diagnostics = (fw.decide req now).2.2.diagnostics
  trackHits : (fw.decide req now).2.2.diagnostics.get? .trackHit =
    (fw.tracksOnly.decide req now).2.2.diagnostics.get? .trackHit
  others : ∀ c, c ≠ .trackHit → c ≠ e.category →
    (fw.decide req now).2.2.diagnostics.get? c = fw.diagnostics.get? c
  terminal : (fw.decide req now).2.2.diagnostics.total e.category = fw.diagnostics.total e.category + 1

theorem ListDecides.of_stage {fw : Firewall} {req : Request} {now : Nat} {d : Decision}
    {e : FirewallEvent} {name : String} (counted : e.category ≠ .trackHit)
    (stage : ∀ r : Run, r.fw.rules = fw.rules → (Evaluating.listStage req).run r = (some d,
      { r with
        fw := { r.fw with diagnostics := r.fw.diagnostics.increment e.category (some name) }
        events := r.events.push e })) :
    ListDecides fw req now d e := by
  have decided := Firewall.decide_of_listStage (stage _ (fw.afterTracks_rules req now))
  have cut := fw.decide_tracksOnly req now
  have tracked : ∀ c, c ≠ .trackHit →
      (fw.afterTracks req now).fw.diagnostics.get? c = fw.diagnostics.get? c :=
    fun c other => Evaluating.trackStage_get? req other _ _
  refine ⟨by rw [decided], by rw [decided, cut]; simp, by rw [decided, cut], ?_, ?_, ?_, ?_, ?_⟩
  · intro kind other rule key
    rw [decided]
    exact Evaluating.trackStage_avoids req (fun rule' _ => elsewhere_of_kind_ne (Ne.symm other) _ _ _ _)
      { fw, now } rfl rfl
  · intro s kind down tracks
    have alike : Run.AlikeOn (trackKeys fw.options) { fw, now } { fw := { fw with store := s }, now } :=
      ⟨rfl, rfl, rfl, rfl, kind, down, fun a ⟨rule, key, here⟩ => here ▸ tracks rule key⟩
    have twin := Evaluating.trackStage_readsOnly req fw.rules.tracks { fw, now } _ rfl alike
    have decided' := @Firewall.decide_of_listStage { fw with store := s } req now d _
      (stage _ (Firewall.afterTracks_rules _ req now))
    rw [decided', decided]
    exact ⟨rfl, congrArg (fun ev => (ev.push e).toList) twin.2.events,
      congrArg (fun diag => diag.increment e.category (some name)) twin.2.diagnostics⟩
  · rw [decided, cut]
    exact (Diagnostics.get?_increment_of_ne _ _ counted).trans
      (Diagnostics.get?_increment_of_ne _ _ (by decide)).symm
  · intro c other notE
    rw [decided]
    exact (Diagnostics.get?_increment_of_ne _ _ (Ne.symm notE)).trans (tracked c other)
  · rw [decided]
    show ((fw.afterTracks req now).fw.diagnostics.increment e.category (some name)).total e.category = _
    rw [Diagnostics.total_increment, if_pos rfl]
    unfold Diagnostics.total
    rw [tracked _ counted]

theorem find?_of_first {α : Type} {p : α → Bool} {l before after : List α} {x : α}
    (split : l = before ++ x :: after) (holds : p x = true) (earlier : ∀ y ∈ before, p y = false) :
    l.find? p = some x := by
  subst split
  rw [List.find?_append, List.find?_eq_none.mpr fun y mem => by simp [earlier y mem]]
  simp [holds]

/-- Stage precedence and frame of a decision: when a safelist rule holds for the request, the
    first such rule in registration order lets it through; otherwise, when a blocklist rule holds,
    the first such rule blocks it; whatever the fail2ban rules, the throttles and every counter
    are. Either way the call writes only what the tracks write, exactly as with the rule set cut
    down to the tracks, reads no counter of another kind, and moves no diagnostics but the track
    hits and the deciding list's category. -/
theorem list_rules_take_precedence (fw : Firewall) (req : Request) (now : Nat) :
    (∀ (before : List SafelistRule) (rule : SafelistRule) (after : List SafelistRule),
      fw.rules.safelists = before ++ rule :: after →
      rule.condition.holds req = true → (∀ s ∈ before, s.condition.holds req = false) →
      ListDecides fw req now (Decision.safelisted rule.name)
        (.safelistMatched rule.name rule.condition.describe)) ∧
    ((∀ s ∈ fw.rules.safelists, s.condition.holds req = false) →
      ∀ (before : List BlocklistRule) (rule : BlocklistRule) (after : List BlocklistRule),
      fw.rules.blocklists = before ++ rule :: after →
      rule.condition.holds req = true → (∀ b ∈ before, b.condition.holds req = false) →
      ListDecides fw req now (Decision.blocked rule.name .blocklist)
        (.blocklistMatched rule.name (rule.condition.check req).source (rule.condition.check req).metadata)) := by
  constructor
  · intro before rule after split holds earlier
    have first := find?_of_first split holds earlier
    refine @ListDecides.of_stage fw req now _ _ rule.name (by simp [FirewallEvent.category]) fun r rules => ?_
    exact Evaluating.listStage_run_of_safelisted (by rw [rules]; exact first)
  · intro none before rule after split holds earlier
    have clear : fw.rules.safelists.find? (·.condition.holds req) = .none :=
      List.find?_eq_none.mpr fun s mem => by simp [none s mem]
    have first := find?_of_first split holds earlier
    refine @ListDecides.of_stage fw req now _ _ rule.name (by simp [FirewallEvent.category]) fun r rules => ?_
    exact Evaluating.listStage_run_of_blocklisted (by rw [rules]; exact clear) (by rw [rules]; exact first)

/-- A health check and an internal area let through, a scanner path and the admin area blocked,
    and a track, a fail2ban rule and a throttle that act on every request. -/
def officeFirewall : Firewall where
  rules := {
    safelists := [⟨"health", .pathIs "/health"⟩, ⟨"internal", .pathPrefix "/internal"⟩]
    blocklists := [⟨"scanner", .pathIs "/wp-login.php"⟩, ⟨"admin", .pathPrefix "/admin"⟩]
    throttles := [⟨"api", 0, 60, .path⟩]
    fail2bans := [⟨"probe", 0, 60, 600, .always, .path⟩]
    tracks := [⟨"all", 60, .always, .path⟩] }

theorem list_rules_take_precedence_office :
    ListDecides officeFirewall { path := "/internal/metrics" } 1000000 (Decision.safelisted "internal")
        (.safelistMatched "internal" "path_prefix:/internal") ∧
      ListDecides officeFirewall { path := "/admin/users" } 1000000 (Decision.blocked "admin" .blocklist)
        (.blocklistMatched "admin" "path_prefix:/admin" none) :=
  ⟨(list_rules_take_precedence officeFirewall _ 1000000).1 [_] _ [] rfl (by decide +kernel)
      (by decide +kernel),
    (list_rules_take_precedence officeFirewall _ 1000000).2 (by decide +kernel) [_] _ [] rfl
      (by decide +kernel) (by decide +kernel)⟩

end RequestFirewall
