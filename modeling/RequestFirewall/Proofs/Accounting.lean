import Mathlib
import RequestFirewall.Proofs.Replay
/- Diagnostics and events, decision by decision. Every hit a decision counts, but for the failures
   a fail2ban rule counts, is either paired with the event that reports it (a track hit, a
   safelist or blocklist match, a ban, a throttle) or is the silent mark of its outcome (a pass, a
   block on an active ban), and the events of one call are reports of tracks and bans, closed by
   one event naming the rule that decided when a list or a throttle did. So along every run of
   calls, whatever the rule sets installed and whatever the store does, each outcome's total grows
   by the decisions that had it, the track and ban totals by their events, and the last event of
   each call tells how it ended. -/
namespace RequestFirewall

namespace Diagnostics

theorem total_increment (d : Diagnostics) (c : Category) (rule : Option String) (c' : Category) :
    (d.increment c rule).total c' = d.total c' + if c = c' then 1 else 0 := by
  unfold increment total get?
  split
  · -- the category is there: its entry is updated in place
    rename_i counts found
    obtain ⟨⟨k, v⟩, hit, rfl⟩ := Option.map_eq_some_iff.mp found
    have keyed : k = c := by simpa using List.find?_some hit
    subst keyed
    rw [List.find?_map]
    by_cases same : k = c'
    · subst same
      simp [apply_ite Prod.fst, hit, CategoryCounts.hit]
    · cases other : d.counts.find? (·.1 == c') with
      | none => simp [apply_ite Prod.fst, other, same]
      | some e =>
        have named : e.1 = c' := by simpa using List.find?_some other
        simp [apply_ite Prod.fst, other, same, named, Ne.symm same]
  · -- the category is new: its entry goes at the end
    rename_i found
    simp only [Option.map_eq_none_iff] at found
    by_cases same : c = c'
    · subst same
      simp [List.find?_append, found, CategoryCounts.hit]
    · simp [List.find?_append, same]

end Diagnostics

namespace FirewallEvent

def category : FirewallEvent → Category
  | .safelistMatched .. => .safelisted
  | .blocklistMatched .. => .blocklisted
  | .throttleExceeded .. => .throttleExceeded
  | .fail2banBanned .. => .fail2banBanned
  | .trackHit .. => .trackHit

def settles : FirewallEvent → Bool
  | .safelistMatched .. | .blocklistMatched .. | .throttleExceeded .. => true
  | _ => false

end FirewallEvent

namespace Decision

/-- The outcome counted for a decision that no event reports: a pass, or a block on a ban. -/
def silent (d : Decision) : Option Category :=
  match d.outcome, d.blockType with
  | .pass, _ => some .passed
  | .blocked, some .fail2ban => some .fail2banBlocked
  | _, _ => none

def reported (d : Decision) : Bool :=
  d.outcome == .safelisted || (d.outcome == .blocked && d.blockType == some .blocklist) ||
    d.outcome == .throttled

/-- The outcome a decision is counted under, for the five shapes a decision can take. -/
def tally (d : Decision) : Option Category :=
  match d.outcome, d.blockType with
  | .pass, _ => some .passed
  | .safelisted, _ => some .safelisted
  | .blocked, some .blocklist => some .blocklisted
  | .blocked, some .fail2ban => some .fail2banBlocked
  | .throttled, _ => some .throttleExceeded
  | .blocked, _ => none

end Decision

/-- The event that reports a decision: it names the deciding rule as configured and, for a
    throttle, the key as extracted from the request. -/
inductive Closes (rules : RuleSet) (req : Request) : FirewallEvent → Decision → Prop
  | safelist {rule : SafelistRule} (listed : rule ∈ rules.safelists)
      (holds : rule.condition.holds req = true) :
      Closes rules req (.safelistMatched rule.name rule.condition.describe) (Decision.safelisted rule.name)
  | blocklist {rule : BlocklistRule} (listed : rule ∈ rules.blocklists)
      (matched : (rule.condition.check req).isMatch = true) :
      Closes rules req
        (.blocklistMatched rule.name (rule.condition.check req).source (rule.condition.check req).metadata)
        (Decision.blocked rule.name .blocklist)
  | throttle {rule : ThrottleRule} {key : String} (listed : rule ∈ rules.throttles)
      (keyed : rule.key.extract req = some key) {count : Nat} (exceeded : rule.limit < count)
      (retryAfter : Nat) (info : Option RateLimitInfo) :
      Closes rules req (.throttleExceeded rule.name key count rule.limit rule.period retryAfter)
        (Decision.throttled rule.name retryAfter info)

theorem Closes.facts {rules : RuleSet} {req : Request} {e : FirewallEvent} {d : Decision}
    (closes : Closes rules req e d) :
    e.settles = true ∧ d.reported = true ∧ d.silent = none ∧ d.tally = some e.category ∧
      d.rule = some e.rule := by
  cases closes <;> simp [FirewallEvent.settles, Decision.reported, Decision.silent, Decision.tally,
    FirewallEvent.category, FirewallEvent.rule, Decision.safelisted, Decision.blocked, Decision.throttled]

/-- Reports of tracks and bans only, each counted with its own hit; failures counted by fail2ban
    rules are the only other hits. -/
def Quiet (new : List FirewallEvent) (hits : List Category) : Prop :=
  (∀ e ∈ new, e.settles = false) ∧ hits.filter (· != .fail2banFailHit) = new.map FirewallEvent.category

/-- What a list or a throttle adds: nothing when it lets the request on, and when it decides, the
    one event reporting the decision, with its hit. -/
def Closing (rules : RuleSet) (req : Request) : Option Decision → List FirewallEvent → List Category → Prop
  | none, new, hits => new = [] ∧ hits = []
  | some d, new, hits => ∃ e, new = [e] ∧ hits = [e.category] ∧ Closes rules req e d

def Banning (o : Option Decision) (new : List FirewallEvent) (hits : List Category) : Prop :=
  (∀ e ∈ new, e.settles = false) ∧
    hits.filter (· != .fail2banFailHit) = new.map FirewallEvent.category ++ (o.bind Decision.silent).toList ∧
    ∀ d ∈ o, d.silent = some .fail2banBlocked

/-- What a whole decision adds: reports of tracks and bans, then the event reporting the decision
    when a list or a throttle made it, and otherwise its silent hit. -/
def Accounts (rules : RuleSet) (req : Request) (d : Decision) (new : List FirewallEvent)
    (hits : List Category) : Prop :=
  hits.filter (· != .fail2banFailHit) = new.map FirewallEvent.category ++ d.silent.toList ∧
    ∃ quiet closing, new = quiet ++ closing ∧ (∀ e ∈ quiet, e.settles = false) ∧
      (closing = [] ∧ d.silent.isSome = true ∨ ∃ e, closing = [e] ∧ Closes rules req e d)

theorem FirewallEvent.category_ne_failHit (e : FirewallEvent) : e.category ≠ .fail2banFailHit := by
  cases e <;> simp [FirewallEvent.category]

theorem Quiet.append {n₁ n₂ : List FirewallEvent} {h₁ h₂ : List Category} (first : Quiet n₁ h₁)
    (second : Quiet n₂ h₂) : Quiet (n₁ ++ n₂) (h₁ ++ h₂) :=
  ⟨List.forall_mem_append.mpr ⟨first.1, second.1⟩, by simp [first.2, second.2]⟩

theorem Banning.after {n₁ n₂ : List FirewallEvent} {h₁ h₂ : List Category} {o : Option Decision}
    (first : Quiet n₁ h₁) (second : Banning o n₂ h₂) : Banning o (n₁ ++ n₂) (h₁ ++ h₂) :=
  ⟨List.forall_mem_append.mpr ⟨first.1, second.1⟩, by simpa [first.2] using second.2.1, second.2.2⟩

theorem Accounts.after {rules : RuleSet} {req : Request} {d : Decision} {n₁ n₂ : List FirewallEvent}
    {h₁ h₂ : List Category} (first : Quiet n₁ h₁) (second : Accounts rules req d n₂ h₂) :
    Accounts rules req d (n₁ ++ n₂) (h₁ ++ h₂) := by
  obtain ⟨quiet, closing, split, calm, ends⟩ := second.2
  -- the earlier reports join the quiet part; the closing event stays last
  exact ⟨by simpa [first.2] using second.1, n₁ ++ quiet, closing, by simp [split],
    List.forall_mem_append.mpr ⟨first.1, calm⟩, ends⟩

theorem Quiet.nil : Quiet [] [] := ⟨by simp, rfl⟩

theorem Banning.nil : Banning none [] [] := ⟨by simp, rfl, by simp⟩

theorem Banning.quiet {n : List FirewallEvent} {h : List Category} (banning : Banning none n h) :
    Quiet n h :=
  ⟨banning.1, by simpa using banning.2.1⟩

theorem Banning.accounts {rules : RuleSet} {req : Request} {d : Decision} {n : List FirewallEvent}
    {h : List Category} (banning : Banning (some d) n h) : Accounts rules req d n h :=
  ⟨by simpa using banning.2.1, n, [], by simp, banning.1, .inl ⟨rfl, by simp [banning.2.2 d rfl]⟩⟩

theorem Closes.accounts {rules : RuleSet} {req : Request} {e : FirewallEvent} {d : Decision}
    (closes : Closes rules req e d) : Accounts rules req d [e] [e.category] := by
  refine ⟨?_, [], [e], rfl, by simp, .inr ⟨e, rfl, closes⟩⟩
  simp [closes.facts.2.2.1, e.category_ne_failHit]

def Category.outcomes : List Category :=
  [.passed, .safelisted, .blocklisted, .fail2banBlocked, .throttleExceeded]

theorem FirewallEvent.category_of_calm {e : FirewallEvent} (calm : e.settles = false) :
    e.category = .trackHit ∨ e.category = .fail2banBanned := by
  cases e <;> simp_all [FirewallEvent.settles, FirewallEvent.category]

theorem Decision.silent_shape {d : Decision} {c : Category} (silent : d.silent = some c) :
    d.outcome = .pass ∧ c = .passed ∨
      d.outcome = .blocked ∧ d.blockType = some .fail2ban ∧ c = .fail2banBlocked := by
  unfold Decision.silent at silent
  split at silent <;> simp_all

theorem Decision.tally_of_silent {d : Decision} {c : Category} (silent : d.silent = some c) :
    d.tally = some c := by
  rcases Decision.silent_shape silent with ⟨passed, rfl⟩ | ⟨blocked, banned, rfl⟩
  · simp [Decision.tally, passed]
  · simp [Decision.tally, blocked, banned]

theorem Decision.silent_cases {d : Decision} {c : Category} (silent : d.silent = some c) :
    c = .passed ∨ c = .fail2banBlocked :=
  (Decision.silent_shape silent).imp (·.2) (·.2.2)

theorem Decision.reported_of_silent {d : Decision} {c : Category} (silent : d.silent = some c) :
    d.reported = false := by
  rcases Decision.silent_shape silent with ⟨passed, -⟩ | ⟨blocked, banned, -⟩
  · simp [Decision.reported, passed]
  · simp [Decision.reported, blocked, banned]

theorem Decision.tally_mem {d : Decision} {c : Category} (tallied : d.tally = some c) :
    c ∈ Category.outcomes := by
  unfold Decision.tally at tallied
  split at tallied <;> simp_all [Category.outcomes]

theorem Decision.tallied_once {d : Decision} (tallied : d.tally.isSome = true) :
    (Category.outcomes.map fun c => if d.tally = some c then 1 else 0).sum = 1 := by
  obtain ⟨c, counted⟩ := Option.isSome_iff_exists.mp tallied
  have mem := Decision.tally_mem counted
  simp only [Category.outcomes, List.mem_cons, List.not_mem_nil, or_false] at mem
  rcases mem with rfl | rfl | rfl | rfl | rfl <;> simp [Category.outcomes, counted]

section Accounts

variable {rules : RuleSet} {req : Request} {d : Decision} {n : List FirewallEvent} {h : List Category}

theorem Accounts.count (acc : Accounts rules req d n h) {c : Category} (other : c ≠ .fail2banFailHit) :
    h.count c = (n.map FirewallEvent.category).count c + d.silent.toList.count c := by
  have kept : (c != .fail2banFailHit) = true := by simpa using other
  rw [← @List.count_filter Category _ _ (· != .fail2banFailHit) c h kept, acc.1, List.count_append]

theorem Accounts.count_outcome (acc : Accounts rules req d n h) {c : Category}
    (outcome : c ∈ Category.outcomes) : h.count c = if d.tally = some c then 1 else 0 := by
  have other : c ≠ .fail2banFailHit := by
    rintro rfl
    simp [Category.outcomes] at outcome
  rw [acc.count other]
  obtain ⟨quiet, closing, rfl, calm, ends⟩ := acc.2
  have untallied : (quiet.map FirewallEvent.category).count c = 0 := by
    refine List.count_eq_zero.mpr fun listed => ?_
    obtain ⟨e, mem, rfl⟩ := List.mem_map.mp listed
    rcases FirewallEvent.category_of_calm (calm e mem) with named | named <;>
      simp [named, Category.outcomes] at outcome
  rcases ends with ⟨rfl, marked⟩ | ⟨e, rfl, closes⟩
  · obtain ⟨s, silent⟩ := Option.isSome_iff_exists.mp marked
    simp [untallied, silent, Decision.tally_of_silent silent, List.count_singleton]
  · obtain ⟨-, -, silent, tallied, -⟩ := closes.facts
    simp [untallied, silent, tallied, List.count_singleton]

theorem Accounts.count_report (acc : Accounts rules req d n h) {c : Category}
    (report : c = .trackHit ∨ c = .fail2banBanned) : h.count c = (n.map FirewallEvent.category).count c := by
  have other : c ≠ .fail2banFailHit := by rcases report with rfl | rfl <;> simp
  rw [acc.count other]
  cases silent : d.silent with
  | none => simp
  | some s =>
    rcases Decision.silent_cases silent with rfl | rfl <;> rcases report with rfl | rfl <;> simp

theorem Accounts.tally_isSome (acc : Accounts rules req d n h) : d.tally.isSome = true := by
  obtain ⟨_, _, _, _, ⟨-, marked⟩ | ⟨e, -, closes⟩⟩ := acc.2
  · obtain ⟨s, silent⟩ := Option.isSome_iff_exists.mp marked
    simp [Decision.tally_of_silent silent]
  · simp [closes.facts.2.2.2.1]

/-- How a call's events end: with an event that settles exactly when a list or a throttle
    decided, and then that event reports the decision. -/
def EndsWithReport (rules : RuleSet) (req : Request) (d : Decision) (events : List FirewallEvent) : Prop :=
  events.getLast?.any FirewallEvent.settles = d.reported ∧
    ∀ e ∈ events.getLast?, e.settles = true → Closes rules req e d

theorem Accounts.endsWithReport (acc : Accounts rules req d n h) : EndsWithReport rules req d n := by
  obtain ⟨quiet, closing, rfl, calm, ends⟩ := acc.2
  rcases ends with ⟨rfl, marked⟩ | ⟨e, rfl, closes⟩
  · -- no list or throttle decided: the last event, if any, reports a track or a ban
    obtain ⟨s, silent⟩ := Option.isSome_iff_exists.mp marked
    have unreported := Decision.reported_of_silent silent
    cases last : quiet.getLast? with
    | none => simp [EndsWithReport, last, unreported]
    | some e =>
      have settled := calm e (List.mem_of_getLast? last)
      simp [EndsWithReport, last, unreported, settled]
  · have facts := closes.facts
    simp [EndsWithReport, facts.1, facts.2.1, closes]

end Accounts

namespace Evaluating

/-- From every state with these rules, `p` emits the events `new` after those already emitted and
    counts the hits `hits`, and `post` relates them to its answer. -/
def Reports (rules : RuleSet) {α : Type} (p : Evaluating α)
    (post : α → List FirewallEvent → List Category → Prop) : Prop :=
  ∀ r : Run, r.fw.rules = rules → ∃ new hits,
    (p.run r).2.events.toList = r.events.toList ++ new ∧
      (∀ c, (p.run r).2.fw.diagnostics.total c = r.fw.diagnostics.total c + hits.count c) ∧
      post (p.run r).1 new hits

namespace Reports

variable {rules : RuleSet} {α β : Type} {post : β → List FirewallEvent → List Category → Prop}

theorem pure' {x : β} (holds : post x [] []) : Reports rules (pure x) post :=
  fun r _ => ⟨[], [], (List.append_nil r.events.toList).symm, fun _ => rfl, holds⟩

theorem mono {p : Evaluating β} {P : β → List FirewallEvent → List Category → Prop} (first : Reports rules p P)
    (weaker : ∀ b n h, P b n h → post b n h) : Reports rules p post := by
  intro r same
  obtain ⟨n, h, events, totals, holds⟩ := first r same
  exact ⟨n, h, events, totals, weaker _ _ _ holds⟩

theorem bind' {p : Evaluating α} {f : α → Evaluating β} {P : α → List FirewallEvent → List Category → Prop}
    (steady : Steady p) (first : Reports rules p P)
    (next : ∀ a n₁ h₁, P a n₁ h₁ → Reports rules (f a) fun b n₂ h₂ => post b (n₁ ++ n₂) (h₁ ++ h₂)) :
    Reports rules (p >>= f) post := by
  intro r same
  obtain ⟨n₁, h₁, events₁, totals₁, holds₁⟩ := first r same
  obtain ⟨n₂, h₂, events₂, totals₂, holds₂⟩ :=
    next _ _ _ holds₁ (p.run r).2 ((steady r).rules.trans same)
  refine ⟨n₁ ++ n₂, h₁ ++ h₂, ?_, fun c => ?_, holds₂⟩
  · show ((f (p.run r).1).run (p.run r).2).2.events.toList = _
    rw [events₂, events₁, List.append_assoc]
  · show ((f (p.run r).1).run (p.run r).2).2.fw.diagnostics.total c = _
    rw [totals₂, totals₁, List.count_append]
    omega

theorem get_bind {f : Run → Evaluating β}
    (next : ∀ r : Run, r.fw.rules = rules → Reports rules (f r) post) : Reports rules (get >>= f) post :=
  fun r same => next r same r same

theorem storeKey_bind {kind : CounterKind} {rule key : String} {f : String → Evaluating β}
    (next : ∀ k, Reports rules (f k) post) : Reports rules (storeKey kind rule key >>= f) post :=
  fun _ => next _ _

theorem onStore_bind {g : CounterStore → Nat → α × CounterStore} {f : α → Evaluating β}
    (next : ∀ x, Reports rules (f x) post) : Reports rules (onStore g >>= f) post :=
  fun _ same => next _ _ same

theorem hit_bind {c : Category} {rule : Option String} {f : Unit → Evaluating β}
    (next : Reports rules (f ()) fun b n h => post b n (c :: h)) :
    Reports rules (hit c rule >>= f) post := by
  intro r same
  let counted : Run := { r with fw := { r.fw with diagnostics := r.fw.diagnostics.increment c rule } }
  obtain ⟨n, h, events, totals, holds⟩ := next counted same
  refine ⟨n, c :: h, events, fun c' => ?_, holds⟩
  show ((f ()).run counted).2.fw.diagnostics.total c' = _
  rw [totals c', Diagnostics.total_increment, List.count_cons]
  by_cases same : c = c'
  · simp [same]
    omega
  · simp [same]

theorem emit_bind {e : FirewallEvent} {f : Unit → Evaluating β}
    (next : Reports rules (f ()) fun b n h => post b (e :: n) h) :
    Reports rules (emit e >>= f) post := by
  intro r same
  let emitted : Run := { r with events := r.events.push e }
  obtain ⟨n, h, events, totals, holds⟩ := next emitted same
  refine ⟨e :: n, h, ?_, totals, holds⟩
  show ((f ()).run emitted).2.events.toList = _
  rw [events]
  simp [emitted]

end Reports

section Stages

variable {rules : RuleSet} (req : Request)

open Reports

theorem trackStep_reports (rule : TrackRule) : Reports rules (trackStep req rule) fun _ => Quiet := by
  unfold trackStep
  split
  · split
    · exact storeKey_bind fun k => onStore_bind fun count => hit_bind (emit_bind (pure'
        ⟨by simp [FirewallEvent.settles], by simp [FirewallEvent.category]⟩))
    · exact pure' Quiet.nil
  · exact pure' Quiet.nil

theorem trackStage_reports (tracks : List TrackRule) :
    Reports rules (trackStage req tracks) fun _ => Quiet := by
  induction tracks with
  | nil => exact pure' Quiet.nil
  | cons rule rest ih =>
    exact bind' (trackStep_steady req rule) (trackStep_reports req rule) fun _ _ _ first =>
      ih.mono fun _ _ _ second => first.append second

theorem checkSafelists_reports : Reports rules (checkSafelists req) (Closing rules req) := by
  unfold checkSafelists
  refine get_bind fun r same => ?_
  split
  · rename_i rule found
    rw [same] at found
    have holds := List.find?_some found
    exact hit_bind (emit_bind (pure' ⟨_, rfl, rfl, .safelist (List.mem_of_find?_eq_some found) holds⟩))
  · exact pure' ⟨rfl, rfl⟩

theorem checkBlocklists_reports : Reports rules (checkBlocklists req) (Closing rules req) := by
  unfold checkBlocklists
  refine get_bind fun r same => ?_
  dsimp only
  split
  · rename_i rule c found
    obtain ⟨candidate, listed, checked⟩ := List.exists_of_findSome?_eq_some found
    split at checked
    · rename_i matched
      cases checked
      rw [same] at listed
      exact hit_bind (emit_bind (pure' ⟨_, rfl, rfl, .blocklist listed matched⟩))
    · contradiction
  · exact pure' ⟨rfl, rfl⟩

theorem listStage_reports : Reports rules (listStage req) (Closing rules req) := by
  unfold listStage
  refine bind' (checkSafelists_steady req) (checkSafelists_reports req) fun o n₁ h₁ closing => ?_
  cases o with
  | some d => exact pure' (by simpa using closing)
  | none =>
    obtain ⟨rfl, rfl⟩ := closing
    exact (checkBlocklists_reports req).mono fun _ _ _ closing => by simpa using closing

theorem checkFail2ban_reports (rule : Fail2BanRule) : Reports rules (checkFail2ban req rule) Banning := by
  unfold checkFail2ban
  split
  · exact pure' Banning.nil
  · refine storeKey_bind fun banKey => onStore_bind fun banned => ?_
    split
    · -- an active ban blocks without an event
      exact hit_bind (pure' ⟨by simp, by simp [Decision.silent, Decision.blocked],
        by simp [Decision.silent, Decision.blocked]⟩)
    · split
      · refine storeKey_bind fun failKey => onStore_bind fun failures => hit_bind ?_
        split
        · exact onStore_bind fun _ => hit_bind (emit_bind (pure'
            ⟨by simp [FirewallEvent.settles], by simp [FirewallEvent.category], by simp⟩))
        · exact pure' ⟨by simp, rfl, by simp⟩
      · exact pure' Banning.nil

theorem fail2banStage_reports (fail2bans : List Fail2BanRule) :
    Reports rules (fail2banStage req fail2bans) Banning := by
  induction fail2bans with
  | nil => exact pure' Banning.nil
  | cons rule rest ih =>
    refine bind' (checkFail2ban_steady req rule) (checkFail2ban_reports req rule) fun o n₁ h₁ banning => ?_
    cases o with
    | some d => exact pure' (by simpa using banning)
    | none => exact ih.mono fun _ _ _ later => Banning.after banning.quiet later

theorem throttleStep_reports (headersOn : Bool) (rule : ThrottleRule) (quota : Option RateLimitInfo)
    (listed : rule ∈ rules.throttles) :
    Reports rules (throttleStep headersOn req rule quota) fun s => Closing rules req s.getLeft? := by
  unfold throttleStep
  split
  · exact pure' ⟨rfl, rfl⟩
  · rename_i key keyed
    refine storeKey_bind fun k => onStore_bind fun count => onStore_bind fun retryAfter => ?_
    split
    · rename_i exceeded
      exact hit_bind (emit_bind (pure' ⟨_, rfl, rfl, .throttle listed keyed exceeded retryAfter _⟩))
    · split <;> exact pure' ⟨rfl, rfl⟩

theorem throttleStage_reports (headersOn : Bool) (throttles : List ThrottleRule)
    (quota : Option RateLimitInfo) (listed : ∀ rule ∈ throttles, rule ∈ rules.throttles) :
    Reports rules (throttleStage headersOn req throttles quota) fun s => Closing rules req s.getLeft? := by
  induction throttles generalizing quota with
  | nil => exact pure' ⟨rfl, rfl⟩
  | cons rule rest ih =>
    have first := throttleStep_reports req headersOn rule quota (listed rule List.mem_cons_self)
    refine bind' (throttleStep_steady headersOn req rule quota) first fun s n₁ h₁ closing => ?_
    cases s with
    | inl d => exact pure' (by simpa using closing)
    | inr later =>
      obtain ⟨rfl, rfl⟩ := closing
      have rest_listed : ∀ t ∈ rest, t ∈ rules.throttles := fun t mem => listed t (List.mem_cons_of_mem _ mem)
      exact (ih later rest_listed).mono fun _ _ _ closing => by simpa using closing

theorem fromThrottles_reports (headersOn : Bool) (throttles : List ThrottleRule)
    (quota : Option RateLimitInfo) (listed : ∀ rule ∈ throttles, rule ∈ rules.throttles) :
    Reports rules (fromThrottles headersOn req throttles quota) (Accounts rules req) := by
  refine bind' (throttleStage_steady headersOn req throttles quota)
    (throttleStage_reports req headersOn throttles quota listed) fun s n₁ h₁ closing => ?_
  cases s with
  | inl d =>
    obtain ⟨e, rfl, rfl, closes⟩ := closing
    exact pure' (by simpa using closes.accounts)
  | inr later =>
    obtain ⟨rfl, rfl⟩ := closing
    exact hit_bind (pure' ⟨by simp [Decision.silent, Decision.pass], [], [], rfl, by simp,
      .inl ⟨rfl, by simp [Decision.silent, Decision.pass]⟩⟩)

theorem fromFail2bans_reports (fail2bans : List Fail2BanRule) :
    Reports rules (fromFail2bans req fail2bans) (Accounts rules req) := by
  refine bind' (fail2banStage_steady req fail2bans) (fail2banStage_reports req fail2bans)
    fun o n₁ h₁ banning => ?_
  cases o with
  | some d => exact pure' (by simpa using banning.accounts)
  | none =>
    refine get_bind fun r same => ?_
    have listed : ∀ rule ∈ r.fw.rules.throttles, rule ∈ rules.throttles := fun _ mem => same ▸ mem
    exact (fromThrottles_reports req _ _ none listed).mono fun _ _ _ later => Accounts.after banning.quiet later

theorem opening_reports :
    Reports rules (opening req) fun o n h =>
      ∃ n₁ h₁ n₂ h₂, n = n₁ ++ n₂ ∧ h = h₁ ++ h₂ ∧ Quiet n₁ h₁ ∧ Closing rules req o n₂ h₂ :=
  get_bind fun _ _ => bind' (trackStage_steady req _) (trackStage_reports req _) fun _ n₁ h₁ quiet =>
    (listStage_reports req).mono fun _ n₂ h₂ closing => ⟨n₁, h₁, n₂, h₂, rfl, rfl, quiet, closing⟩

theorem decide_reports : Reports rules (decide req) (Accounts rules req) := by
  rw [decide_eq]
  refine bind' (opening_steady req) (opening_reports req) fun o n h opened => ?_
  obtain ⟨n₁, h₁, n₂, h₂, rfl, rfl, quiet, closing⟩ := opened
  cases o with
  | some d =>
    obtain ⟨e, rfl, rfl, closes⟩ := closing
    exact pure' (by simpa using Accounts.after quiet closes.accounts)
  | none =>
    obtain ⟨rfl, rfl⟩ := closing
    exact get_bind fun _ _ => (fromFail2bans_reports req _).mono fun _ _ _ later => by
      simpa using Accounts.after quiet later

end Stages

end Evaluating

/-- What happens to a firewall between observations: a decision, a new rule set, or its store
    changed under it (admin calls, other processes sharing it, an outage). -/
inductive Interaction where
  | decide (req : Request) (now : Nat)
  | setRules (rules : RuleSet)
  | storeChanged (store : CounterStore)

namespace Firewall

def invoke (fw : Firewall) : Interaction → Option (Decision × List FirewallEvent) × Firewall
  | .decide req now => (some ((fw.decide req now).1, (fw.decide req now).2.1), (fw.decide req now).2.2)
  | .setRules rules => (none, fw.setRules rules)
  | .storeChanged store => (none, { fw with store })

def decisions (fw : Firewall) (run : List Interaction) : List (Decision × List FirewallEvent) :=
  (runAnswers invoke fw run).filterMap id

theorem decisions_cons (fw : Firewall) (x : Interaction) (older : List Interaction) :
    fw.decisions (x :: older) = ((afterRun invoke fw older).invoke x).1.toList ++ fw.decisions older := by
  unfold decisions
  rw [runAnswers, List.filterMap_cons]
  cases ((afterRun invoke fw older).invoke x).1 <;> rfl

theorem decide_accounts (fw : Firewall) (req : Request) (now : Nat) :
    ∃ hits, (∀ c, (fw.decide req now).2.2.diagnostics.total c = fw.diagnostics.total c + hits.count c) ∧
      Accounts fw.rules req (fw.decide req now).1 (fw.decide req now).2.1 hits := by
  obtain ⟨new, hits, events, totals, acc⟩ := Evaluating.decide_reports req { fw, now } rfl
  have emitted : (fw.decide req now).2.1 = new := by
    show ((Evaluating.decide req).run { fw, now }).2.events.toList = new
    simpa using events
  exact ⟨hits, totals, emitted ▸ acc⟩

theorem total_decide_outcome (fw : Firewall) (req : Request) (now : Nat) {c : Category}
    (outcome : c ∈ Category.outcomes) :
    (fw.decide req now).2.2.diagnostics.total c =
      fw.diagnostics.total c + if (fw.decide req now).1.tally = some c then 1 else 0 := by
  obtain ⟨hits, totals, acc⟩ := fw.decide_accounts req now
  rw [totals, acc.count_outcome outcome]

theorem total_decide_report (fw : Firewall) (req : Request) (now : Nat) {c : Category}
    (report : c = .trackHit ∨ c = .fail2banBanned) :
    (fw.decide req now).2.2.diagnostics.total c =
      fw.diagnostics.total c + ((fw.decide req now).2.1.map FirewallEvent.category).count c := by
  obtain ⟨hits, totals, acc⟩ := fw.decide_accounts req now
  rw [totals, acc.count_report report]

theorem outcomes_decide (fw : Firewall) (req : Request) (now : Nat) :
    (Category.outcomes.map (fw.decide req now).2.2.diagnostics.total).sum =
      (Category.outcomes.map fw.diagnostics.total).sum + 1 := by
  obtain ⟨hits, totals, acc⟩ := fw.decide_accounts req now
  have each : ∀ c ∈ Category.outcomes, (fw.decide req now).2.2.diagnostics.total c =
      fw.diagnostics.total c + if (fw.decide req now).1.tally = some c then 1 else 0 :=
    fun c outcome => fw.total_decide_outcome req now outcome
  rw [List.map_congr_left each, List.sum_map_add, Decision.tallied_once acc.tally_isSome]

theorem decide_endsWithReport (fw : Firewall) (req : Request) (now : Nat) :
    EndsWithReport fw.rules req (fw.decide req now).1 (fw.decide req now).2.1 := by
  obtain ⟨hits, -, acc⟩ := fw.decide_accounts req now
  exact acc.endsWithReport

/-- A measure of the diagnostics that each decide call moves by an amount read off its decision
    and events moves, along a run, by the sum of those amounts: rule sets and stores changing in
    between leave the diagnostics as they are. -/
theorem diagnostics_afterRun (m : Diagnostics → Nat) (f : Decision × List FirewallEvent → Nat)
    (step : ∀ (fw : Firewall) req now, m (fw.decide req now).2.2.diagnostics =
      m fw.diagnostics + f ((fw.decide req now).1, (fw.decide req now).2.1))
    (fw : Firewall) (run : List Interaction) :
    m (afterRun invoke fw run).diagnostics = m fw.diagnostics + ((fw.decisions run).map f).sum := by
  induction run with
  | nil => simp [afterRun, decisions, runAnswers]
  | cons x older ih =>
    rw [decisions_cons, List.map_append, List.sum_append, ← Nat.add_assoc, Nat.add_right_comm, ← ih]
    cases x with
    | decide req now => simp [afterRun, invoke, step]
    | setRules rules => simp [afterRun, invoke, setRules]
    | storeChanged store => simp [afterRun, invoke]

end Firewall

/-- From a firewall's construction or the last reset of its diagnostics, whatever rule sets are
    installed and whatever its store does: each outcome's total is the number of decisions with
    that outcome, so the five sum to the number of decide calls; the track and ban totals are the
    numbers of their events; and every call's last event settles exactly when a list or a
    throttle decided, reporting that rule by its configured name and, for a throttle, the key as
    extracted. -/
theorem diagnostics_count_each_decision_once (fw : Firewall) (run : List Interaction) :
    let start : Firewall := { fw with diagnostics := fw.diagnostics.reset }
    let final := (afterRun Firewall.invoke start run).diagnostics
    let calls := start.decisions run
    (∀ c ∈ Category.outcomes, final.total c = calls.countP fun call => call.1.tally = some c) ∧
      (Category.outcomes.map final.total).sum = calls.length ∧
      (∀ c ∈ [Category.trackHit, Category.fail2banBanned],
        final.total c = ((calls.flatMap Prod.snd).map FirewallEvent.category).count c) ∧
      ∀ (fw' : Firewall) (req : Request) (now : Nat),
        EndsWithReport fw'.rules req (fw'.decide req now).1 (fw'.decide req now).2.1 := by
  intro start final calls
  refine ⟨fun c outcome => ?_, ?_, fun c report => ?_, Firewall.decide_endsWithReport⟩
  all_goals simp only [final, calls]
  · have counted := Firewall.diagnostics_afterRun (·.total c)
      (fun call => if call.1.tally = some c then 1 else 0)
      (fun fw req now => fw.total_decide_outcome req now outcome) start run
    simpa [start, Diagnostics.total_reset, List.sum_map_ite, List.countP_eq_length_filter] using counted
  · have counted := Firewall.diagnostics_afterRun (fun D => (Category.outcomes.map D.total).sum)
      (fun _ => 1) Firewall.outcomes_decide start run
    simpa [start, Diagnostics.total_reset, Category.outcomes] using counted
  · have named : c = .trackHit ∨ c = .fail2banBanned := by simpa using report
    have counted := Firewall.diagnostics_afterRun (·.total c)
      (fun call => (call.2.map FirewallEvent.category).count c)
      (fun fw req now => fw.total_decide_report req now named) start run
    simpa [start, Diagnostics.total_reset, List.map_flatMap, List.count_flatMap, Function.comp_def]
      using counted

end RequestFirewall
