import RequestFirewall.Proofs.FixedWindow
import RequestFirewall.Proofs.Frame
/- Runs of calls on one firewall. A run is a list of calls, newest first: decisions, and the
   admin calls that read or clear a ban flag or a counter. Along a run, the decisions that count
   at one address and the admin calls that clear it make a history of touches. When each decision
   either counts once at that address, with one period, or leaves it alone, the counter agrees
   with its history after every run whose clock goes forward and stays below the largest word;
   each count then answers the tally of its window since the last clear. -/
namespace RequestFirewall

namespace CounterStore

theorem increment_eq_countSlot_of_up {s : CounterStore} (counting : s.kind ≠ .records)
    (up : s.failing = false) (key : String) (period now : Nat) :
    s.increment key period now =
      if (countSlot (s.slot key) period now).1 ≤ Word.max then
        ((countSlot (s.slot key) period now).1,
          { s with slots := ⟨s.slots.slots.insert key (countSlot (s.slot key) period now).2⟩ })
      else s.overflow := by
  rw [increment_of_memory key now counting up, MemoryStore.increment_eq_countSlot]
  unfold slot
  by_cases fits : (countSlot (s.slots.slots.find? key) period now).1 ≤ Word.max
  · rw [if_pos fits, if_pos fits]
    rfl
  · rw [if_neg fits, if_neg fits]
    rfl

variable {s : CounterStore} (native : s.kind = .native)
include native

theorem increment_eq_countSlot (key : String) (period now : Nat) :
    s.increment key period now =
      if (countSlot (s.slot key) period now).1 ≤ Word.max then
        ((countSlot (s.slot key) period now).1,
          { s with slots := ⟨s.slots.slots.insert key (countSlot (s.slot key) period now).2⟩ })
      else s.overflow :=
  increment_eq_countSlot_of_up (by simp [native]) (failing_eq_false (by simp [native])) key period now

theorem increment_slot_self (key : String) (period now : Nat) :
    (s.increment key period now).2.slot key = countedSlot (s.slot key) period now := by
  rw [increment_eq_countSlot native, countedSlot]
  split
  · exact Table.find?_insert_self _ _ _
  · rfl

theorem increment_of_native_overflow {key : String} {period now : Nat}
    (beyond : Word.max < (countSlot (s.slot key) period now).1) : s.increment key period now = s.overflow := by
  rw [increment_eq_countSlot native, if_neg (Nat.not_le.mpr beyond)]

theorem increment_fst_of_fits {key : String} {period now : Nat}
    (fits : (countSlot (s.slot key) period now).1 ≤ Word.max) :
    (s.increment key period now).1 = (countSlot (s.slot key) period now).1 := by
  rw [increment_eq_countSlot native, if_pos fits]

end CounterStore

/-- One call on a firewall. -/
inductive Call where
  | decide (req : Request) (now : Nat)
  | isBanned (rule key : String) (now : Nat)
  | unban (rule key : String)
  | resetFail2ban (rule key : String)
  | resetThrottle (rule key : String)

namespace Call

def clock? : Call → Option Nat
  | decide _ now => some now
  | isBanned _ _ now => some now
  | _ => none

def clears (fw : Firewall) (a : String) : Call → Bool
  | unban rule key => fw.storeKey .fail2banBan rule key == a
  | resetFail2ban rule key => fw.storeKey .fail2banFail rule key == a
  | resetThrottle rule key => fw.storeKey .throttle rule key == a
  | _ => false

end Call

namespace Firewall

def perform (fw : Firewall) : Call → Firewall
  | .decide req now => (fw.decide req now).2.2
  | .isBanned rule key now => (fw.isBanned rule key now).2
  | .unban rule key => fw.unban rule key
  | .resetFail2ban rule key => fw.resetFail2ban rule key
  | .resetThrottle rule key => fw.resetThrottle rule key

def replay (fw : Firewall) : List Call → Firewall
  | [] => fw
  | c :: older => (fw.replay older).perform c

/-- What no call changes: the rules, the options and the kind of store. -/
structure SameSetup (fw fw' : Firewall) : Prop where
  rules : fw'.rules = fw.rules
  options : fw'.options = fw.options
  kind : fw'.store.kind = fw.store.kind

theorem SameSetup.trans {fw₁ fw₂ fw₃ : Firewall} (first : fw₁.SameSetup fw₂)
    (second : fw₂.SameSetup fw₃) : fw₁.SameSetup fw₃ :=
  ⟨second.rules.trans first.rules, second.options.trans first.options, second.kind.trans first.kind⟩

theorem sameSetup_perform (fw : Firewall) (c : Call) : fw.SameSetup (fw.perform c) := by
  cases c with
  | decide req now =>
    have keeps := Evaluating.decide_steady req { fw, now }
    exact ⟨keeps.rules, keeps.options, keeps.kind⟩
  | isBanned rule key now => exact ⟨rfl, rfl, CounterStore.has_kind _ _ _⟩
  | unban rule key => exact ⟨rfl, rfl, CounterStore.delete_kind _ _⟩
  | resetFail2ban rule key => exact ⟨rfl, rfl, CounterStore.delete_kind _ _⟩
  | resetThrottle rule key => exact ⟨rfl, rfl, CounterStore.delete_kind _ _⟩

theorem sameSetup_replay (fw : Firewall) : ∀ calls, fw.SameSetup (fw.replay calls)
  | [] => ⟨rfl, rfl, rfl⟩
  | c :: older => (sameSetup_replay fw older).trans (sameSetup_perform _ c)

theorem perform_slot_of_admin {fw : Firewall} {a : String} (direct : fw.store.kind ≠ .failOpen)
    (notBan : ∀ rule, Elsewhere fw.options.keyPrefix .fail2banBan rule a) {c : Call}
    (admin : ∀ req now, c ≠ .decide req now) :
    (fw.perform c).store.slot a = if c.clears fw a then none else fw.store.slot a := by
  cases c with
  | decide req now => exact absurd rfl (admin req now)
  | isBanned rule key now => exact CounterStore.has_slot_ne (notBan rule key)
  | unban rule key | resetFail2ban rule key | resetThrottle rule key =>
    simp only [perform, unban, resetFail2ban, resetThrottle, Call.clears, beq_iff_eq]
    exact CounterStore.delete_slot _ direct a

theorem perform_slot_cases_of_admin {fw : Firewall} {a : String} (direct : fw.store.kind ≠ .failOpen)
    {c : Call} (admin : ∀ req now, c ≠ .decide req now) :
    (fw.perform c).store.slot a = (if c.clears fw a then none else fw.store.slot a) ∨
      c.clears fw a = false ∧ ∃ now, c.clock? = some now ∧ liveAt (fw.store.slot a) now = false ∧
        (fw.perform c).store.slot a = none := by
  cases c with
  | decide req now => exact absurd rfl (admin req now)
  | isBanned rule key now =>
    simp only [perform, isBanned, Call.clears, Bool.false_eq_true, if_false]
    by_cases here : a = fw.storeKey .fail2banBan rule key
    · subst here
      rw [CounterStore.has_slot_self _ _ direct]
      cases live : liveAt (fw.store.slot (fw.storeKey .fail2banBan rule key)) now with
      | true => exact Or.inl rfl
      | false => exact Or.inr ⟨trivial, now, rfl, live, rfl⟩
    · exact Or.inl (CounterStore.has_slot_ne here)
  | unban rule key | resetFail2ban rule key | resetThrottle rule key =>
    simp only [perform, unban, resetFail2ban, resetThrottle, Call.clears, beq_iff_eq]
    exact Or.inl (CounterStore.delete_slot _ direct a)

end Firewall

/-- A run, newest first, whose clock never goes back: no reading is later than one taken after
    it. -/
def ClockForward {α : Type} (clock? : α → Option Nat) (run : List α) : Prop :=
  run.Pairwise fun newer older => ∀ t t', clock? newer = some t → clock? older = some t' → t' ≤ t

def latestReading {α : Type} (clock? : α → Option Nat) : List α → Nat
  | [] => 0
  | x :: older => (clock? x).getD (latestReading clock? older)

section Readings

variable {α : Type} {clock? : α → Option Nat}

theorem latestReading_le {now : Nat} :
    ∀ {run : List α}, (∀ x ∈ run, ∀ t, clock? x = some t → t ≤ now) → latestReading clock? run ≤ now
  | [], _ => Nat.zero_le now
  | x :: older, bound => by
    unfold latestReading
    cases clock : clock? x with
    | none => exact latestReading_le fun x' mem => bound x' (List.mem_cons_of_mem _ mem)
    | some t => exact bound x List.mem_cons_self t clock

theorem latestReading_le_of_forward {x : α} {older : List α} (forward : ClockForward clock? (x :: older))
    {now : Nat} (clock : clock? x = some now) : latestReading clock? older ≤ now :=
  latestReading_le fun _ mem t clock' => List.rel_of_pairwise_cons forward mem now t clock clock'

end Readings

def afterRun {σ ω α : Type} (step : σ → ω → α × σ) (start : σ) : List ω → σ
  | [] => start
  | x :: older => (step (afterRun step start older) x).2

def runAnswers {σ ω α : Type} (step : σ → ω → α × σ) (start : σ) : List ω → List α
  | [] => []
  | x :: older => (step (afterRun step start older) x).1 :: runAnswers step start older

/-- A run whose clock never goes back and stays below the largest word, newest call first. -/
def Clocked : List Call → Prop
  | [] => True
  | c :: older => (∀ now, c.clock? = some now → now < Word.max ∧
      ∀ c' ∈ older, ∀ t, c'.clock? = some t → t ≤ now) ∧ Clocked older

def Call.touch (counts : Firewall → Request → Nat → Bool) (a : String) (fw : Firewall) : Call → Touch
  | .decide req now => if counts fw req now then .count now else .skip
  | c => if c.clears fw a then .reset else .skip

/-- The touches of a run on the counter at `a`, newest first. -/
def Firewall.touches (fw : Firewall) (counts : Firewall → Request → Nat → Bool) (a : String) :
    List Call → List Touch
  | [] => []
  | c :: older => c.touch counts a (fw.replay older) :: fw.touches counts a older

section Counter

variable {fw : Firewall} {counts : Firewall → Request → Nat → Bool} {a : String}

theorem clock_of_count_mem_touches {t : Nat} :
    ∀ {calls : List Call}, .count t ∈ fw.touches counts a calls → ∃ c ∈ calls, c.clock? = some t
  | [], mem => by simp [Firewall.touches] at mem
  | c :: older, mem => by
    rcases List.mem_cons.mp mem with here | there
    · refine ⟨c, List.mem_cons_self, ?_⟩
      cases c with
      | decide req now =>
        simp only [Call.touch] at here
        split at here
        · cases here
          rfl
        · cases here
      | _ => simp only [Call.touch] at here; split at here <;> cases here
    · obtain ⟨c', mem', clock⟩ := clock_of_count_mem_touches there
      exact ⟨c', List.mem_cons_of_mem _ mem', clock⟩

theorem le_of_count_mem_touches {calls : List Call} {req : Request} {now t : Nat}
    (clocked : Clocked (.decide req now :: calls)) (mem : .count t ∈ fw.touches counts a calls) :
    t ≤ now := by
  obtain ⟨c, mem', clock⟩ := clock_of_count_mem_touches mem
  exact (clocked.1 now rfl).2 c mem' t clock

theorem touches_chronological : ∀ {calls : List Call}, Clocked calls →
    Chronological (fw.touches counts a calls)
  | [], _ => trivial
  | c :: older, clocked => by
    have rest : Chronological (fw.touches counts a older) := touches_chronological clocked.2
    cases c with
    | decide req now =>
      simp only [Firewall.touches, Call.touch]
      split
      · exact ⟨fun _ mem => le_of_count_mem_touches clocked mem, rest⟩
      · exact rest
    | _ =>
      simp only [Firewall.touches, Call.touch]
      split <;> exact rest

variable {period : Nat}

/-- The counter at `a` agrees with its history after every run, when each decision counts there
    once with one period or leaves it alone, and admin calls only clear it. -/
theorem replay_agrees (empty : fw.store.slot a = none) (direct : fw.store.kind ≠ .failOpen)
    (notBan : ∀ rule, Elsewhere fw.options.keyPrefix .fail2banBan rule a)
    (decides : ∀ fw', fw.SameSetup fw' → ∀ req now, (fw'.decide req now).2.2.store.slot a =
      if counts fw' req now then countedSlot (fw'.store.slot a) period now
      else fw'.store.slot a) :
    ∀ {calls : List Call}, Clocked calls →
      SlotAgrees period (fw.touches counts a calls) ((fw.replay calls).store.slot a)
  | [], _ => by simpa [SlotAgrees, Firewall.touches, lastCount, Firewall.replay] using empty
  | c :: older, clocked => by
    have agrees : SlotAgrees period (fw.touches counts a older) ((fw.replay older).store.slot a) :=
      replay_agrees empty direct notBan decides clocked.2
    have setup := Firewall.sameSetup_replay fw older
    cases c with
    | decide req now =>
      simp only [Firewall.touches, Call.touch, Firewall.replay, Firewall.perform]
      rw [decides _ setup req now]
      split
      · exact (countSlot_agrees agrees (touches_chronological clocked.2)
          (fun _ mem => le_of_count_mem_touches clocked mem) (clocked.1 now rfl).1).2
      · exact slotAgrees_skip.mpr agrees
    | _ =>
      simp only [Firewall.touches, Call.touch, Firewall.replay]
      rw [Firewall.perform_slot_of_admin (setup.kind ▸ direct) (setup.options ▸ notBan)
        (by intro _ _ h; cases h)]
      split
      · exact slotAgrees_reset.mpr rfl
      · exact slotAgrees_skip.mpr agrees

/-- The count a decision answers at `a` after a run: the tally of its window since the last
    clear, itself included. -/
theorem countSlot_replay (empty : fw.store.slot a = none) (direct : fw.store.kind ≠ .failOpen)
    (notBan : ∀ rule, Elsewhere fw.options.keyPrefix .fail2banBan rule a)
    (decides : ∀ fw', fw.SameSetup fw' → ∀ req now, (fw'.decide req now).2.2.store.slot a =
      if counts fw' req now then countedSlot (fw'.store.slot a) period now
      else fw'.store.slot a)
    {calls : List Call} {req : Request} {now : Nat} (clocked : Clocked (.decide req now :: calls)) :
    (countSlot ((fw.replay calls).store.slot a) period now).1 =
      min (windowTally period now (.count now :: fw.touches counts a calls)) (Word.max + 1) :=
  (countSlot_agrees (replay_agrees empty direct notBan decides clocked.2)
    (touches_chronological clocked.2) (fun _ mem => le_of_count_mem_touches clocked mem)
    (clocked.1 now rfl).1).1

end Counter

end RequestFirewall
