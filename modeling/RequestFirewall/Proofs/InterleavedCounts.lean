import RequestFirewall.Proofs.TimedMap
/- One counter of the memory store followed along a run that mixes its counts with reads of it
   and with operations on other keys. Only the operations that read or count the counter's key
   need their clock readings in order: ttl readings do not drop anything, and operations on other
   keys leave the slot alone. A read that runs ahead of a count after it can drop a slot whose
   window that count is still in, and counting then starts over at one. Along a run without that,
   each count answers how many counts of its own window came so far, itself included, while that
   number fits the word; past it the count overflows and stops the store. -/
namespace RequestFirewall

namespace StoreOp

/-- The clock reading of an operation that reads or counts the key `k`. -/
def keyClock? (k : String) : StoreOp → Option Nat
  | .get key now | .has key now | .increment key _ now => if key = k then some now else none
  | _ => none

/-- Whether an operation leaves the counter at `k` to counts of `period`: it may read there and
    count there with that period, write or delete only other keys, and neither clears nor purges
    the store. -/
def keepsCounter (k : String) (period : Nat) : StoreOp → Bool
  | .get _ _ | .has _ _ | .ttlRemaining _ _ => true
  | .set key _ _ _ | .delete key => key != k
  | .increment key p _ => key != k || p == period
  | .clear | .purge _ => false

def touch (k : String) : StoreOp → Touch
  | .increment key _ now => if key = k then .count now else .skip
  | _ => .skip

def countsIn (k : String) (period now : Nat) : StoreOp → Bool
  | .increment key _ t => key == k && windowIndex period t == windowIndex period now
  | _ => false

end StoreOp

theorem windowTally_touch (k : String) (period now : Nat) (ops : List StoreOp) :
    windowTally period now (ops.map (StoreOp.touch k)) = ops.countP (StoreOp.countsIn k period now) := by
  induction ops with
  | nil => rfl
  | cons op older ih =>
    cases op with
    | increment key p t =>
      by_cases here : key = k
      · subst here
        by_cases same : windowIndex period t = windowIndex period now <;>
          simp [StoreOp.touch, StoreOp.countsIn, windowTally, same, ih, Nat.add_comm]
      · simp [StoreOp.touch, StoreOp.countsIn, windowTally, here, ih]
    | _ => simp [StoreOp.touch, StoreOp.countsIn, windowTally, ih]

/-- The counter at `k` after a run, as of `clock`, the run's latest reading of `k`: the counts
    there are in order and no later than `clock`, and the store shows what a slot agreeing with
    them shows. -/
structure Follows (k : String) (period clock : Nat) (touches : List Touch) (s : CounterStore) : Prop where
  native : s.kind = .native
  ordered : Chronological touches
  before : ∀ t, .count t ∈ touches → t ≤ clock
  agrees : ∃ x, SlotAgrees period touches x ∧ visibleAt (s.slot k) clock = visibleAt x clock

namespace Follows

variable {k : String} {period clock : Nat} {touches : List Touch} {s : CounterStore}

theorem start (native : s.kind = .native) (absent : s.slot k = none) : Follows k period 0 [] s :=
  ⟨native, trivial, by simp, none, rfl, by rw [absent]⟩

theorem later (follows : Follows k period clock touches s) {now : Nat} (le : clock ≤ now) :
    Follows k period now touches s := by
  obtain ⟨native, ordered, before, x, agrees, sees⟩ := follows
  exact ⟨native, ordered, fun t mem => (before t mem).trans le, x, agrees, visibleAt_later le sees⟩

theorem skip (follows : Follows k period clock touches s) : Follows k period clock (.skip :: touches) s := by
  obtain ⟨native, ordered, before, x, agrees, sees⟩ := follows
  refine ⟨native, ordered, fun t mem => before t ?_, x, slotAgrees_skip.mpr agrees, sees⟩
  simpa using mem

theorem keep (follows : Follows k period clock touches s) {s' : CounterStore} (native : s'.kind = .native)
    (same : s'.slot k = s.slot k) : Follows k period clock touches s' := by
  obtain ⟨_, ordered, before, x, agrees, sees⟩ := follows
  exact ⟨native, ordered, before, x, agrees, same ▸ sees⟩

theorem read (follows : Follows k period clock touches s) {s' : CounterStore} (native : s'.kind = .native)
    (dropped : s'.slot k = visibleAt (s.slot k) clock) : Follows k period clock touches s' := by
  obtain ⟨_, ordered, before, x, agrees, sees⟩ := follows
  refine ⟨native, ordered, before, x, agrees, ?_⟩
  rw [dropped, visibleAt_visibleAt, sees]

theorem increment (follows : Follows k period clock touches s) {now : Nat} (le : clock ≤ now)
    (below : now < Word.max) :
    (countSlot (s.slot k) period now).1 = min (windowTally period now (.count now :: touches)) (Word.max + 1) ∧
      Follows k period now (.count now :: touches) (s.increment k period now).2 := by
  obtain ⟨native, ordered, before, x, agrees, sees⟩ := follows.later le
  have found : countSlot (s.slot k) period now = countSlot x period now := by
    rw [← countSlot_visibleAt, sees, countSlot_visibleAt]
  have step := countSlot_agrees agrees ordered before below
  refine ⟨by rw [found, step.1], (s.increment_kind k now period).trans native,
    ⟨before, ordered⟩, fun t mem => ?_, _, step.2, ?_⟩
  · rcases List.mem_cons.mp mem with here | older
    · cases here
      exact Nat.le_refl now
    · exact before t older
  · rw [CounterStore.increment_slot_self native, countedSlot, countedSlot, found]
    split
    · rfl
    · exact sees

theorem get (follows : Follows k period clock touches s) (key : String) {now : Nat}
    (later : key = k → clock ≤ now) :
    Follows k period (if key = k then now else clock) touches (s.get key now).2 := by
  have direct : s.kind ≠ .failOpen := by simp [follows.native]
  have native : (s.get key now).2.kind = .native := (s.get_kind key now).trans follows.native
  by_cases here : key = k
  · subst here
    rw [if_pos rfl]
    exact (follows.later (later rfl)).read native (CounterStore.get_slot_self key now direct)
  · rw [if_neg here]
    exact follows.keep native (CounterStore.get_slot_ne (Ne.symm here))

theorem serve (follows : Follows k period clock touches s) {op : StoreOp}
    (keeps : op.keepsCounter k period = true)
    (later : ∀ t, op.keyClock? k = some t → clock ≤ t ∧ t < Word.max) :
    Follows k period ((op.keyClock? k).getD clock) (op.touch k :: touches) (s.serve op).2 := by
  have native := follows.native
  cases op with
  | get key now | has key now =>
    have step := (follows.get key fun here => (later now (by simp [StoreOp.keyClock?, here])).1).skip
    by_cases here : key = k
    · subst here
      simp only [StoreOp.keyClock?, StoreOp.touch, if_true, Option.getD_some] at step ⊢
      exact step
    · simp only [StoreOp.keyClock?, StoreOp.touch, here, if_false, Option.getD_none] at step ⊢
      exact step
  | set key value ttl now =>
    have other : k ≠ key := Ne.symm (by simpa [StoreOp.keepsCounter] using keeps)
    exact (follows.keep ((s.set_kind key now value ttl).trans native)
      (CounterStore.set_slot_ne value ttl other)).skip
  | delete key =>
    have other : k ≠ key := Ne.symm (by simpa [StoreOp.keepsCounter] using keeps)
    exact (follows.keep ((s.delete_kind key).trans native) (CounterStore.delete_slot_ne other)).skip
  | clear | purge now => simp [StoreOp.keepsCounter] at keeps
  | increment key p now =>
    by_cases here : key = k
    · subst here
      have counts : p = period := by simpa [StoreOp.keepsCounter] using keeps
      subst counts
      have reading := later now (by simp [StoreOp.keyClock?])
      simpa [StoreOp.keyClock?, StoreOp.touch, CounterStore.serve] using
        (follows.increment reading.1 reading.2).2
    · have step := follows.keep ((s.increment_kind key now p).trans native)
        (CounterStore.increment_slot_ne p (Ne.symm here))
      simpa [StoreOp.keyClock?, StoreOp.touch, here, CounterStore.serve] using step.skip
  | ttlRemaining key now =>
    have kept : (s.ttlRemaining key now).2 = s := by rw [CounterStore.ttlRemaining_of_memory key now native]
    simpa [StoreOp.keyClock?, StoreOp.touch, CounterStore.serve, kept] using follows.skip

end Follows

variable {k : String} {period : Nat}

theorem Follows.run {s : CounterStore} (native : s.kind = .native) (absent : s.slot k = none) :
    ∀ {ops : List StoreOp}, (∀ op ∈ ops, op.keepsCounter k period = true) →
      ClockForward (StoreOp.keyClock? k) ops →
      (∀ op ∈ ops, ∀ t, op.keyClock? k = some t → t < Word.max) →
      Follows k period (latestReading (StoreOp.keyClock? k) ops) (ops.map (StoreOp.touch k))
        (afterRun CounterStore.serve s ops)
  | [], _, _, _ => start native absent
  | op :: _, keeps, forward, below =>
    (run native absent (fun o mem => keeps o (List.mem_cons_of_mem _ mem)) forward.of_cons
      fun o mem => below o (List.mem_cons_of_mem _ mem)).serve (keeps op List.mem_cons_self)
      fun t clock => ⟨latestReading_le_of_forward forward clock, below op List.mem_cons_self t clock⟩

/-- A count at `k` after a run answers the tally of its window while it fits the word; past it
    the count overflows and stops the store. -/
theorem serve_increment_afterRun {s : CounterStore} (native : s.kind = .native) (absent : s.slot k = none)
    {now : Nat} {older : List StoreOp} (keeps : ∀ op ∈ older, op.keepsCounter k period = true)
    (forward : ClockForward (StoreOp.keyClock? k) (.increment k period now :: older))
    (below : now < Word.max) :
    ((afterRun CounterStore.serve s older).serve (.increment k period now)).1 =
        some (.count (if (StoreOp.increment k period now :: older).countP (StoreOp.countsIn k period now) ≤
            Word.max then (StoreOp.increment k period now :: older).countP (StoreOp.countsIn k period now)
          else 0)) ∧
      (Word.max < (StoreOp.increment k period now :: older).countP (StoreOp.countsIn k period now) →
        ((afterRun CounterStore.serve s older).serve (.increment k period now)).2.overflowed = true) := by
  have clock : (StoreOp.increment k period now).keyClock? k = some now := by simp [StoreOp.keyClock?]
  have earlier : ∀ op ∈ older, ∀ t, op.keyClock? k = some t → t < Word.max := fun op mem t reading =>
    Nat.lt_of_le_of_lt (List.rel_of_pairwise_cons forward mem now t clock reading) below
  have follows := Follows.run native absent keeps forward.of_cons earlier
  have counted := (follows.increment (latestReading_le_of_forward forward clock) below).1
  have tally := windowTally_touch k period now (.increment k period now :: older)
  simp only [List.map_cons, StoreOp.touch, if_true] at tally
  rw [tally] at counted
  simp only [CounterStore.serve]
  rw [CounterStore.increment_eq_countSlot follows.native, counted]
  generalize (StoreOp.increment k period now :: older).countP (StoreOp.countsIn k period now) = n
  by_cases fits : n ≤ Word.max
  · rw [Nat.min_eq_left (Nat.le_succ_of_le fits), if_pos fits, if_pos fits]
    exact ⟨rfl, fun beyond => absurd fits (Nat.not_le.mpr beyond)⟩
  · rw [Nat.min_eq_right (by omega), if_neg (by omega), if_neg fits]
    exact ⟨rfl, fun _ => rfl⟩

/-- Counting per fixed window on the memory store, one key at a time: from a state without `k`,
    along every run that mixes counts at `k` with one period, reads and ttl readings of `k`, and
    writes, deletions and counts on other keys, where the reads and counts of `k` come at
    readings that never go back and the counts stay below the largest word, each count at `k`
    answers how many counts at `k` so far fall in its window of the period, itself included, as
    long as that number fits a word. -/
theorem memory_counts_per_window (s : CounterStore) (k : String) (period now : Nat)
    (older : List StoreOp) (native : s.kind = .native) (absent : s.slot k = none)
    (keeps : ∀ op ∈ older, op.keepsCounter k period = true)
    (forward : ClockForward (StoreOp.keyClock? k) (.increment k period now :: older))
    (below : now < Word.max)
    (fits : (StoreOp.increment k period now :: older).countP (StoreOp.countsIn k period now) ≤ Word.max) :
    ((afterRun CounterStore.serve s older).serve (.increment k period now)).1 =
      some (.count ((StoreOp.increment k period now :: older).countP (StoreOp.countsIn k period now))) := by
  rw [(serve_increment_afterRun native absent keeps forward below).1, if_pos fits]

theorem memory_counts_per_window_interleaved :
    ((afterRun CounterStore.serve (.ofKind .native) [.ttlRemaining "k" 1012000, .get "k" 1005000,
        .set "j" "x" none 0, .increment "j" 60 1007000, .increment "k" 10 1002000]).serve
      (.increment "k" 10 1008000)).1 = some (.count 2) := by
  rw [memory_counts_per_window (.ofKind .native) "k" 10 1008000 _ rfl rfl (by decide)
    (by simp [ClockForward, StoreOp.keyClock?]) (by decide) (by decide)]
  decide

/-- A read of `k` at ten seconds, after a count at zero and before a count at five seconds,
    drops the slot whose window has ended by its reading, and the second count of the window
    answers one. And the count after as many counts as there are words, all at one reading,
    overflows the word and stops the store. -/
theorem counter_restarts_after_late_read :
    ((afterRun CounterStore.serve (.ofKind .native) [.get "k" 10000, .increment "k" 10 0]).serve
        (.increment "k" 10 5000)).1 = some (.count 1) ∧
      [StoreOp.increment "k" 10 5000, .get "k" 10000, .increment "k" 10 0].countP
        (StoreOp.countsIn "k" 10 5000) = 2 ∧
    ((afterRun CounterStore.serve (.ofKind .native) (List.replicate Word.max (.increment "k" 10 0))).serve
        (.increment "k" 10 0)).2.overflowed = true ∧
      (StoreOp.increment "k" 10 0 :: List.replicate Word.max (.increment "k" 10 0)).countP
        (StoreOp.countsIn "k" 10 0) = Word.max + 1 := by
  have spill : (StoreOp.increment "k" 10 0 :: List.replicate Word.max (.increment "k" 10 0)).countP
      (StoreOp.countsIn "k" 10 0) = Word.max + 1 := by
    simp [List.countP_replicate, StoreOp.countsIn]
  have keeps : ∀ op ∈ List.replicate Word.max (StoreOp.increment "k" 10 0),
      op.keepsCounter "k" 10 = true := by
    simp [List.mem_replicate, StoreOp.keepsCounter]
  have forward : ClockForward (StoreOp.keyClock? "k")
      (.increment "k" 10 0 :: List.replicate Word.max (.increment "k" 10 0)) := by
    rw [← List.replicate_succ, ClockForward, List.pairwise_replicate]
    simp [StoreOp.keyClock?]
  refine ⟨by decide, by decide, ?_, spill⟩
  exact (serve_increment_afterRun rfl rfl keeps forward (by decide)).2 (by rw [spill]; omega)

end RequestFirewall
