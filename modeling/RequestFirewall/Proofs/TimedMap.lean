import RequestFirewall.Proofs.Replay
/- The memory store as a timed map. An entry is a value with an optional deadline in
   milliseconds, visible while it has no deadline or its deadline is still ahead. The store keeps
   expired slots until a read or a purge drops them, but nothing it answers depends on them:
   reads, ttls and counts see only visible entries, and an expired slot never comes back to
   life while the clock goes forward. So over every run whose clock never goes back, the store
   answers exactly as a map that never drops anything and only hides what has expired, and
   purging, like the drops inside reads, changes nothing that can be seen. Both count in the
   word: a count past the largest word stops the map where it stops the store. -/
namespace RequestFirewall

namespace Table

variable {α : Type}

def Distinct (t : Table α) : Prop := (t.entries.map Prod.fst).Nodup

theorem distinct_empty : (empty : Table α).Distinct := List.nodup_nil

theorem Distinct.erase {t : Table α} (distinct : t.Distinct) (k : String) : (t.erase k).Distinct :=
  distinct.sublist (List.filter_sublist.map _)

theorem Distinct.insert {t : Table α} (distinct : t.Distinct) (k : String) (v : α) :
    (t.insert k v).Distinct := by
  refine List.nodup_cons.mpr ⟨?_, distinct.erase k⟩
  simp [Table.erase]

theorem Distinct.filter {t : Table α} (distinct : t.Distinct) (p : α → Bool) :
    (t.filter p).Distinct :=
  distinct.sublist (List.filter_sublist.map _)

theorem find?_filter {t : Table α} (distinct : t.Distinct) (p : α → Bool) (k : String) :
    (t.filter p).find? k = (t.find? k).filter p := by
  obtain ⟨entries⟩ := t
  simp only [Distinct, find?, filter] at *
  induction entries with
  | nil => rfl
  | cons e rest ih =>
    obtain ⟨fresh, distinct⟩ := List.nodup_cons.mp distinct
    by_cases here : e.1 = k
    · -- the one entry of `k` decides both sides
      have absent : (rest.filter fun e => p e.2).find? (fun e => e.1 == k) = none := by
        rw [List.find?_eq_none]
        intro e' mem same
        simp only [List.mem_filter] at mem
        simp only [beq_iff_eq] at same
        exact fresh (here ▸ same ▸ List.mem_map_of_mem mem.1)
      by_cases kept : p e.2 <;> simp [Option.filter, here, kept, absent]
    · have skip := @List.find?_cons_of_neg _ (fun e => e.1 == k) e
      have other : ¬(e.1 == k) = true := by simpa using here
      by_cases kept : p e.2 = true
      · simp only [List.filter_cons, kept, if_true, skip other]
        exact ih distinct
      · simp only [List.filter_cons, kept, Bool.false_eq_true, if_false, skip other]
        exact ih distinct

end Table

/-- The entry of a slot as seen at `now`: the slot while it is live, nothing once expired. -/
def visibleAt (slot : Option Slot) (now : Nat) : Option Slot := if liveAt slot now then slot else none

def ttlOf (entry : Option Slot) (now : Nat) : Nat :=
  match entry with
  | some ⟨_, some d⟩ => ceilSecsUntil d now
  | _ => 0

theorem liveAt_of_later {slot : Option Slot} {now now' : Nat} (later : now ≤ now')
    (live : liveAt slot now' = true) : liveAt slot now = true := by
  cases slot with
  | none => simp [liveAt] at live
  | some s =>
    cases ends : s.deadline with
    | none => simp [liveAt, Slot.expired, ends]
    | some d =>
      simp only [liveAt, Slot.expired, ends, Bool.not_eq_true', decide_eq_false_iff_not,
        Nat.not_le] at live ⊢
      omega

theorem visibleAt_of_live {slot : Option Slot} {now : Nat} (live : liveAt slot now = true) :
    visibleAt slot now = slot := if_pos live

theorem visibleAt_of_dead {slot : Option Slot} {now : Nat} (dead : liveAt slot now = false) :
    visibleAt slot now = none := by
  simp [visibleAt, dead]

theorem liveAt_of_visibleAt {slot : Option Slot} {s : Slot} {now : Nat}
    (seen : visibleAt slot now = some s) : liveAt slot now = true ∧ slot = some s := by
  unfold visibleAt at seen
  split at seen
  · exact ⟨‹_›, seen⟩
  · cases seen

theorem eq_of_visibleAt {x y : Option Slot} {now : Nat} (same : visibleAt x now = visibleAt y now)
    (live : liveAt y now = true) : x = y := by
  cases y with
  | none => simp [liveAt] at live
  | some s => exact (liveAt_of_visibleAt (same.trans (visibleAt_of_live live))).2

theorem visibleAt_later {x y : Option Slot} {now now' : Nat} (later : now ≤ now')
    (same : visibleAt x now = visibleAt y now) : visibleAt x now' = visibleAt y now' := by
  cases liveX : liveAt x now' <;> cases liveY : liveAt y now'
  · rw [visibleAt_of_dead liveX, visibleAt_of_dead liveY]
  · rw [eq_of_visibleAt same (liveAt_of_later later liveY), liveY] at liveX
    cases liveX
  · rw [eq_of_visibleAt same.symm (liveAt_of_later later liveX), liveX] at liveY
    cases liveY
  · rw [eq_of_visibleAt same (liveAt_of_later later liveY)]

theorem visibleAt_visibleAt (slot : Option Slot) (now : Nat) :
    visibleAt (visibleAt slot now) now = visibleAt slot now := by
  cases live : liveAt slot now
  · rw [visibleAt_of_dead live]
    rfl
  · rw [visibleAt_of_live live, visibleAt_of_live live]

theorem visibleAt_filter_live (slot : Option Slot) (now : Nat) :
    visibleAt (slot.filter fun s => !s.expired now) now = visibleAt slot now := by
  cases slot with
  | none => rfl
  | some s =>
    cases expired : s.expired now
    · simp [Option.filter, expired]
    · simp [Option.filter, visibleAt, liveAt, expired]

theorem countSlot_visibleAt (found : Option Slot) (period now : Nat) :
    countSlot (visibleAt found now) period now = countSlot found period now := by
  cases found with
  | none => rfl
  | some s =>
    cases expired : s.expired now
    · simp [visibleAt, liveAt, expired]
    · simp [visibleAt, liveAt, expired, countSlot, MemoryStore.counterBase]

theorem MemoryStore.ttlRemaining_eq_ttlOf (m : MemoryStore) (key : String) (now : Nat) :
    m.ttlRemaining key now = ttlOf (visibleAt (m.slots.find? key) now) now := by
  unfold ttlRemaining
  cases found : m.slots.find? key with
  | none => rfl
  | some s =>
    obtain ⟨v, ends⟩ := s
    cases ends with
    | none => simp [visibleAt, liveAt, Slot.expired, ttlOf]
    | some d =>
      by_cases ahead : now < d
      · simp [visibleAt, liveAt, Slot.expired, ttlOf, ahead, Nat.not_le.mpr ahead]
      · simp [visibleAt, liveAt, Slot.expired, ttlOf, ahead, Nat.le_of_not_lt ahead]

/-- A map from keys to entries that never drops one: an entry past its deadline stays, hidden.
    It stops once a count has left the word. -/
structure TimedMap where
  entry : String → Option Slot
  overflowed : Bool := false

namespace TimedMap

def empty : TimedMap := ⟨fun _ => none, false⟩

def visible (a : TimedMap) (key : String) (now : Nat) : Option Slot := visibleAt (a.entry key) now

def write (a : TimedMap) (key : String) (e : Option Slot) : TimedMap :=
  { a with entry := Function.update a.entry key e }

def clear (a : TimedMap) : TimedMap := { a with entry := fun _ => none }

def get (a : TimedMap) (key : String) (now : Nat) : Option String := (a.visible key now).map (·.value)

def has (a : TimedMap) (key : String) (now : Nat) : Bool := (a.get key now).isSome

/-- A ttl of zero removes the key; otherwise the value expires `ttl` seconds from now
    (saturating), or never without a ttl. -/
def set (a : TimedMap) (key value : String) (ttl : Option Nat) (now : Nat) : TimedMap :=
  a.write key (if ttl = some 0 then none else some ⟨value, ttl.map fun t => Word.satAdd now (secsToMillis t)⟩)

def delete (a : TimedMap) (key : String) : TimedMap := a.write key none

/-- A visible entry counts on from its value, its deadline lowered to the end of the current
    window (a missing deadline counts as none at all); anything else starts over at one,
    expiring at that end. A count past the largest word stops the map. -/
def increment (a : TimedMap) (key : String) (period now : Nat) : Nat × TimedMap :=
  let ends := windowDeadline period now
  match a.visible key now with
  | some ⟨v, d⟩ =>
    match Word.succ? (parseCount v) with
    | some n => (n, a.write key (some ⟨Word.toDecimal n, some ((d.map (Nat.min · ends)).getD ends)⟩))
    | none => (0, { a with overflowed := true })
  | none => (1, a.write key (some ⟨Word.toDecimal 1, some ends⟩))

def ttlRemaining (a : TimedMap) (key : String) (now : Nat) : Nat := ttlOf (a.visible key now) now

@[simp] theorem write_entry (a : TimedMap) (key k : String) (e : Option Slot) :
    (a.write key e).entry k = if k = key then e else a.entry k := by
  simp [write, Function.update_apply]

@[simp] theorem write_overflowed (a : TimedMap) (key : String) (e : Option Slot) :
    (a.write key e).overflowed = a.overflowed := rfl

theorem increment_eq_countSlot (a : TimedMap) (key : String) (period now : Nat) :
    a.increment key period now =
      if (countSlot (a.visible key now) period now).1 ≤ Word.max then
        ((countSlot (a.visible key now) period now).1,
          a.write key (some (countSlot (a.visible key now) period now).2))
      else (0, { a with overflowed := true }) := by
  unfold increment
  cases seen : a.visible key now with
  | none => simp [countSlot, MemoryStore.counterBase, parseCount_zero, Word.max]
  | some s =>
    obtain ⟨v, ends⟩ := s
    have live : (Slot.expired ⟨v, ends⟩ now) = false := by
      have := (liveAt_of_visibleAt seen).1
      rw [(liveAt_of_visibleAt seen).2] at this
      simpa [liveAt] using this
    have counted : (countSlot (some ⟨v, ends⟩) period now).1 = parseCount v + 1 := by
      rw [countSlot_fst]
      simp [slotCount, live]
    rw [counted]
    dsimp only
    by_cases fits : parseCount v + 1 ≤ Word.max
    · rw [if_pos fits, Word.succ?_of_lt fits]
      cases ends with
      | none => simp [countSlot, MemoryStore.counterBase, live]
      | some d =>
        by_cases lower : windowDeadline period now < d
        · simp [countSlot, MemoryStore.counterBase, live, lower, Nat.min_eq_right (Nat.le_of_lt lower)]
        · simp [countSlot, MemoryStore.counterBase, live, lower, Nat.min_eq_left (Nat.le_of_not_lt lower)]
    · rw [if_neg fits, Word.succ?_of_le (by omega)]

end TimedMap

namespace MemoryStore

variable {m : MemoryStore} (distinct : m.slots.Distinct) (key : String) (now : Nat)
include distinct

theorem distinct_get : (m.get key now).2.slots.Distinct := by
  unfold get
  split
  · split
    · exact distinct.erase key
    · exact distinct
  · exact distinct

theorem distinct_set (value : String) (ttl : Option Nat) : (m.set key value ttl now).slots.Distinct := by
  unfold set
  split
  · exact distinct.erase key
  · exact distinct.insert _ _

end MemoryStore

/-- An operation on a store, with the clock reading it takes. -/
inductive StoreOp where
  | get (key : String) (now : Nat)
  | has (key : String) (now : Nat)
  | set (key value : String) (ttl : Option Nat) (now : Nat)
  | delete (key : String)
  | clear
  | increment (key : String) (period now : Nat)
  | ttlRemaining (key : String) (now : Nat)
  | purge (now : Nat)

def StoreOp.clock? : StoreOp → Option Nat
  | .get _ now | .has _ now | .set _ _ _ now | .increment _ _ now | .ttlRemaining _ now
  | .purge now => some now
  | .delete _ | .clear => none

inductive Reading where
  | text (value : Option String)
  | flag (present : Bool)
  | count (n : Nat)
  deriving DecidableEq

def CounterStore.serve (s : CounterStore) : StoreOp → Option Reading × CounterStore
  | .get key now => (some (.text (s.get key now).1), (s.get key now).2)
  | .has key now => (some (.flag (s.has key now).1), (s.has key now).2)
  | .set key value ttl now => (none, s.set key value ttl now)
  | .delete key => (none, s.delete key)
  | .clear => (none, s.clear)
  | .increment key period now => (some (.count (s.increment key period now).1), (s.increment key period now).2)
  | .ttlRemaining key now => (some (.count (s.ttlRemaining key now).1), (s.ttlRemaining key now).2)
  | .purge now => (none, (s.purge now).2)

def TimedMap.serve (a : TimedMap) : StoreOp → Option Reading × TimedMap
  | .get key now => (some (.text (a.get key now)), a)
  | .has key now => (some (.flag (a.has key now)), a)
  | .set key value ttl now => (none, a.set key value ttl now)
  | .delete key => (none, a.delete key)
  | .clear => (none, a.clear)
  | .increment key period now => (some (.count (a.increment key period now).1), (a.increment key period now).2)
  | .ttlRemaining key now => (some (.count (a.ttlRemaining key now)), a)
  | .purge _ => (none, a)

/-- A native store and a timed map that show the same entries at `now` and have stopped alike,
    the store's table holding each key at most once. -/
structure Shadows (now : Nat) (s : CounterStore) (a : TimedMap) : Prop where
  native : s.kind = .native
  distinct : s.slots.slots.Distinct
  sees : ∀ key, visibleAt (s.slot key) now = a.visible key now
  overflowed : s.overflowed = a.overflowed

namespace Shadows

variable {now : Nat} {s : CounterStore} {a : TimedMap}

theorem empty : Shadows 0 (.ofKind .native) .empty := ⟨rfl, Table.distinct_empty, fun _ => rfl, rfl⟩

theorem later (shadows : Shadows now s a) {now' : Nat} (le : now ≤ now') : Shadows now' s a :=
  ⟨shadows.native, shadows.distinct, fun key => visibleAt_later le (shadows.sees key), shadows.overflowed⟩

theorem write (shadows : Shadows now s a) {s' : CounterStore} {key : String} {e : Option Slot}
    (native : s'.kind = .native) (distinct : s'.slots.slots.Distinct) (here : s'.slot key = e)
    (elsewhere : ∀ k, k ≠ key → s'.slot k = s.slot k) (kept : s'.overflowed = s.overflowed) :
    Shadows now s' (a.write key e) := by
  refine ⟨native, distinct, fun k => ?_, kept.trans shadows.overflowed⟩
  by_cases same : k = key
  · subst same
    simp [TimedMap.visible, here]
  · rw [elsewhere k same, shadows.sees k]
    simp [TimedMap.visible, same]

variable (key : String)

theorem get (shadows : Shadows now s a) : (s.get key now).1 = a.get key now ∧ Shadows now (s.get key now).2 a := by
  have direct : s.kind ≠ .failOpen := by simp [shadows.native]
  refine ⟨?_, (s.get_kind key now).trans shadows.native, ?_, fun k => ?_,
    (s.get_overflowed key now).trans shadows.overflowed⟩
  · rw [CounterStore.get_fst key now direct, TimedMap.get, ← shadows.sees key]
    unfold visibleAt
    split <;> rfl
  · rw [CounterStore.get_of_memory key now direct]
    exact MemoryStore.distinct_get shadows.distinct key now
  · by_cases same : k = key
    · subst same
      rw [CounterStore.get_slot_self k now direct, ← shadows.sees k]
      exact visibleAt_visibleAt _ now
    · rw [CounterStore.get_slot_ne same]
      exact shadows.sees k

theorem has (shadows : Shadows now s a) : (s.has key now).1 = a.has key now ∧ Shadows now (s.has key now).2 a := by
  have read := shadows.get key
  exact ⟨congrArg Option.isSome read.1, read.2⟩

theorem set (shadows : Shadows now s a) (value : String) (ttl : Option Nat) :
    Shadows now (s.set key value ttl now) (a.set key value ttl now) := by
  have direct : s.kind ≠ .failOpen := by simp [shadows.native]
  refine shadows.write ((s.set_kind key now value ttl).trans shadows.native) ?_
    (CounterStore.set_slot_self key now direct value ttl) (fun k other => CounterStore.set_slot_ne _ _ other)
    (s.set_overflowed key now value ttl)
  rw [CounterStore.set_of_memory key now direct]
  exact MemoryStore.distinct_set shadows.distinct key now value ttl

theorem delete (shadows : Shadows now s a) : Shadows now (s.delete key) (a.delete key) := by
  have direct : s.kind ≠ .failOpen := by simp [shadows.native]
  refine shadows.write ((s.delete_kind key).trans shadows.native) ?_ (by simp [CounterStore.delete_slot key direct])
    (fun k other => CounterStore.delete_slot_ne other) (s.delete_overflowed key)
  rw [CounterStore.delete_of_memory key direct]
  exact shadows.distinct.erase key

theorem clear (shadows : Shadows now s a) : Shadows now s.clear a.clear :=
  ⟨shadows.native, Table.distinct_empty, fun _ => rfl, shadows.overflowed⟩

theorem increment (shadows : Shadows now s a) (period : Nat) :
    (s.increment key period now).1 = (a.increment key period now).1 ∧
      Shadows now (s.increment key period now).2 (a.increment key period now).2 := by
  have seen : countSlot (s.slot key) period now = countSlot (a.visible key now) period now := by
    rw [← shadows.sees key, countSlot_visibleAt]
  rw [CounterStore.increment_eq_countSlot shadows.native, TimedMap.increment_eq_countSlot, ← seen]
  by_cases fits : (countSlot (s.slot key) period now).1 ≤ Word.max
  · rw [if_pos fits, if_pos fits]
    refine ⟨rfl, shadows.write shadows.native (shadows.distinct.insert _ _)
      (Table.find?_insert_self _ _ _) (fun k other => Table.find?_insert_ne _ _ other) rfl⟩
  · rw [if_neg fits, if_neg fits]
    exact ⟨rfl, shadows.native, shadows.distinct, shadows.sees, rfl⟩

theorem ttlRemaining (shadows : Shadows now s a) :
    (s.ttlRemaining key now).1 = a.ttlRemaining key now ∧ Shadows now (s.ttlRemaining key now).2 a := by
  rw [CounterStore.ttlRemaining_of_memory key now shadows.native]
  refine ⟨?_, shadows⟩
  rw [MemoryStore.ttlRemaining_eq_ttlOf, TimedMap.ttlRemaining, ← shadows.sees key]
  rfl

theorem purge (shadows : Shadows now s a) : Shadows now (s.purge now).2 a := by
  refine ⟨shadows.native, shadows.distinct.filter _, fun k => ?_, shadows.overflowed⟩
  show visibleAt ((s.slots.slots.filter fun x => !x.expired now).find? k) now = _
  rw [Table.find?_filter shadows.distinct, visibleAt_filter_live]
  exact shadows.sees k

theorem serve (shadows : Shadows now s a) (op : StoreOp) (later : ∀ t, op.clock? = some t → now ≤ t) :
    (s.serve op).1 = (a.serve op).1 ∧ Shadows (op.clock?.getD now) (s.serve op).2 (a.serve op).2 := by
  cases op with
  | get key t =>
    have step := (shadows.later (later t rfl)).get key
    exact ⟨congrArg (some ∘ Reading.text) step.1, step.2⟩
  | has key t =>
    have step := (shadows.later (later t rfl)).has key
    exact ⟨congrArg (some ∘ Reading.flag) step.1, step.2⟩
  | set key value ttl t => exact ⟨rfl, (shadows.later (later t rfl)).set key value ttl⟩
  | delete key => exact ⟨rfl, shadows.delete key⟩
  | clear => exact ⟨rfl, shadows.clear⟩
  | increment key period t =>
    have step := (shadows.later (later t rfl)).increment key period
    exact ⟨congrArg (some ∘ Reading.count) step.1, step.2⟩
  | ttlRemaining key t =>
    have step := (shadows.later (later t rfl)).ttlRemaining key
    exact ⟨congrArg (some ∘ Reading.count) step.1, step.2⟩
  | purge t => exact ⟨rfl, (shadows.later (later t rfl)).purge⟩

/-- Over a run whose clock never goes back, from empty, the store and the map answer alike and
    show the same entries as of the run's newest reading. -/
theorem run : ∀ {ops : List StoreOp}, ClockForward StoreOp.clock? ops →
    runAnswers CounterStore.serve (.ofKind .native) ops = runAnswers TimedMap.serve .empty ops ∧
      Shadows (latestReading StoreOp.clock? ops) (afterRun CounterStore.serve (.ofKind .native) ops)
        (afterRun TimedMap.serve .empty ops)
  | [], _ => ⟨rfl, empty⟩
  | op :: older, forward => by
    have before := run (List.Pairwise.of_cons forward)
    have step := before.2.serve op fun _ clock => latestReading_le_of_forward forward clock
    refine ⟨?_, step.2⟩
    simp only [runAnswers]
    rw [step.1, before.1]

end Shadows

theorem CounterStore.purge_expired (s : CounterStore) (now : Nat) :
    (s.purge now).1 = s.slots.slots.entries.countP (fun e => e.2.expired now) ∧
      ∀ e ∈ (s.purge now).2.slots.slots.entries, e.2.expired now = false := by
  refine ⟨?_, fun e mem => ?_⟩
  · have split := List.length_eq_countP_add_countP (fun e : String × Slot => e.2.expired now)
      (l := s.slots.slots.entries)
    have kept : (s.slots.slots.entries.filter fun e => !e.2.expired now).length =
        s.slots.slots.entries.countP fun e => decide ¬e.2.expired now = true := by
      rw [List.countP_eq_length_filter]
      congr 2
      funext e
      cases e.2.expired now <;> rfl
    simp only [purge, MemoryStore.purge, Table.size, Table.filter, kept]
    omega
  · simp only [purge, MemoryStore.purge, Table.filter, List.mem_filter, Bool.not_eq_true'] at mem
    exact mem.2

/-- The memory store implements a timed map in which expiry only hides: over every run of
    reads, writes, deletions, clears, counts, ttl readings and purges whose clock never goes
    back, it answers every read, count and ttl reading exactly as a map that keeps expired
    entries hidden instead of dropping them, so purges and the drops inside reads cannot be
    seen, and it stops on a count past the largest word exactly where the map does; and a purge
    answers the number of expired slots it drops. -/
theorem memory_store_is_timed_map :
    (∀ ops : List StoreOp, ClockForward StoreOp.clock? ops →
      runAnswers CounterStore.serve (.ofKind .native) ops = runAnswers TimedMap.serve .empty ops ∧
        (afterRun CounterStore.serve (.ofKind .native) ops).overflowed =
          (afterRun TimedMap.serve .empty ops).overflowed) ∧
    ∀ (s : CounterStore) (now : Nat),
      (s.purge now).1 = s.slots.slots.entries.countP (fun e => e.2.expired now) ∧
        ∀ e ∈ (s.purge now).2.slots.slots.entries, e.2.expired now = false :=
  ⟨fun _ forward => ⟨(Shadows.run forward).1, (Shadows.run forward).2.overflowed⟩,
    CounterStore.purge_expired⟩

/-- Two counters of ten and sixty seconds and a value kept forever, read and purged once the
    first window is over; then the value, set to the largest word, is counted past it. -/
theorem memory_store_is_timed_map_purge :
    ClockForward StoreOp.clock? [.increment "c" 60 1010000, .purge 1010000, .ttlRemaining "a" 1010000,
      .get "a" 1010000, .set "c" "18446744073709551615" none 1000000, .increment "b" 60 1000000,
      .increment "a" 10 1000000] ∧
      (runAnswers CounterStore.serve (.ofKind .native) [.increment "c" 60 1010000, .purge 1010000,
          .ttlRemaining "a" 1010000, .get "a" 1010000, .set "c" "18446744073709551615" none 1000000,
          .increment "b" 60 1000000, .increment "a" 10 1000000] =
        runAnswers TimedMap.serve .empty [.increment "c" 60 1010000, .purge 1010000,
          .ttlRemaining "a" 1010000, .get "a" 1010000, .set "c" "18446744073709551615" none 1000000,
          .increment "b" 60 1000000, .increment "a" 10 1000000] ∧
      (afterRun CounterStore.serve (.ofKind .native) [.increment "c" 60 1010000, .purge 1010000,
          .ttlRemaining "a" 1010000, .get "a" 1010000, .set "c" "18446744073709551615" none 1000000,
          .increment "b" 60 1000000, .increment "a" 10 1000000]).overflowed =
        (afterRun TimedMap.serve .empty [.increment "c" 60 1010000, .purge 1010000,
          .ttlRemaining "a" 1010000, .get "a" 1010000, .set "c" "18446744073709551615" none 1000000,
          .increment "b" 60 1000000, .increment "a" 10 1000000]).overflowed) := by
  have forward : ClockForward StoreOp.clock? [.increment "c" 60 1010000, .purge 1010000,
      .ttlRemaining "a" 1010000, .get "a" 1010000, .set "c" "18446744073709551615" none 1000000,
      .increment "b" 60 1000000, .increment "a" 10 1000000] := by
    simp [ClockForward, StoreOp.clock?]
  exact ⟨forward, memory_store_is_timed_map.1 _ forward⟩

end RequestFirewall
