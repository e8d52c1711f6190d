import RequestFirewall.Proofs.RecordCodec
import RequestFirewall.Proofs.Replay
/- Counters kept as records. A records store keeps a counter as the text of a record, its count
   and the second its window ends, in a slot whose own deadline is that end rounded up to whole
   seconds and at least a second away; the memory store keeps the count as decimal text, with the
   window's end in milliseconds as the slot's deadline. Key by key the two agree
   (`CounterMirror`): the same count, the record's end being the memory deadline, and the record's
   slot outliving its window or gone once the window is over. Every increment, ttl reading and
   deletion keeps that agreement and answers alike, and so over every run of such operations
   whose clock never goes back, with fewer increments than the largest word, a records store
   answers exactly as the memory store does. -/
namespace RequestFirewall

/-- The deadline of the slot a records store writes a record into at `now`: the record's end,
    rounded up to whole seconds from `now` and at least one second away. -/
def recordDeadline (r : CounterRecord) (now : Nat) : Nat :=
  Word.satAdd now (secsToMillis (Nat.max 1 (ceilSecsUntil (secsToMillis r.windowEnd) now)))

/-- A count at `now` on the record a records store loads: the record it writes back, whose value
    it answers. A record whose window is over counts from one in the current window; a live one
    keeps the earlier of its end and the current window's. -/
def countRecord (loaded : Option CounterRecord) (period now : Nat) : CounterRecord :=
  match loaded with
  | some r =>
    if now < secsToMillis r.windowEnd then
      ⟨r.value + 1, Nat.min r.windowEnd (windowEnd (now / 1000) period)⟩
    else ⟨1, windowEnd (now / 1000) period⟩
  | none => ⟨1, windowEnd (now / 1000) period⟩

def loadedAt (slot : Option Slot) (now : Nat) : Option CounterRecord :=
  if liveAt slot now then slot.map fun s => CounterRecord.decode s.value else none

theorem secsToMillis_min (a b : Nat) :
    secsToMillis (Nat.min a b) = Nat.min (secsToMillis a) (secsToMillis b) := by
  unfold secsToMillis Word.satMul Nat.min
  omega

theorem windowEnd_le_max (now period : Nat) : windowEnd now period ≤ Word.max :=
  Word.satAdd_le_max _ _

theorem countRecord_windowEnd_le_max (loaded : Option CounterRecord) (period now : Nat) :
    (countRecord loaded period now).windowEnd ≤ Word.max := by
  have bounded := windowEnd_le_max (now / 1000) period
  unfold countRecord
  split
  · split
    · exact Nat.le_trans (Nat.min_le_right _ _) bounded
    · exact bounded
  · exact bounded

theorem secsToMillis_le_recordDeadline (r : CounterRecord) (now : Nat) :
    secsToMillis r.windowEnd ≤ recordDeadline r now := by
  unfold recordDeadline
  have bounded : secsToMillis r.windowEnd ≤ Word.max := Word.satMul_le_max _ _
  generalize secsToMillis r.windowEnd = ends at bounded ⊢
  have ceil : ends - now ≤ ceilSecsUntil ends now * 1000 := by
    unfold ceilSecsUntil Word.divCeil
    split <;> omega
  unfold secsToMillis Word.satAdd Word.satMul Nat.min Nat.max
  omega

theorem countSlot_none (period now : Nat) :
    countSlot none period now =
      (1, ⟨Word.toDecimal 1, some (secsToMillis (windowEnd (now / 1000) period))⟩) := by
  simp [countSlot, MemoryStore.counterBase, parseCount_zero, windowDeadline]

theorem countSlot_of_expired {slot : Slot} {period now : Nat} (expired : slot.expired now = true) :
    countSlot (some slot) period now = countSlot none period now := by
  simp [countSlot, MemoryStore.counterBase, expired]

theorem countSlot_of_live {count ends period now : Nat} (fits : count ≤ Word.max)
    (live : now < secsToMillis ends) :
    countSlot (some ⟨Word.toDecimal count, some (secsToMillis ends)⟩) period now =
      (count + 1, ⟨Word.toDecimal (count + 1),
        some (secsToMillis (Nat.min ends (windowEnd (now / 1000) period)))⟩) := by
  have notExpired : Slot.expired ⟨Word.toDecimal count, some (secsToMillis ends)⟩ now = false := by
    simp only [Slot.expired, decide_eq_false_iff_not, Nat.not_le]
    exact live
  have next : parseCount (Word.toDecimal count) + 1 = count + 1 := by
    rw [parseCount_toDecimal, if_pos fits]
  simp only [countSlot, MemoryStore.counterBase, notExpired, Bool.false_eq_true, if_false,
    secsToMillis_min]
  -- the deadline kept is the earlier of the two window ends
  by_cases lower : windowDeadline period now < secsToMillis ends
  · have earlier : Nat.min (secsToMillis ends) (secsToMillis (windowEnd (now / 1000) period)) =
        windowDeadline period now := Nat.min_eq_right (Nat.le_of_lt lower)
    rw [if_pos lower, next, earlier]
  · have earlier : Nat.min (secsToMillis ends) (secsToMillis (windowEnd (now / 1000) period)) =
        secsToMillis ends := Nat.min_eq_left (Nat.not_lt.mp lower)
    rw [if_neg lower, next, earlier]

theorem countRecord_of_passed {r : CounterRecord} {period now : Nat}
    (passed : secsToMillis r.windowEnd ≤ now) :
    countRecord (some r) period now = countRecord none period now := by
  simp [countRecord, Nat.not_lt.mpr passed]

theorem countRecord_of_live {r : CounterRecord} {period now : Nat} (live : now < secsToMillis r.windowEnd) :
    countRecord (some r) period now = ⟨r.value + 1, Nat.min r.windowEnd (windowEnd (now / 1000) period)⟩ := by
  simp [countRecord, live]

theorem loadedAt_encode {count ends : Nat} (fits : count ≤ Word.max) (bounded : ends ≤ Word.max)
    (deadline now : Nat) :
    loadedAt (some ⟨CounterRecord.encode ⟨count, ends⟩, some deadline⟩) now =
      if now < deadline then some ⟨count, ends⟩ else none := by
  have decoded := @CounterRecord.decode_encode ⟨count, ends⟩ fits bounded
  by_cases live : now < deadline
  · simp [loadedAt, liveAt, Slot.expired, Nat.not_le.mpr live, live, decoded]
  · simp [loadedAt, liveAt, Slot.expired, Nat.not_lt.mp live, live]

namespace CounterStore

variable {s : CounterStore} (key : String) (now : Nat)

theorem load_fst (direct : s.kind ≠ .failOpen) : (s.load key now).1 = loadedAt (s.slot key) now := by
  simp only [load, get_fst key now direct, loadedAt]
  split
  · rw [Option.map_map]
    rfl
  · rfl

theorem increment_of_records (records : s.kind = .records) (period : Nat)
    (fits : (countRecord (loadedAt (s.slot key) now) period now).value ≤ Word.max) :
    (s.increment key period now).1 = (countRecord (loadedAt (s.slot key) now) period now).value ∧
      (s.increment key period now).2.slot key =
        some ⟨(countRecord (loadedAt (s.slot key) now) period now).encode,
          some (recordDeadline (countRecord (loadedAt (s.slot key) now) period now) now)⟩ := by
  have direct : s.kind ≠ .failOpen := by simp [records]
  have load := load_fst key now direct
  have kept : (s.load key now).2.kind ≠ .failOpen := by rw [load_kind]; exact direct
  have lasting : ∀ ttl, Nat.max 1 ttl ≠ 0 := by
    intro ttl
    unfold Nat.max
    omega
  have zero : Word.succ? 0 = some 1 := Word.succ?_of_lt (by decide)
  unfold increment
  rw [records]
  dsimp only
  generalize s.load key now = loaded at load kept ⊢
  obtain ⟨found, s'⟩ := loaded
  dsimp only at load kept ⊢
  rw [← load] at fits ⊢
  cases found with
  | none => simp [countRecord, recordDeadline, lasting, zero, set_slot_self key now kept]
  | some r =>
    by_cases live : now < secsToMillis r.windowEnd
    · have next : Word.succ? r.value = some (r.value + 1) :=
        Word.succ?_of_lt (Nat.lt_of_succ_le (by simpa [countRecord, live] using fits))
      simp [countRecord, recordDeadline, lasting, live, next, set_slot_self key now kept]
    · simp [countRecord, recordDeadline, lasting, live, zero, set_slot_self key now kept]

theorem increment_of_records_overflow (records : s.kind = .records) {period : Nat}
    (beyond : Word.max < (countRecord (loadedAt (s.slot key) now) period now).value) :
    s.increment key period now = (s.load key now).2.overflow := by
  have direct : s.kind ≠ .failOpen := by simp [records]
  have load := load_fst key now direct
  unfold increment
  rw [records]
  dsimp only
  generalize s.load key now = loaded at load ⊢
  obtain ⟨found, s'⟩ := loaded
  dsimp only at load ⊢
  rw [← load] at beyond
  cases found with
  | none =>
    simp only [countRecord] at beyond
    exact absurd beyond (by decide)
  | some r =>
    by_cases live : now < secsToMillis r.windowEnd
    · simp only [countRecord, if_pos live] at beyond
      simp only [if_pos live, Word.succ?_of_le (Nat.le_of_lt_succ beyond)]
    · simp only [countRecord, if_neg live] at beyond
      exact absurd beyond (by decide)

theorem ttlRemaining_of_records (records : s.kind = .records) :
    (s.ttlRemaining key now).1 =
        ((loadedAt (s.slot key) now).map fun r => ceilSecsUntil (secsToMillis r.windowEnd) now).getD 0 ∧
      (s.ttlRemaining key now).2 = (s.load key now).2 := by
  have direct : s.kind ≠ .failOpen := by simp [records]
  have load := load_fst key now direct
  unfold ttlRemaining
  rw [records]
  dsimp only
  generalize s.load key now = loaded at load ⊢
  obtain ⟨found, s'⟩ := loaded
  dsimp only at load ⊢
  rw [← load]
  cases found <;> exact ⟨rfl, rfl⟩

end CounterStore

/-- A counter as a records store keeps it (`rec`) and as the memory store keeps it (`mem`), as
    of the clock reading `clock` and with room for `room` more increments below the largest word:
    both empty; or the same count, the memory deadline being the record's end, in a record slot
    that outlives the window; or, once the window is over, the record slot gone. -/
inductive CounterMirror (room clock : Nat) : Option Slot → Option Slot → Prop
  | empty : CounterMirror room clock none none
  | held {count ends deadline : Nat} (fits : count + room ≤ Word.max) (bounded : ends ≤ Word.max)
      (outlives : secsToMillis ends ≤ deadline) :
      CounterMirror room clock (some ⟨Word.toDecimal count, some (secsToMillis ends)⟩)
        (some ⟨CounterRecord.encode ⟨count, ends⟩, some deadline⟩)
  | dropped {count ends : Nat} (fits : count + room ≤ Word.max) (bounded : ends ≤ Word.max)
      (ended : secsToMillis ends ≤ clock) :
      CounterMirror room clock (some ⟨Word.toDecimal count, some (secsToMillis ends)⟩) none

namespace CounterMirror

variable {room clock : Nat} {mem rec : Option Slot}

theorem mono (mirror : CounterMirror room clock mem rec) {room' clock' : Nat} (fewer : room' ≤ room)
    (later : clock ≤ clock') : CounterMirror room' clock' mem rec := by
  cases mirror with
  | empty => exact .empty
  | held fits bounded outlives => exact .held (by omega) bounded outlives
  | dropped fits bounded ended => exact .dropped (by omega) bounded (by omega)

theorem written {count ends : Nat} (fits : count + room ≤ Word.max) (bounded : ends ≤ Word.max)
    (now : Nat) :
    CounterMirror room clock (some ⟨Word.toDecimal count, some (secsToMillis ends)⟩)
      (some ⟨CounterRecord.encode ⟨count, ends⟩, some (recordDeadline ⟨count, ends⟩ now)⟩) :=
  .held fits bounded (secsToMillis_le_recordDeadline ⟨count, ends⟩ now)

theorem count (mirror : CounterMirror (room + 1) clock mem rec) {now : Nat} (later : clock ≤ now)
    (fits : room + 1 ≤ Word.max) (period : Nat) :
    (countSlot mem period now).1 = (countRecord (loadedAt rec now) period now).value ∧
      CounterMirror room now (some (countSlot mem period now).2)
        (some ⟨(countRecord (loadedAt rec now) period now).encode,
          some (recordDeadline (countRecord (loadedAt rec now) period now) now)⟩) ∧
      (countSlot mem period now).1 + room ≤ Word.max := by
  have fresh : (countSlot none period now).1 = (countRecord none period now).value ∧
      CounterMirror room now (some (countSlot none period now).2)
        (some ⟨(countRecord none period now).encode,
          some (recordDeadline (countRecord none period now) now)⟩) ∧
      (countSlot none period now).1 + room ≤ Word.max := by
    rw [countSlot_none]
    exact ⟨rfl, written (by omega) (windowEnd_le_max _ _) now, show 1 + room ≤ Word.max by omega⟩
  have missing : loadedAt none now = none := rfl
  cases mirror with
  | empty => exact missing ▸ fresh
  | @dropped count ends _ _ ended =>
    have expired : Slot.expired ⟨Word.toDecimal count, some (secsToMillis ends)⟩ now = true :=
      decide_eq_true (Nat.le_trans ended later)
    rw [countSlot_of_expired expired]
    exact missing ▸ fresh
  | @held count ends deadline fits' bounded outlives =>
    by_cases live : now < secsToMillis ends
    · have unexpired : now < deadline := by omega
      rw [loadedAt_encode (by omega) bounded, if_pos unexpired,
        @countRecord_of_live ⟨count, ends⟩ period now live, countSlot_of_live (by omega) live]
      exact ⟨rfl, written (by omega) (Nat.le_trans (Nat.min_le_left _ _) bounded) now,
        show count + 1 + room ≤ Word.max by omega⟩
    · have passed : secsToMillis ends ≤ now := Nat.not_lt.mp live
      have restart : countRecord (loadedAt (some ⟨CounterRecord.encode ⟨count, ends⟩, some deadline⟩) now)
          period now = countRecord none period now := by
        rw [loadedAt_encode (by omega) bounded]
        split
        · exact countRecord_of_passed passed
        · rfl
      have expired : Slot.expired ⟨Word.toDecimal count, some (secsToMillis ends)⟩ now = true :=
        decide_eq_true passed
      rw [restart, countSlot_of_expired expired]
      exact fresh

theorem ttlRemaining {m : MemoryStore} {key : String} (mirror : CounterMirror room clock (m.slots.find? key) rec)
    {now : Nat} (later : clock ≤ now) :
    m.ttlRemaining key now =
        ((loadedAt rec now).map fun r => ceilSecsUntil (secsToMillis r.windowEnd) now).getD 0 ∧
      CounterMirror room now (m.slots.find? key) (if liveAt rec now then rec else none) := by
  unfold MemoryStore.ttlRemaining
  generalize m.slots.find? key = mem at mirror ⊢
  cases mirror with
  | empty => exact ⟨rfl, .empty⟩
  | dropped fits bounded ended =>
    have passed : ¬now < secsToMillis _ := Nat.not_lt.mpr (Nat.le_trans ended later)
    simp only [passed, if_false]
    exact ⟨rfl, .dropped fits bounded (Nat.le_trans ended later)⟩
  | @held count ends deadline fits bounded outlives =>
    rw [loadedAt_encode (by omega) bounded]
    by_cases live : now < secsToMillis ends
    · have unexpired : now < deadline := by omega
      simp [liveAt, Slot.expired, Nat.not_le.mpr unexpired, unexpired, live]
      exact .held fits bounded outlives
    · have passed : secsToMillis ends ≤ now := Nat.not_lt.mp live
      -- the window is over, but the record's slot may outlive it by under a second
      by_cases unexpired : now < deadline
      · simp [liveAt, Slot.expired, Nat.not_le.mpr unexpired, unexpired, ceilSecsUntil_eq_zero_of_le passed]
        exact .held fits bounded outlives
      · simp [liveAt, Slot.expired, Nat.not_lt.mp unexpired, unexpired, live]
        exact .dropped fits bounded passed

end CounterMirror

/-- A native store and a records store that hold the same flags at the addresses `flags` names
    and mirrored counters at every other, as of the clock reading `clock` and with room for
    `room` more increments. -/
structure StoreMirror (flags : String → Prop) (room clock : Nat) (s₁ s₂ : CounterStore) : Prop where
  isNative : s₁.kind = .native
  isRecords : s₂.kind = .records
  roomFits : room ≤ Word.max
  flagged : ∀ a, flags a → s₁.slot a = s₂.slot a
  counters : ∀ a, ¬flags a → CounterMirror room clock (s₁.slot a) (s₂.slot a)

namespace StoreMirror

variable {flags : String → Prop} {room clock : Nat} {s₁ s₂ : CounterStore} (key : String)

theorem direct₁ (mirror : StoreMirror flags room clock s₁ s₂) : s₁.kind ≠ .failOpen := by
  simp [mirror.isNative]

theorem direct₂ (mirror : StoreMirror flags room clock s₁ s₂) : s₂.kind ≠ .failOpen := by
  simp [mirror.isRecords]

theorem empty (flags : String → Prop) (fits : room ≤ Word.max) (clock : Nat) :
    StoreMirror flags room clock (.ofKind .native) (.ofKind .records) :=
  ⟨rfl, rfl, fits, fun _ _ => rfl, fun _ _ => .empty⟩

theorem mono (mirror : StoreMirror flags room clock s₁ s₂) {room' clock' : Nat} (fewer : room' ≤ room)
    (later : clock ≤ clock') : StoreMirror flags room' clock' s₁ s₂ :=
  ⟨mirror.isNative, mirror.isRecords, Nat.le_trans fewer mirror.roomFits, mirror.flagged,
    fun a other => (mirror.counters a other).mono fewer later⟩

theorem update (mirror : StoreMirror flags room clock s₁ s₂) {s₁' s₂' : CounterStore} {room' clock' : Nat}
    (fewer : room' ≤ room) (later : clock ≤ clock') (native : s₁'.kind = s₁.kind)
    (records : s₂'.kind = s₂.kind) (others : ∀ a, a ≠ key → s₁'.slot a = s₁.slot a ∧ s₂'.slot a = s₂.slot a)
    (flagHere : flags key → s₁'.slot key = s₂'.slot key)
    (counterHere : ¬flags key → CounterMirror room' clock' (s₁'.slot key) (s₂'.slot key)) :
    StoreMirror flags room' clock' s₁' s₂' := by
  refine ⟨native.trans mirror.isNative, records.trans mirror.isRecords,
    Nat.le_trans fewer mirror.roomFits, ?_, ?_⟩
  · intro a flag
    by_cases here : a = key
    · subst here
      exact flagHere flag
    · rw [(others a here).1, (others a here).2]
      exact mirror.flagged a flag
  · intro a notFlag
    by_cases here : a = key
    · subst here
      exact counterHere notFlag
    · rw [(others a here).1, (others a here).2]
      exact (mirror.counters a notFlag).mono fewer later

theorem increment (mirror : StoreMirror flags (room + 1) clock s₁ s₂) (counter : ¬flags key)
    {now : Nat} (later : clock ≤ now) (period : Nat) :
    (s₁.increment key period now).1 = (s₂.increment key period now).1 ∧
      StoreMirror flags room now (s₁.increment key period now).2 (s₂.increment key period now).2 := by
  obtain ⟨same, step, bounded⟩ := (mirror.counters key counter).count later mirror.roomFits period
  have fits : (countSlot (s₁.slot key) period now).1 ≤ Word.max := Nat.le_of_add_right_le bounded
  have records := CounterStore.increment_of_records key now mirror.isRecords period (same ▸ fits)
  refine ⟨(CounterStore.increment_fst_of_fits mirror.isNative fits).trans (same.trans records.1.symm),
    mirror.update key (Nat.le_succ room) later
    (CounterStore.increment_kind _ _ _ _) (CounterStore.increment_kind _ _ _ _)
    (fun _ other => ⟨CounterStore.increment_slot_ne _ other, CounterStore.increment_slot_ne _ other⟩)
    (fun flag => absurd flag counter) fun _ => ?_⟩
  rw [CounterStore.increment_slot_self mirror.isNative, countedSlot_of_fits fits, records.2]
  exact step

theorem ttlRemaining (mirror : StoreMirror flags room clock s₁ s₂) (counter : ¬flags key)
    {now : Nat} (later : clock ≤ now) :
    (s₁.ttlRemaining key now).1 = (s₂.ttlRemaining key now).1 ∧
      StoreMirror flags room now (s₁.ttlRemaining key now).2 (s₂.ttlRemaining key now).2 := by
  have records := CounterStore.ttlRemaining_of_records key now mirror.isRecords
  have step := CounterMirror.ttlRemaining (mirror.counters key counter) later
  rw [CounterStore.ttlRemaining_of_memory key now mirror.isNative, records.1, records.2]
  refine ⟨step.1, mirror.update key (Nat.le_refl room) later rfl (CounterStore.load_kind _ _ _)
    (fun _ other => ⟨rfl, CounterStore.load_slot_ne other⟩) (fun flag => absurd flag counter)
    fun _ => ?_⟩
  -- the records store drops the slot of a record it finds no longer live
  rw [show (s₂.load key now).2 = (s₂.get key now).2 from rfl,
    CounterStore.get_slot_self key now mirror.direct₂]
  exact step.2

theorem delete (mirror : StoreMirror flags room clock s₁ s₂) :
    StoreMirror flags room clock (s₁.delete key) (s₂.delete key) := by
  have deleted₁ := CounterStore.delete_slot key mirror.direct₁
  have deleted₂ := CounterStore.delete_slot key mirror.direct₂
  refine mirror.update key (Nat.le_refl room) (Nat.le_refl clock) (CounterStore.delete_kind _ _)
    (CounterStore.delete_kind _ _) (fun a other => ?_) (fun _ => ?_) fun _ => ?_
  · rw [deleted₁, deleted₂, if_neg (Ne.symm other), if_neg (Ne.symm other)]
    exact ⟨rfl, rfl⟩
  · rw [deleted₁, deleted₂, if_pos rfl, if_pos rfl]
  · rw [deleted₁, deleted₂, if_pos rfl, if_pos rfl]
    exact .empty

theorem has (mirror : StoreMirror flags room clock s₁ s₂) (flag : flags key) (now : Nat) :
    (s₁.has key now).1 = (s₂.has key now).1 ∧
      StoreMirror flags room clock (s₁.has key now).2 (s₂.has key now).2 := by
  have same := mirror.flagged key flag
  refine ⟨?_, mirror.update key (Nat.le_refl room) (Nat.le_refl clock) (CounterStore.has_kind _ _ _)
    (CounterStore.has_kind _ _ _) (fun _ other => ⟨CounterStore.has_slot_ne other,
      CounterStore.has_slot_ne other⟩) (fun _ => ?_) fun notFlag => absurd flag notFlag⟩
  · rw [CounterStore.has_fst key now mirror.direct₁, CounterStore.has_fst key now mirror.direct₂, same]
  · rw [CounterStore.has_slot_self key now mirror.direct₁, CounterStore.has_slot_self key now mirror.direct₂,
      same]

theorem set (mirror : StoreMirror flags room clock s₁ s₂) (flag : flags key) (value : String)
    (ttl : Option Nat) (now : Nat) :
    StoreMirror flags room clock (s₁.set key value ttl now) (s₂.set key value ttl now) := by
  refine mirror.update key (Nat.le_refl room) (Nat.le_refl clock) (CounterStore.set_kind _ _ _ _ _)
    (CounterStore.set_kind _ _ _ _ _) (fun _ other => ⟨CounterStore.set_slot_ne _ _ other,
      CounterStore.set_slot_ne _ _ other⟩) (fun _ => ?_) fun notFlag => absurd flag notFlag
  rw [CounterStore.set_slot_self key now mirror.direct₁, CounterStore.set_slot_self key now mirror.direct₂]

end StoreMirror

inductive CounterOp where
  | increment (key : String) (period now : Nat)
  | ttlRemaining (key : String) (now : Nat)
  | delete (key : String)

def CounterOp.clock? : CounterOp → Option Nat
  | .increment _ _ now => some now
  | .ttlRemaining _ now => some now
  | .delete _ => none

namespace CounterStore

def perform (s : CounterStore) : CounterOp → Option Nat × CounterStore
  | .increment key period now =>
    let (n, s') := s.increment key period now
    (some n, s')
  | .ttlRemaining key now =>
    let (n, s') := s.ttlRemaining key now
    (some n, s')
  | .delete key => (none, s.delete key)

def replay (s : CounterStore) : List CounterOp → CounterStore
  | [] => s
  | op :: older => ((s.replay older).perform op).2

def answers (s : CounterStore) : List CounterOp → List (Option Nat)
  | [] => []
  | op :: older => ((s.replay older).perform op).1 :: s.answers older

end CounterStore

namespace StoreMirror

variable {room clock : Nat} {s₁ s₂ : CounterStore}

theorem perform (mirror : StoreMirror (fun _ => False) (room + 1) clock s₁ s₂) {op : CounterOp}
    (later : ∀ now, op.clock? = some now → clock ≤ now) :
    (s₁.perform op).1 = (s₂.perform op).1 ∧
      StoreMirror (fun _ => False) room (op.clock?.getD clock) (s₁.perform op).2 (s₂.perform op).2 := by
  cases op with
  | increment key period now =>
    have step := mirror.increment key not_false (later now rfl) period
    exact ⟨congrArg some step.1, step.2⟩
  | ttlRemaining key now =>
    have step := (mirror.mono (Nat.le_succ room) (Nat.le_refl clock)).ttlRemaining key not_false
      (later now rfl)
    exact ⟨congrArg some step.1, step.2⟩
  | delete key => exact ⟨rfl, (mirror.delete key).mono (Nat.le_succ room) (Nat.le_refl clock)⟩

/-- Over a run whose clock never goes back and with room for its operations, both stores,
    started empty, answer alike and stay in agreement as of the run's newest reading. -/
theorem replay : ∀ {ops : List CounterOp} {room : Nat}, ClockForward CounterOp.clock? ops →
    room + ops.length ≤ Word.max →
    (CounterStore.ofKind .native).answers ops = (CounterStore.ofKind .records).answers ops ∧
      StoreMirror (fun _ => False) room (latestReading CounterOp.clock? ops)
        ((CounterStore.ofKind .native).replay ops) ((CounterStore.ofKind .records).replay ops)
  | [], _, _, fits => ⟨rfl, empty _ fits 0⟩
  | op :: older, room, forward, fits => by
    have before := @replay older (room + 1) (List.Pairwise.of_cons forward)
      (by simp only [List.length_cons] at fits; omega)
    have step := before.2.perform fun now clock => latestReading_le_of_forward forward clock
    refine ⟨?_, step.2⟩
    simp only [CounterStore.answers]
    rw [step.1, before.1]

end StoreMirror

/-- Counters kept as records answer exactly as the memory store's own counters: over every run
    of increments, ttl readings and deletions whose clock never goes back and that is no longer
    than the largest word, from empty stores. -/
theorem answers_records_eq_native {ops : List CounterOp} (forward : ClockForward CounterOp.clock? ops)
    (short : ops.length ≤ Word.max) :
    (CounterStore.ofKind .native).answers ops = (CounterStore.ofKind .records).answers ops :=
  (@StoreMirror.replay ops 0 forward (by omega)).1

end RequestFirewall
