import RequestFirewall.Store.Counter
/- Counter stores slot by slot. Every operation on a key keeps the kind of store and leaves the
   slot of every other key as it was, and a store that is not fail-open counts, reads and deletes
   with its memory store. These frame facts let a whole decision be followed one key at a time. -/
namespace RequestFirewall

/-- Whether a slot holds a value that is still live at `now`. -/
def liveAt : Option Slot → Nat → Bool
  | some s, now => !s.expired now
  | none, _ => false

namespace MemoryStore

theorem get_self (m : MemoryStore) (key : String) (now : Nat) :
    (m.get key now).1.isSome = liveAt (m.slots.find? key) now ∧
      (m.get key now).2.slots.find? key =
        if liveAt (m.slots.find? key) now then m.slots.find? key else none := by
  unfold get
  cases found : m.slots.find? key with
  | none => simp [liveAt, found]
  | some s => cases expired : s.expired now <;> simp [liveAt, expired, found]

theorem get_fst (m : MemoryStore) (key : String) (now : Nat) :
    (m.get key now).1 = if liveAt (m.slots.find? key) now then (m.slots.find? key).map (·.value) else none := by
  unfold get
  cases found : m.slots.find? key with
  | none => simp [liveAt]
  | some s => cases expired : s.expired now <;> simp [liveAt, expired]

theorem get_find?_ne (m : MemoryStore) {key k : String} (now : Nat) (other : k ≠ key) :
    (m.get key now).2.slots.find? k = m.slots.find? k := by
  unfold get
  split
  · split
    · simp [other]
    · rfl
  · rfl

end MemoryStore

namespace CounterStore

def slot (s : CounterStore) (key : String) : Option Slot := s.slots.slots.find? key

variable (s : CounterStore) (key : String) (now : Nat)

@[simp] theorem get_kind : (s.get key now).2.kind = s.kind := by
  unfold get
  split <;> rfl

@[simp] theorem has_kind : (s.has key now).2.kind = s.kind := get_kind s key now

@[simp] theorem load_kind : (s.load key now).2.kind = s.kind := get_kind s key now

@[simp] theorem set_kind (value : String) (ttl : Option Nat) :
    (s.set key value ttl now).kind = s.kind := by
  unfold set
  split <;> rfl

@[simp] theorem delete_kind : (s.delete key).kind = s.kind := by
  unfold delete
  split <;> rfl

@[simp] theorem get_overflowed : (s.get key now).2.overflowed = s.overflowed := by
  unfold get
  split <;> rfl

@[simp] theorem load_overflowed : (s.load key now).2.overflowed = s.overflowed := get_overflowed s key now

@[simp] theorem set_overflowed (value : String) (ttl : Option Nat) :
    (s.set key value ttl now).overflowed = s.overflowed := by
  unfold set
  split <;> rfl

@[simp] theorem delete_overflowed : (s.delete key).overflowed = s.overflowed := by
  unfold delete
  split <;> rfl

@[simp] theorem overflow_kind : s.overflow.2.kind = s.kind := rfl

@[simp] theorem overflow_overflowed : s.overflow.2.overflowed = true := rfl

theorem overflow_slot (a : String) : s.overflow.2.slot a = s.slot a := rfl

@[simp] theorem increment_kind (period : Nat) : (s.increment key period now).2.kind = s.kind := by
  unfold increment
  split
  · dsimp only
    split
    · rw [set_kind, load_kind]
    · rw [overflow_kind, load_kind]
  · split
    · rfl
    · split <;> rfl

/-- A count either leaves the store running as it was, or overflows: it answers 0 and stops the
    store. -/
theorem increment_overflowed (period : Nat) :
    (s.increment key period now).2.overflowed = s.overflowed ∨
      (s.increment key period now).1 = 0 ∧ (s.increment key period now).2.overflowed = true := by
  unfold increment
  split
  · dsimp only
    split
    · exact .inl (by rw [set_overflowed, load_overflowed])
    · exact .inr ⟨rfl, rfl⟩
  · split
    · exact .inl rfl
    · split
      · exact .inl rfl
      · exact .inr ⟨rfl, rfl⟩

@[simp] theorem ttlRemaining_kind : (s.ttlRemaining key now).2.kind = s.kind := by
  unfold ttlRemaining
  split
  · dsimp only
    split <;> exact load_kind s key now
  · split <;> rfl

section Frame

variable {s key now} {a : String}

theorem get_slot_ne (other : a ≠ key) : (s.get key now).2.slot a = s.slot a := by
  unfold get
  split
  · rfl
  · exact MemoryStore.get_find?_ne _ _ other

theorem has_slot_ne (other : a ≠ key) : (s.has key now).2.slot a = s.slot a := get_slot_ne other

theorem load_slot_ne (other : a ≠ key) : (s.load key now).2.slot a = s.slot a := get_slot_ne other

theorem set_slot_ne (value : String) (ttl : Option Nat) (other : a ≠ key) :
    (s.set key value ttl now).slot a = s.slot a := by
  unfold set
  split
  · rfl
  · exact MemoryStore.set_find?_ne _ _ _ _ other

theorem delete_slot_ne (other : a ≠ key) : (s.delete key).slot a = s.slot a := by
  unfold delete
  split
  · rfl
  · simp [slot, other]

theorem increment_slot_ne (period : Nat) (other : a ≠ key) :
    (s.increment key period now).2.slot a = s.slot a := by
  unfold increment
  split
  · dsimp only
    split
    · rw [set_slot_ne _ _ other, load_slot_ne other]
    · rw [overflow_slot, load_slot_ne other]
  · split
    · rfl
    · split
      · next counted => exact MemoryStore.increment_find?_ne counted other
      · rfl

theorem ttlRemaining_slot_ne (other : a ≠ key) : (s.ttlRemaining key now).2.slot a = s.slot a := by
  unfold ttlRemaining
  split
  · dsimp only
    split <;> exact load_slot_ne other
  · split <;> rfl

end Frame

section Direct

variable {s} (direct : s.kind ≠ .failOpen)
include direct

theorem failing_eq_false : s.failing = false := by
  simp [failing, direct]

theorem get_of_memory :
    s.get key now = ((s.slots.get key now).1, { s with slots := (s.slots.get key now).2 }) := by
  simp [get, failing_eq_false direct]

theorem set_of_memory (value : String) (ttl : Option Nat) :
    s.set key value ttl now = { s with slots := s.slots.set key value ttl now } := by
  simp [set, failing_eq_false direct]

theorem delete_of_memory : s.delete key = { s with slots := s.slots.delete key } := by
  simp [delete, failing_eq_false direct]

theorem delete_slot (a : String) : (s.delete key).slot a = if key = a then none else s.slot a := by
  simp [delete_of_memory key direct, slot, eq_comm]

theorem get_fst :
    (s.get key now).1 = if liveAt (s.slot key) now then (s.slot key).map (·.value) else none := by
  simp only [get_of_memory key now direct, slot]
  exact MemoryStore.get_fst s.slots key now

theorem get_slot_self :
    (s.get key now).2.slot key = if liveAt (s.slot key) now then s.slot key else none := by
  simp only [slot, get_of_memory key now direct]
  exact (MemoryStore.get_self s.slots key now).2

theorem has_fst : (s.has key now).1 = liveAt (s.slot key) now := by
  simp only [has, get_of_memory key now direct]
  exact (MemoryStore.get_self s.slots key now).1

theorem has_slot_self :
    (s.has key now).2.slot key = if liveAt (s.slot key) now then s.slot key else none :=
  get_slot_self key now direct

theorem has_snd_of_live (live : liveAt (s.slot key) now = true) : (s.has key now).2 = s := by
  simp only [has, get_of_memory key now direct, MemoryStore.get]
  simp only [slot] at live
  cases found : s.slots.slots.find? key with
  | none => simp [found, liveAt] at live
  | some v =>
    simp only [found, liveAt, Bool.not_eq_true'] at live
    simp [live]

theorem set_slot_self (value : String) (ttl : Option Nat) :
    (s.set key value ttl now).slot key =
      if ttl = some 0 then none
      else some ⟨value, ttl.map fun t => Word.satAdd now (secsToMillis t)⟩ := by
  simp only [set_of_memory key now direct, slot, MemoryStore.set]
  split <;> simp

end Direct

theorem increment_of_memory {s : CounterStore} (counting : s.kind ≠ .records) (up : s.failing = false) (period : Nat) :
    s.increment key period now =
      (s.slots.increment key period now).elim s.overflow fun counted => (counted.1, { s with slots := counted.2 }) := by
  unfold increment
  split
  · contradiction
  · simp only [up, Bool.false_eq_true, if_false]
    cases s.slots.increment key period now <;> rfl

section Native

variable {s} (native : s.kind = .native)
include native

theorem ttlRemaining_of_memory : s.ttlRemaining key now = (s.slots.ttlRemaining key now, s) := by
  simp [ttlRemaining, native, failing_eq_false (show s.kind ≠ .failOpen by simp [native])]

end Native

end CounterStore

end RequestFirewall
