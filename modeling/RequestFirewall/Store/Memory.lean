import RequestFirewall.Table
import RequestFirewall.Window
/- The memory store: text values under text keys, each with an optional deadline in
   milliseconds. A slot whose deadline has been reached is expired: reading it removes it,
   while counting and listing still see it until a purge. Counters are decimal texts whose
   deadline is the end of their current window. Every operation takes the clock reading. -/
namespace RequestFirewall

structure Slot where
  value : String
  deadline : Option Nat
  deriving DecidableEq, Repr

def Slot.expired (s : Slot) (now : Nat) : Bool :=
  match s.deadline with
  | some d => decide (d ≤ now)
  | none => false

structure MemoryStore where
  slots : Table Slot := {}

namespace MemoryStore

def empty : MemoryStore := {}

def get (m : MemoryStore) (key : String) (now : Nat) : Option String × MemoryStore :=
  match m.slots.find? key with
  | some s => if s.expired now then (none, ⟨m.slots.erase key⟩) else (some s.value, m)
  | none => (none, m)

def has (m : MemoryStore) (key : String) (now : Nat) : Bool × MemoryStore :=
  let (v, m') := m.get key now
  (v.isSome, m')

/-- Stores `value` under `key`, expiring `ttl` seconds from now, or never without a ttl.
    A ttl of zero removes the key instead. -/
def set (m : MemoryStore) (key value : String) (ttl : Option Nat) (now : Nat) : MemoryStore :=
  if ttl = some 0 then ⟨m.slots.erase key⟩
  else ⟨m.slots.insert key ⟨value, ttl.map fun t => Word.satAdd now (secsToMillis t)⟩⟩

def delete (m : MemoryStore) (key : String) : MemoryStore := ⟨m.slots.erase key⟩

/-- The slot a counter continues from: a fresh zero for a missing or expired slot, otherwise
    the slot with its deadline lowered to the current window's end. -/
def counterBase (found : Option Slot) (deadline now : Nat) : Slot :=
  match found with
  | none => ⟨"0", some deadline⟩
  | some s =>
    if s.expired now then ⟨"0", some deadline⟩
    else match s.deadline with
      | none => { s with deadline := some deadline }
      | some d => if deadline < d then { s with deadline := some deadline } else s

/-- Adds one to the counter under `key` in the window of `period` seconds that holds `now`,
    and answers the new count; `none` where the add overflows the word, which stops the program. -/
def increment (m : MemoryStore) (key : String) (period now : Nat) : Option (Nat × MemoryStore) :=
  let deadline := secsToMillis (windowEnd (now / 1000) period)
  let base := counterBase (m.slots.find? key) deadline now
  (Word.succ? (parseCount base.value)).map fun count =>
    (count, ⟨m.slots.insert key { base with value := Word.toDecimal count }⟩)

/-- Whole seconds until the slot under `key` expires, rounded up; zero when it is missing,
    never expires, or has expired. Nothing is removed. -/
def ttlRemaining (m : MemoryStore) (key : String) (now : Nat) : Nat :=
  match m.slots.find? key with
  | some ⟨_, some d⟩ => if now < d then ceilSecsUntil d now else 0
  | _ => 0

def size (m : MemoryStore) : Nat := m.slots.size

def purge (m : MemoryStore) (now : Nat) : Nat × MemoryStore :=
  let kept := m.slots.filter fun s => !s.expired now
  (m.slots.size - kept.size, ⟨kept⟩)

@[simp] theorem delete_find? (m : MemoryStore) (key k : String) :
    (m.delete key).slots.find? k = if k = key then none else m.slots.find? k := by
  simp [delete]

theorem increment_find? {m m' : MemoryStore} {key : String} {period now n : Nat}
    (counted : m.increment key period now = some (n, m')) :
    m'.slots.find? key =
      some { counterBase (m.slots.find? key) (secsToMillis (windowEnd (now / 1000) period)) now
        with value := Word.toDecimal n } := by
  simp only [increment, Option.map_eq_some_iff, Prod.mk.injEq] at counted
  obtain ⟨_, -, rfl, rfl⟩ := counted
  simp

theorem increment_find?_ne {m m' : MemoryStore} {key k : String} {period now n : Nat}
    (counted : m.increment key period now = some (n, m')) (other : k ≠ key) :
    m'.slots.find? k = m.slots.find? k := by
  simp only [increment, Option.map_eq_some_iff, Prod.mk.injEq] at counted
  obtain ⟨_, -, rfl, rfl⟩ := counted
  simp [Table.find?_insert_ne _ _ other]

theorem set_find?_ne (m : MemoryStore) {key k : String} (value : String) (ttl : Option Nat)
    (now : Nat) (other : k ≠ key) : (m.set key value ttl now).slots.find? k = m.slots.find? k := by
  unfold set
  split
  · simp [other]
  · simp [Table.find?_insert_ne _ _ other]

end MemoryStore

end RequestFirewall
