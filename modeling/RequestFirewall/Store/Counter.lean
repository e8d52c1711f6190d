import RequestFirewall.Store.Memory
import RequestFirewall.Json.Fields
/- Counter stores: the memory store used three ways.

   * Native: the memory store's own counters.
   * Records: a counter is a JSON text `{"value":V,"window_end":E}` (E in epoch seconds) kept
     with plain get and set. An increment reads the record, keeps its value while its window
     has not ended (lowering the window end to the current window's), adds one and writes it
     back with a ttl reaching the window end, at least one second. A record that does not read
     as exactly those two unsigned fields counts as value 0 and window end 0.
   * Fail-open: native counters behind a link that may be down. While it is down, counts and
     ttls read as 0, lookups as absent, and writes are dropped; nothing is refused. -/
namespace RequestFirewall

inductive StoreKind where
  | native
  | records
  | failOpen
  deriving DecidableEq, Repr

structure CounterRecord where
  value : Nat
  windowEnd : Nat
  deriving DecidableEq, Repr

namespace CounterRecord

def encode (r : CounterRecord) : String :=
  "\x7b\"value\":" ++ Word.toDecimal r.value ++ ",\"window_end\":" ++ Word.toDecimal r.windowEnd ++ "\x7d"

def word? : Json → Option Nat
  | .num (.nat n) => some n
  | _ => none

/-- The record a JSON value holds: an object with `value` and `window_end` once each (other
    fields ignored), or an array of exactly those two. -/
def ofJson? : Json → Option CounterRecord
  | .obj fields =>
    let values := fields.filter (·.1 == "value")
    let ends := fields.filter (·.1 == "window_end")
    match values, ends with
    | [(_, v)], [(_, e)] => do
      let value ← word? v
      let windowEnd ← word? e
      pure ⟨value, windowEnd⟩
    | _, _ => none
  | .arr [v, e] => do
    let value ← word? v
    let windowEnd ← word? e
    pure ⟨value, windowEnd⟩
  | _ => none

/-- Reads a stored record; fields other than `value` and `window_end` are only checked for
    their grammar, and anything unreadable is the zero record. -/
def decode (raw : String) : CounterRecord :=
  ((Json.parseFields? ["value", "window_end"] raw).bind ofJson?).getD ⟨0, 0⟩

end CounterRecord

/-- A counter store: how it counts, its slots, whether its link is down, and whether a count
    has overflowed its word, where the program stopped with a panic. -/
structure CounterStore where
  kind : StoreKind := .native
  slots : MemoryStore := {}
  down : Bool := false
  overflowed : Bool := false

namespace CounterStore

def ofKind (kind : StoreKind) : CounterStore := { kind }

def failing (s : CounterStore) : Bool := s.kind == .failOpen && s.down

def get (s : CounterStore) (key : String) (now : Nat) : Option String × CounterStore :=
  if s.failing then (none, s)
  else
    let (v, m) := s.slots.get key now
    (v, { s with slots := m })

def has (s : CounterStore) (key : String) (now : Nat) : Bool × CounterStore :=
  let (v, s') := s.get key now
  (v.isSome, s')

def set (s : CounterStore) (key value : String) (ttl : Option Nat) (now : Nat) : CounterStore :=
  if s.failing then s else { s with slots := s.slots.set key value ttl now }

def delete (s : CounterStore) (key : String) : CounterStore :=
  if s.failing then s else { s with slots := s.slots.delete key }

def load (s : CounterStore) (key : String) (now : Nat) : Option CounterRecord × CounterStore :=
  let (v, s') := s.get key now
  (v.map CounterRecord.decode, s')

/-- The store stopped by a count past the word range; what it answers from there on is never
    seen. -/
def overflow (s : CounterStore) : Nat × CounterStore := (0, { s with overflowed := true })

/-- Adds one to the counter of `key` in the window of `period` seconds holding `now`, and
    answers the new count, or stops the store where the add overflows the word. -/
def increment (s : CounterStore) (key : String) (period now : Nat) : Nat × CounterStore :=
  match s.kind with
  | .records =>
    let currentEnd := windowEnd (now / 1000) period
    let (loaded, s) := s.load key now
    let base : CounterRecord := match loaded with
      | some r => if now < secsToMillis r.windowEnd then ⟨r.value, Nat.min r.windowEnd currentEnd⟩
        else ⟨0, currentEnd⟩
      | none => ⟨0, currentEnd⟩
    match Word.succ? base.value with
    | some value =>
      let ttl := Nat.max 1 (ceilSecsUntil (secsToMillis base.windowEnd) now)
      (value, s.set key { base with value }.encode (some ttl) now)
    | none => s.overflow
  | _ =>
    if s.failing then (0, s)
    else match s.slots.increment key period now with
      | some (n, m) => (n, { s with slots := m })
      | none => s.overflow

def ttlRemaining (s : CounterStore) (key : String) (now : Nat) : Nat × CounterStore :=
  match s.kind with
  | .records =>
    let (loaded, s) := s.load key now
    match loaded with
    | some r => (ceilSecsUntil (secsToMillis r.windowEnd) now, s)
    | none => (0, s)
  | _ => if s.failing then (0, s) else (s.slots.ttlRemaining key now, s)

def size (s : CounterStore) : Nat := s.slots.size

def isEmpty (s : CounterStore) : Bool := s.slots.size == 0

def purge (s : CounterStore) (now : Nat) : Nat × CounterStore :=
  let (n, m) := s.slots.purge now
  (n, { s with slots := m })

def clear (s : CounterStore) : CounterStore := { s with slots := {} }

end CounterStore

end RequestFirewall
