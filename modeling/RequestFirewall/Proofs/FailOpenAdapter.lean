import RequestFirewall.Proofs.TimedMap
/- The fail-open store over any backend. A fallible backend answers each call or fails; the
   fail-open store reads a failed count or ttl as 0 and a failed lookup as absent, and drops a
   failed write. Put a backend that answers deterministically over its own state behind a link
   that goes down and up: while the link is up each call answers as the backend does and moves
   it, and while it is down each call fails and changes nothing. So over every run the backend
   ends where the calls made while up take it, each of those answers what the backend answers
   then, and each call made while down gets the outage answer. The firewall's own fail-open
   store is this adapter over the memory store (`CounterStore.failOpen_runs_as_adapter`). -/
namespace RequestFirewall

/-- A counter store whose calls can fail, such as a remote cache: each call, at a clock reading,
    answers or fails with an error, and moves the backend's own state. -/
structure TryCounterStore (σ ε : Type) where
  tryIncrement : σ → String → Nat → Nat → Except ε Nat × σ
  tryTtlRemaining : σ → String → Nat → Except ε Nat × σ
  tryGet : σ → String → Nat → Except ε (Option String) × σ
  trySet : σ → String → String → Option Nat → Nat → Except ε Unit × σ
  tryDelete : σ → String → Except ε Unit × σ

def recover {α σ ε : Type} (fallback : α) : Except ε α × σ → α × σ
  | (.ok a, s) => (a, s)
  | (.error _, s) => (fallback, s)

/-- One call on a counter store: the cache primitives and the two counter operations, each with
    the clock reading it is made at. -/
inductive CacheCall where
  | get (key : String) (now : Nat)
  | has (key : String) (now : Nat)
  | set (key value : String) (ttl : Option Nat) (now : Nat)
  | delete (key : String)
  | increment (key : String) (period now : Nat)
  | ttlRemaining (key : String) (now : Nat)

/-- What a call answers when the store cannot be reached: no value, no flag, a count and a ttl
    of 0, and nothing for a write. -/
def CacheCall.outage : CacheCall → Option Reading
  | .get _ _ => some (.text none)
  | .has _ _ => some (.flag false)
  | .set _ _ _ _ | .delete _ => none
  | .increment _ _ _ | .ttlRemaining _ _ => some (.count 0)

namespace TryCounterStore

variable {σ ε : Type}

/-- The fail-open store over a fallible backend: every call goes to the backend, a failed count
    or ttl reads as 0, a failed lookup as absent (so `has` as false), and a failed write is
    dropped. -/
def failOpen (b : TryCounterStore σ ε) (s : σ) : CacheCall → Option Reading × σ
  | .get key now =>
    let (v, s') := recover none (b.tryGet s key now)
    (some (.text v), s')
  | .has key now =>
    let (v, s') := recover none (b.tryGet s key now)
    (some (.flag v.isSome), s')
  | .set key value ttl now => (none, (recover () (b.trySet s key value ttl now)).2)
  | .delete key => (none, (recover () (b.tryDelete s key)).2)
  | .increment key period now =>
    let (n, s') := recover 0 (b.tryIncrement s key period now)
    (some (.count n), s')
  | .ttlRemaining key now =>
    let (n, s') := recover 0 (b.tryTtlRemaining s key now)
    (some (.count n), s')

end TryCounterStore

/-- A counter backend that always answers, deterministically over its own state: how it counts,
    reads a ttl, looks up, writes and deletes at a clock reading. -/
structure CounterBackend (σ : Type) where
  increment : σ → String → Nat → Nat → Nat × σ
  ttlRemaining : σ → String → Nat → Nat × σ
  get : σ → String → Nat → Option String × σ
  set : σ → String → String → Option Nat → Nat → σ
  delete : σ → String → σ

structure Link (σ : Type) where
  state : σ
  down : Bool

/-- What happens to a store reached over a link: a call, or the link going down or up. -/
inductive LinkEvent where
  | call (c : CacheCall)
  | down
  | up

namespace CounterBackend

variable {σ : Type}

def serve (b : CounterBackend σ) (s : σ) : CacheCall → Option Reading × σ
  | .get key now => (some (.text (b.get s key now).1), (b.get s key now).2)
  | .has key now => (some (.flag (b.get s key now).1.isSome), (b.get s key now).2)
  | .set key value ttl now => (none, b.set s key value ttl now)
  | .delete key => (none, b.delete s key)
  | .increment key period now => (some (.count (b.increment s key period now).1), (b.increment s key period now).2)
  | .ttlRemaining key now => (some (.count (b.ttlRemaining s key now).1), (b.ttlRemaining s key now).2)

/-- The backend behind a link: while the link is up every call answers as the backend does;
    while it is down every call fails and leaves the backend as it was. -/
def linked (b : CounterBackend σ) : TryCounterStore (Link σ) Unit where
  tryIncrement l key period now :=
    if l.down then (.error (), l)
    else (.ok (b.increment l.state key period now).1, { l with state := (b.increment l.state key period now).2 })
  tryTtlRemaining l key now :=
    if l.down then (.error (), l)
    else (.ok (b.ttlRemaining l.state key now).1, { l with state := (b.ttlRemaining l.state key now).2 })
  tryGet l key now :=
    if l.down then (.error (), l)
    else (.ok (b.get l.state key now).1, { l with state := (b.get l.state key now).2 })
  trySet l key value ttl now :=
    if l.down then (.error (), l) else (.ok (), { l with state := b.set l.state key value ttl now })
  tryDelete l key :=
    if l.down then (.error (), l) else (.ok (), { l with state := b.delete l.state key })

/-- The fail-open store over the backend behind its link, and the link going down and up. -/
def linkStep (b : CounterBackend σ) (l : Link σ) : LinkEvent → Option Reading × Link σ
  | .call c => b.linked.failOpen l c
  | .down => (none, { l with down := true })
  | .up => (none, { l with down := false })

theorem linkStep_call_of_up {l : Link σ} (up : l.down = false) (b : CounterBackend σ) (c : CacheCall) :
    b.linkStep l (.call c) = ((b.serve l.state c).1, { l with state := (b.serve l.state c).2 }) := by
  cases c <;> simp [linkStep, TryCounterStore.failOpen, linked, serve, recover, up]

theorem linkStep_call_of_down {l : Link σ} (down : l.down = true) (b : CounterBackend σ) (c : CacheCall) :
    b.linkStep l (.call c) = (c.outage, l) := by
  cases c <;> simp [linkStep, TryCounterStore.failOpen, linked, CacheCall.outage, recover, down]

end CounterBackend

def linkDown (down : Bool) : List LinkEvent → Bool
  | [] => down
  | .down :: _ => true
  | .up :: _ => false
  | .call _ :: older => linkDown down older

def upCalls (down : Bool) : List LinkEvent → List CacheCall
  | [] => []
  | .call c :: older => if linkDown down older then upCalls down older else c :: upCalls down older
  | _ :: older => upCalls down older

namespace CounterBackend

variable {σ : Type} (b : CounterBackend σ)

/-- After every run, the backend behind the fail-open store is in the state the calls made while
    the link was up take it to, and the link is as the run left it. -/
theorem afterRun_linkStep (start : Link σ) :
    ∀ events : List LinkEvent, afterRun b.linkStep start events =
      ⟨afterRun b.serve start.state (upCalls start.down events), linkDown start.down events⟩
  | [] => rfl
  | event :: older => by
    have before := afterRun_linkStep start older
    cases event with
    | call c =>
      cases down : linkDown start.down older with
      | true =>
        simp only [afterRun, before, upCalls, linkDown, down, if_true]
        rw [linkStep_call_of_down rfl]
      | false =>
        simp only [afterRun, before, upCalls, linkDown, down]
        rw [linkStep_call_of_up rfl]
        rfl
    | down => simp only [afterRun, before, upCalls, linkDown, linkStep]
    | up => simp only [afterRun, before, upCalls, linkDown, linkStep]

end CounterBackend

/-- The fail-open store simulates its backend while the link is up and is inert while it is
    down. For every backend answering deterministically over its own state, from every state of
    backend and link, and over every run of lookups, presence checks, writes, deletions, counts and
    ttl readings interleaved with the link going down and up: the backend ends in the state the
    calls made while the link was up, in order, take it to; each call made while up answers
    exactly what the backend answers in the state those earlier calls left it in; and each call
    made while down answers 0 for a count or a ttl, nothing for a lookup, false for a presence
    check, and nothing for a write. -/
theorem fail_open_store_simulates_backend {σ : Type} (b : CounterBackend σ) (start : Link σ) :
    (∀ events : List LinkEvent, (afterRun b.linkStep start events).state =
      afterRun b.serve start.state (upCalls start.down events)) ∧
    ∀ (older : List LinkEvent) (c : CacheCall),
      (linkDown start.down older = false →
        (b.linkStep (afterRun b.linkStep start older) (.call c)).1 =
          (b.serve (afterRun b.serve start.state (upCalls start.down older)) c).1) ∧
      (linkDown start.down older = true →
        (b.linkStep (afterRun b.linkStep start older) (.call c)).1 = c.outage) := by
  refine ⟨fun events => by rw [b.afterRun_linkStep start events], fun older c => ⟨fun up => ?_, fun down => ?_⟩⟩
  · rw [b.afterRun_linkStep start older, b.linkStep_call_of_up up]
  · rw [b.afterRun_linkStep start older, b.linkStep_call_of_down down]

/-- The memory store as a backend that always answers. A count past the largest word, where the
    program stops, answers 0 and leaves the store as it was, as the stopped counter store does. -/
def memoryBackend : CounterBackend MemoryStore where
  increment m key period now := (m.increment key period now).getD (0, m)
  ttlRemaining m key now := (m.ttlRemaining key now, m)
  get m key now := m.get key now
  set m key value ttl now := m.set key value ttl now
  delete m key := m.delete key

namespace CounterStore

def answer (s : CounterStore) : CacheCall → Option Reading × CounterStore
  | .get key now => (some (.text (s.get key now).1), (s.get key now).2)
  | .has key now => (some (.flag (s.has key now).1), (s.has key now).2)
  | .set key value ttl now => (none, s.set key value ttl now)
  | .delete key => (none, s.delete key)
  | .increment key period now =>
    (some (.count (s.increment key period now).1), (s.increment key period now).2)
  | .ttlRemaining key now =>
    (some (.count (s.ttlRemaining key now).1), (s.ttlRemaining key now).2)

def onLink (s : CounterStore) : LinkEvent → Option Reading × CounterStore
  | .call c => s.answer c
  | .down => (none, { s with down := true })
  | .up => (none, { s with down := false })

def link (s : CounterStore) : Link MemoryStore := ⟨s.slots, s.down⟩

theorem onLink_of_failOpen {s : CounterStore} (failOpen : s.kind = .failOpen) (e : LinkEvent) :
    (s.onLink e).1 = (memoryBackend.linkStep s.link e).1 ∧ (s.onLink e).2.kind = .failOpen ∧
      (s.onLink e).2.link = (memoryBackend.linkStep s.link e).2 := by
  cases e with
  | call c =>
    cases down : s.down with
    | true =>
      have failing : s.failing = true := by simp [failing, failOpen, down]
      rw [memoryBackend.linkStep_call_of_down down]
      cases c <;> simp [onLink, answer, get, has, set, delete, increment, ttlRemaining, failing,
        failOpen, CacheCall.outage]
    | false =>
      have failing : s.failing = false := by simp [failing, down]
      rw [memoryBackend.linkStep_call_of_up down]
      cases c with
      | increment key period now =>
        simp only [onLink, answer, increment, failOpen, failing, Bool.false_eq_true, if_false,
          CounterBackend.serve, memoryBackend, link]
        cases s.slots.increment key period now with
        | none => exact ⟨rfl, failOpen, rfl⟩
        | some counted => exact ⟨rfl, rfl, rfl⟩
      | _ => simp [onLink, answer, get, has, set, delete, ttlRemaining, failing, failOpen,
          CounterBackend.serve, memoryBackend, link]
  | down => exact ⟨rfl, failOpen, rfl⟩
  | up => exact ⟨rfl, failOpen, rfl⟩

/-- The firewall's fail-open store is the fail-open adapter over the memory store behind a link:
    over every run of calls and link changes it answers as the adapter does, and stays the memory
    store seen over its link. -/
theorem failOpen_runs_as_adapter {s : CounterStore} (failOpen : s.kind = .failOpen) :
    ∀ events : List LinkEvent,
      runAnswers onLink s events = runAnswers memoryBackend.linkStep s.link events ∧
        (afterRun onLink s events).kind = .failOpen ∧
        (afterRun onLink s events).link = afterRun memoryBackend.linkStep s.link events
  | [] => ⟨rfl, failOpen, rfl⟩
  | e :: older => by
    obtain ⟨answers, kept, linked⟩ := failOpen_runs_as_adapter failOpen older
    obtain ⟨answer, kept', linked'⟩ := onLink_of_failOpen kept e
    refine ⟨?_, kept', ?_⟩
    · simp only [runAnswers]
      rw [answers, answer, linked]
    · simp only [afterRun]
      rw [linked', linked]

end CounterStore

example :
    runAnswers CounterStore.onLink (.ofKind .failOpen)
        [.call (.has "ban" 0), .up, .call (.delete "ban"), .call (.has "ban" 0),
          .call (.ttlRemaining "k" 0), .call (.increment "k" 60 0), .down,
          .call (.increment "k" 60 0), .call (.set "ban" "1" (some 60) 0)] =
      [some (.flag true), none, none, some (.flag false), some (.count 0), some (.count 0), none,
        some (.count 1), none] := by
  decide +kernel

end RequestFirewall
