import RequestFirewall.Store.Memory
import RequestFirewall.Proofs.StoredCount
/- Fixed-window counting on the memory store. One counter slot is followed through a history of
   touches (newest first): a count at a clock reading, a reset, or nothing. While the clock does
   not run backwards and stays below the largest word, the slot holds the number of counts since
   the last reset that fell in the window of the last count, with that window's end as deadline,
   and so each count answers how many counts of its own window came since the last reset, itself
   included. A count past the largest word overflows: the program stops and the slot stays at
   the largest word, so the slot holds the window's tally capped there. -/
namespace RequestFirewall

/-- The window of `period` seconds (a zero period counts as one second) that holds the
    millisecond `now`. -/
def windowIndex (period now : Nat) : Nat := now / 1000 / Nat.max period 1

def windowDeadline (period now : Nat) : Nat := secsToMillis (windowEnd (now / 1000) period)

/-- What one call does to one counter. -/
inductive Touch where
  | skip
  | count (now : Nat)
  | reset
  deriving DecidableEq, Repr

/-- The counts since the last reset, newest first, that fall in the window of `now`. -/
def windowTally (period now : Nat) : List Touch → Nat
  | [] => 0
  | .reset :: _ => 0
  | .count t :: older =>
    (if windowIndex period t = windowIndex period now then 1 else 0) + windowTally period now older
  | .skip :: older => windowTally period now older

def lastCount : List Touch → Option Nat
  | [] => none
  | .reset :: _ => none
  | .count t :: _ => some t
  | .skip :: older => lastCount older

/-- Counts newest first: none is older than a count before it in the list. -/
def Chronological : List Touch → Prop
  | [] => True
  | .count t :: older => (∀ t', .count t' ∈ older → t' ≤ t) ∧ Chronological older
  | _ :: older => Chronological older

/-- A counter slot agrees with a touch history: it is empty when no count came since the last
    reset, and otherwise holds the tally of the newest count's window, expiring at its end. -/
def SlotAgrees (period : Nat) (touches : List Touch) (slot : Option Slot) : Prop :=
  match lastCount touches with
  | none => slot = none
  | some t => slot = some ⟨Word.toDecimal (min (windowTally period t touches) Word.max),
      some (windowDeadline period t)⟩

theorem slotAgrees_skip {period : Nat} {touches : List Touch} {slot : Option Slot} :
    SlotAgrees period (.skip :: touches) slot ↔ SlotAgrees period touches slot := Iff.rfl

theorem slotAgrees_reset {period : Nat} {touches : List Touch} {slot : Option Slot} :
    SlotAgrees period (.reset :: touches) slot ↔ slot = none := Iff.rfl

namespace Word

theorem satAdd_of_max_le {a b : Nat} (atMax : max ≤ a + b) : satAdd a b = max := Nat.min_eq_right atMax

theorem satMul_of_le {a b : Nat} (fits : a * b ≤ max) : satMul a b = a * b := Nat.min_eq_left fits

theorem satMul_of_max_le {a b : Nat} (atMax : max ≤ a * b) : satMul a b = max := Nat.min_eq_right atMax

end Word

theorem parseCount_min_succ (n : Nat) :
    parseCount (Word.toDecimal (Nat.min n Word.max)) + 1 = min (n + 1) (Word.max + 1) := by
  rw [parseCount_toDecimal, if_pos (Nat.min_le_right _ _)]
  simp only [Nat.min_def]
  split <;> split <;> omega

theorem windowTally_congr {period a b : Nat} (same : windowIndex period a = windowIndex period b)
    (touches : List Touch) : windowTally period a touches = windowTally period b touches := by
  induction touches with
  | nil => rfl
  | cons touch older ih =>
    cases touch with
    | skip => exact ih
    | count t => simp only [windowTally, same, ih]
    | reset => rfl

theorem windowTally_le_length (period now : Nat) (touches : List Touch) :
    windowTally period now touches ≤ touches.length := by
  induction touches with
  | nil => exact Nat.le_refl 0
  | cons touch older ih =>
    cases touch with
    | skip => exact Nat.le_succ_of_le ih
    | count t =>
      simp only [windowTally, List.length_cons]
      split <;> omega
    | reset => exact Nat.zero_le _

theorem windowTally_of_lastCount_none {period now : Nat} {touches : List Touch}
    (empty : lastCount touches = none) : windowTally period now touches = 0 := by
  induction touches with
  | nil => rfl
  | cons touch older ih =>
    cases touch with
    | skip => exact ih empty
    | count t => simp [lastCount] at empty
    | reset => rfl

theorem windowTally_of_earlier {period now : Nat} {touches : List Touch}
    (earlier : ∀ t, .count t ∈ touches → windowIndex period t < windowIndex period now) :
    windowTally period now touches = 0 := by
  induction touches with
  | nil => rfl
  | cons touch older ih =>
    have rest := ih fun t mem => earlier t (List.mem_cons_of_mem _ mem)
    cases touch with
    | skip => exact rest
    | count t =>
      have here := earlier t List.mem_cons_self
      simp only [windowTally, Nat.ne_of_lt here, if_false, rest]
    | reset => rfl

theorem windowIndex_mono {period a b : Nat} (le : a ≤ b) : windowIndex period a ≤ windowIndex period b :=
  Nat.div_le_div_right (Nat.div_le_div_right le)

theorem windowTally_of_lastCount_earlier {period now t₀ : Nat} {touches : List Touch}
    (ordered : Chronological touches) (last : lastCount touches = some t₀)
    (later : windowIndex period t₀ < windowIndex period now) : windowTally period now touches = 0 := by
  induction touches with
  | nil => simp [lastCount] at last
  | cons touch older ih =>
    cases touch with
    | skip => exact ih ordered last
    | reset => rfl
    | count t =>
      simp only [lastCount, Option.some.injEq] at last
      subst last
      -- every older count is no later than the newest, so also in an earlier window
      have rest : windowTally period now older = 0 := windowTally_of_earlier fun t' mem =>
        Nat.lt_of_le_of_lt (windowIndex_mono (ordered.1 t' mem)) later
      simp [windowTally, Nat.ne_of_lt later, rest]

theorem windowEnd_eq_of_windowIndex {period a b : Nat} (same : windowIndex period a = windowIndex period b) :
    windowEnd (a / 1000) period = windowEnd (b / 1000) period := by
  unfold windowIndex at same
  simp only [windowEnd, same]

theorem lt_windowDeadline {period now : Nat} (below : now < Word.max) :
    now < windowDeadline period now := by
  have inWindow : now / 1000 < now / 1000 / Nat.max period 1 * Nat.max period 1 + Nat.max period 1 :=
    Nat.lt_div_mul_add (windowPeriod_pos period)
  have endAbove : now / 1000 < windowEnd (now / 1000) period ∨
      windowEnd (now / 1000) period = Word.max := by
    unfold windowEnd
    rcases Nat.le_total (now / 1000 / Nat.max period 1 * Nat.max period 1 + Nat.max period 1)
      Word.max with fits | beyond
    · exact .inl (by rw [Word.satAdd_of_le fits]; exact inWindow)
    · exact .inr (Word.satAdd_of_max_le beyond)
  unfold windowDeadline secsToMillis
  rcases Nat.le_total (windowEnd (now / 1000) period * 1000) Word.max with fits | beyond
  · rw [Word.satMul_of_le fits]
    rcases endAbove with above | atMax
    · omega
    · rw [atMax] at fits
      omega
  · rw [Word.satMul_of_max_le beyond]
    exact below

theorem windowDeadline_le {period t now : Nat} (later : windowIndex period t < windowIndex period now) :
    windowDeadline period t ≤ now := by
  unfold windowIndex at later
  generalize hp : Nat.max period 1 = p at later
  have step : t / 1000 / p * p + p ≤ now / 1000 / p * p := by
    rw [← Nat.succ_mul]
    exact Nat.mul_le_mul_right p later
  calc windowDeadline period t
      ≤ windowEnd (t / 1000) period * 1000 := Nat.min_le_left _ _
    _ ≤ (t / 1000 / p * p + p) * 1000 := by
        rw [windowEnd, hp]
        exact Nat.mul_le_mul_right 1000 (Nat.min_le_left _ _)
    _ ≤ now / 1000 / p * p * 1000 := Nat.mul_le_mul_right 1000 step
    _ ≤ now / 1000 * 1000 := Nat.mul_le_mul_right 1000 (Nat.div_mul_le_self _ p)
    _ ≤ now := Nat.div_mul_le_self now 1000

theorem lastCount_mem {touches : List Touch} {t : Nat} (last : lastCount touches = some t) :
    .count t ∈ touches := by
  induction touches with
  | nil => simp [lastCount] at last
  | cons touch older ih =>
    cases touch with
    | skip => exact List.mem_cons_of_mem _ (ih last)
    | count t' =>
      simp only [lastCount, Option.some.injEq] at last
      exact last ▸ List.mem_cons_self
    | reset => simp [lastCount] at last

theorem parseCount_zero : parseCount "0" = 0 := parseCount_toDecimal 0

/-- A count at `now` on the slot it finds: the count it answers and the slot it leaves. -/
def countSlot (found : Option Slot) (period now : Nat) : Nat × Slot :=
  let base := MemoryStore.counterBase found (windowDeadline period now) now
  (parseCount base.value + 1, { base with value := Word.toDecimal (parseCount base.value + 1) })

/-- The slot a count at `now` leaves: the counted slot where the count fits the word, and the slot
    as it was where it overflows. -/
def countedSlot (found : Option Slot) (period now : Nat) : Option Slot :=
  if (countSlot found period now).1 ≤ Word.max then some (countSlot found period now).2 else found

theorem countedSlot_of_fits {found : Option Slot} {period now : Nat}
    (fits : (countSlot found period now).1 ≤ Word.max) :
    countedSlot found period now = some (countSlot found period now).2 := if_pos fits

/-- The count a memory slot holds at `now`: the value of its text while it is live, and zero
    once it has expired or where there is none. -/
def slotCount (found : Option Slot) (now : Nat) : Nat :=
  match found with
  | some slot => if slot.expired now then 0 else parseCount slot.value
  | none => 0

theorem parseCount_le_max (raw : String) : parseCount raw ≤ Word.max := by
  unfold parseCount
  cases read : Word.ofDecimal? (Text.trimBlank raw) with
  | none => exact Nat.zero_le _
  | some v => exact Word.ofDecimal?_le read

theorem slotCount_le_max (found : Option Slot) (now : Nat) : slotCount found now ≤ Word.max := by
  unfold slotCount
  split
  · split
    · exact Nat.zero_le _
    · exact parseCount_le_max _
  · exact Nat.zero_le _

theorem countSlot_fst (found : Option Slot) (period now : Nat) :
    (countSlot found period now).1 = slotCount found now + 1 := by
  unfold countSlot slotCount
  cases found with
  | none => simp [MemoryStore.counterBase, parseCount_zero]
  | some slot =>
    by_cases expired : slot.expired now
    · simp [MemoryStore.counterBase, expired, parseCount_zero]
    · have kept : (MemoryStore.counterBase (some slot) (windowDeadline period now) now).value =
          slot.value := by
        simp only [MemoryStore.counterBase, if_neg expired]
        split
        · rfl
        · split <;> rfl
      simp [kept, expired]

theorem MemoryStore.increment_eq_countSlot (m : MemoryStore) (key : String) (period now : Nat) :
    m.increment key period now =
      if (countSlot (m.slots.find? key) period now).1 ≤ Word.max then
        some ((countSlot (m.slots.find? key) period now).1,
          ⟨m.slots.insert key (countSlot (m.slots.find? key) period now).2⟩)
      else none := by
  unfold increment Word.succ? Word.fit? countSlot windowDeadline
  dsimp only
  split <;> rfl

/-- A count at `now`, no earlier than every count before it and below the largest word, comes to
    the tally of its window, or one past the largest word where it overflows, and leaves the slot
    in agreement: counted where the count fits, as it was where it overflows. -/
theorem countSlot_agrees {found : Option Slot} {period now : Nat} {touches : List Touch}
    (agrees : SlotAgrees period touches found) (ordered : Chronological touches)
    (after : ∀ t, .count t ∈ touches → t ≤ now) (below : now < Word.max) :
    (countSlot found period now).1 =
        min (windowTally period now (.count now :: touches)) (Word.max + 1) ∧
      SlotAgrees period (.count now :: touches) (countedSlot found period now) := by
  simp only [SlotAgrees, lastCount, countedSlot] at agrees ⊢
  cases last : lastCount touches with
  | none =>
    rw [last] at agrees
    have fresh : windowTally period now touches = 0 := windowTally_of_lastCount_none last
    simp [agrees, countSlot, MemoryStore.counterBase, windowTally, fresh, parseCount_zero, Word.max]
  | some t₀ =>
    rw [last] at agrees
    have early : t₀ ≤ now := after t₀ (lastCount_mem last)
    rcases Nat.lt_or_ge (windowIndex period t₀) (windowIndex period now) with later | same
    · -- the newest count's window has ended: the slot is expired and counting starts over
      have passed := windowDeadline_le later
      have fresh : windowTally period now touches = 0 :=
        windowTally_of_lastCount_earlier ordered last later
      simp [agrees, countSlot, MemoryStore.counterBase, Slot.expired, passed, windowTally, fresh,
        parseCount_zero, Word.max]
    · -- still the newest count's window: the slot is live and its deadline stays
      have same : windowIndex period t₀ = windowIndex period now :=
        Nat.le_antisymm (windowIndex_mono early) same
      have sameDeadline : windowDeadline period t₀ = windowDeadline period now := by
        unfold windowDeadline
        rw [windowEnd_eq_of_windowIndex same]
      have live : now < windowDeadline period now := lt_windowDeadline below
      have tally : windowTally period now (.count now :: touches) = windowTally period t₀ touches + 1 := by
        simp [windowTally, windowTally_congr same touches, Nat.add_comm]
      have counted : countSlot found period now =
          (min (windowTally period t₀ touches + 1) (Word.max + 1),
            ⟨Word.toDecimal (min (windowTally period t₀ touches + 1) (Word.max + 1)),
              some (windowDeadline period now)⟩) := by
        simp [agrees, countSlot, MemoryStore.counterBase, Slot.expired, sameDeadline,
          Nat.not_le.mpr live, parseCount_min_succ]
      rw [counted, tally, agrees, sameDeadline]
      refine ⟨rfl, ?_⟩
      dsimp only
      generalize windowTally period t₀ touches = n
      rcases Nat.lt_or_ge n Word.max with fits | full
      · rw [Nat.min_eq_left (by omega : n + 1 ≤ Word.max + 1), if_pos (by omega : n + 1 ≤ Word.max),
          Nat.min_eq_left (by omega : n + 1 ≤ Word.max)]
      · rw [Nat.min_eq_right (by omega : Word.max + 1 ≤ n + 1), if_neg (by omega),
          Nat.min_eq_right full, Nat.min_eq_right (by omega : Word.max ≤ n + 1)]

end RequestFirewall
