import Mathlib
import RequestFirewall.Window
/- Window arithmetic. The end of a window is the next multiple of the period after the current
   second, computed without overflow (the aligned start never exceeds the second itself) and
   clamped to the largest word: so it is the smaller of the largest word and `(⌊now/p⌋ + 1)·p`,
   it never decreases as time goes on, and while it is not clamped it lies after `now` and at
   most one period later, and two seconds share it exactly when they share a window. Seconds
   left until a deadline are the exact ceiling of the milliseconds left over a thousand. -/
namespace RequestFirewall

theorem Word.divCeil_mul_bounds (a : Nat) {b : Nat} (pos : 0 < b) :
    a ≤ divCeil a b * b ∧ divCeil a b * b < a + b := by
  have split := Nat.div_add_mod a b
  have below := Nat.mod_lt a pos
  rw [Nat.mul_comm] at split
  unfold divCeil
  generalize a / b = q at split ⊢
  split
  · rename_i exact
    rw [exact, Nat.add_zero] at split
    rw [Nat.add_zero]
    omega
  · rw [Nat.add_mul, Nat.one_mul]
    omega

section Windows

variable {now now' period : Nat}

theorem windowEnd_eq_min (now period : Nat) :
    windowEnd now period = min Word.max ((now / Nat.max period 1 + 1) * Nat.max period 1) := by
  rw [windowEnd, Word.satAdd, Nat.succ_mul, Nat.min_comm]

theorem windowEnd_mono (period : Nat) : Monotone (windowEnd · period) := by
  intro a b le
  simp only [windowEnd_eq_min]
  exact min_le_min_left _ (Nat.mul_le_mul_right _ (Nat.add_le_add_right (Nat.div_le_div_right le) 1))

theorem windowEnd_of_fits (fits : (now / Nat.max period 1 + 1) * Nat.max period 1 ≤ Word.max) :
    windowEnd now period = (now / Nat.max period 1 + 1) * Nat.max period 1 := by
  rw [windowEnd_eq_min, Nat.min_eq_right fits]

theorem windowEnd_within_period (fits : (now / Nat.max period 1 + 1) * Nat.max period 1 ≤ Word.max) :
    now < windowEnd now period ∧ windowEnd now period ≤ now + Nat.max period 1 := by
  rw [windowEnd_of_fits fits, Nat.succ_mul]
  exact ⟨Nat.lt_div_mul_add (windowPeriod_pos period),
    Nat.add_le_add_right (Nat.div_mul_le_self now _) _⟩

/-- Unclamped window ends are equal exactly for seconds of one window. Where the clamp bites,
    the last whole window and the cut one after it both end at the largest word. -/
theorem windowEnd_eq_iff_of_fits (fits : (now / Nat.max period 1 + 1) * Nat.max period 1 ≤ Word.max)
    (fits' : (now' / Nat.max period 1 + 1) * Nat.max period 1 ≤ Word.max) :
    windowEnd now' period = windowEnd now period ↔ now' / Nat.max period 1 = now / Nat.max period 1 := by
  rw [windowEnd_of_fits fits, windowEnd_of_fits fits',
    Nat.mul_left_inj (Nat.ne_of_gt (windowPeriod_pos period)), Nat.add_right_cancel_iff]

end Windows

theorem ceilSecsUntil_eq_ceil (deadline now : Nat) :
    (ceilSecsUntil deadline now : ℤ) = if now < deadline then ⌈((deadline : ℚ) - now) / 1000⌉ else 0 := by
  split
  · rename_i after
    have bounds := Word.divCeil_mul_bounds (deadline - now) (by norm_num : 0 < 1000)
    have covers : ((deadline - now : Nat) : ℚ) ≤ ceilSecsUntil deadline now * 1000 := by
      exact_mod_cast bounds.1
    have short : (ceilSecsUntil deadline now * 1000 : ℚ) < (deadline - now : Nat) + 1000 := by
      exact_mod_cast bounds.2
    rw [Nat.cast_sub after.le] at covers short
    rw [eq_comm, Int.ceil_eq_iff]
    push_cast
    constructor
    · rw [lt_div_iff₀ (by norm_num)]
      linarith
    · rw [div_le_iff₀ (by norm_num)]
      exact covers
  · rename_i passed
    simp [ceilSecsUntil_eq_zero_of_le (Nat.le_of_not_lt passed)]

/-- The window helpers compute what they promise, for every second, period and deadline: the
    window end is the next boundary `(⌊now/p⌋ + 1)·p` (with `p` the period, a zero period counting
    as one) clamped to the largest word, `2^64 - 1`; its aligned start stays within the word for
    every second that does; it never decreases as time goes on; unclamped, it lies after `now` and
    at most a period later, and two unclamped seconds share it exactly when they share a window;
    and the seconds left until a deadline are the ceiling of the milliseconds left over a
    thousand, or zero once the deadline has passed. -/
theorem window_arithmetic_exact (period : Nat) :
    (∀ now, windowEnd now period = min Word.max ((now / Nat.max period 1 + 1) * Nat.max period 1)) ∧
    (∀ now, now ≤ Word.max → now / Nat.max period 1 * Nat.max period 1 ≤ Word.max) ∧
    Monotone (windowEnd · period) ∧
    (∀ now, (now / Nat.max period 1 + 1) * Nat.max period 1 ≤ Word.max →
      now < windowEnd now period ∧ windowEnd now period ≤ now + Nat.max period 1) ∧
    (∀ now now', (now / Nat.max period 1 + 1) * Nat.max period 1 ≤ Word.max →
      (now' / Nat.max period 1 + 1) * Nat.max period 1 ≤ Word.max →
      (windowEnd now' period = windowEnd now period ↔ now' / Nat.max period 1 = now / Nat.max period 1)) ∧
    (∀ deadline now, (ceilSecsUntil deadline now : ℤ) =
      if now < deadline then ⌈((deadline : ℚ) - now) / 1000⌉ else 0) :=
  ⟨fun now => windowEnd_eq_min now period,
    fun now word => Nat.le_trans (Nat.div_mul_le_self now _) word,
    windowEnd_mono period,
    fun _ fits => windowEnd_within_period fits,
    fun _ _ fits fits' => windowEnd_eq_iff_of_fits fits fits',
    ceilSecsUntil_eq_ceil⟩

theorem window_arithmetic_exact_minute :
    (1700000003 / Nat.max 60 1 + 1) * Nat.max 60 1 ≤ Word.max ∧
    (1700000039 / Nat.max 60 1 + 1) * Nat.max 60 1 ≤ Word.max ∧
    (1700000003 < windowEnd 1700000003 60 ∧ windowEnd 1700000003 60 ≤ 1700000003 + Nat.max 60 1) ∧
    (windowEnd 1700000039 60 = windowEnd 1700000003 60 ↔
      1700000039 / Nat.max 60 1 = 1700000003 / Nat.max 60 1) :=
  have fits : (1700000003 / Nat.max 60 1 + 1) * Nat.max 60 1 ≤ Word.max := by decide
  have fits' : (1700000039 / Nat.max 60 1 + 1) * Nat.max 60 1 ≤ Word.max := by decide
  ⟨fits, fits', (window_arithmetic_exact 60).2.2.2.1 _ fits,
    (window_arithmetic_exact 60).2.2.2.2.1 _ _ fits fits'⟩

end RequestFirewall
