import RequestFirewall.Word
import RequestFirewall.Text.Blank
/- Fixed windows. A counter with a period of `p` seconds counts within epoch-aligned windows
   `[k·p, (k+1)·p)`; a window ends at the next multiple of `p` after the current second. Times
   are milliseconds since the epoch, window ends are seconds, and both stay within words. -/
namespace RequestFirewall

/-- The end, in seconds, of the window of `period` seconds that holds the second `now`.
    A zero period counts as one second; the end is clamped to the word range. -/
def windowEnd (now period : Nat) : Nat :=
  let p := Nat.max period 1
  Word.satAdd (now / p * p) p

def secsToMillis (s : Nat) : Nat := Word.satMul s 1000

/-- Whole seconds from `now` until `deadline` (both in milliseconds), rounded up; zero once
    the deadline has passed. -/
def ceilSecsUntil (deadline now : Nat) : Nat := Word.divCeil (deadline - now) 1000

/-- The count held in a stored text: its trimmed decimal value, or zero when the text is not
    a word. -/
def parseCount (raw : String) : Nat := (Word.ofDecimal? (Text.trimBlank raw)).getD 0

theorem windowPeriod_pos (period : Nat) : 0 < Nat.max period 1 :=
  Nat.lt_of_lt_of_le Nat.one_pos (Nat.le_max_right _ _)

theorem now_lt_windowEnd {now period : Nat} (fits : now + Nat.max period 1 ≤ Word.max) :
    now < windowEnd now period := by
  unfold windowEnd
  generalize hp : Nat.max period 1 = p at fits ⊢
  have pos : 0 < p := hp ▸ windowPeriod_pos period
  have lower : now < now / p * p + p := Nat.lt_div_mul_add pos
  have below : now / p * p ≤ now := Nat.div_mul_le_self now p
  rw [Word.satAdd_of_le (by omega)]
  exact lower

theorem ceilSecsUntil_eq_zero_of_le {deadline now : Nat} (passed : deadline ≤ now) :
    ceilSecsUntil deadline now = 0 := by
  simp [ceilSecsUntil, Word.divCeil, Nat.sub_eq_zero_of_le passed]

end RequestFirewall
