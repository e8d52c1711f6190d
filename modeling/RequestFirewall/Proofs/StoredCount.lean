import RequestFirewall.Window
import Mathlib.Data.List.TakeWhile
/- Stored counts read back. A counter keeps its count as decimal text; reading that text gives
   the count again while it fits a word, and zero once it does not, which is where the memory
   store's counting wraps around. -/
namespace RequestFirewall

theorem Char.digit_range {c : Char} (digit : c.isDigit = true) : 48 ≤ c.toNat ∧ c.toNat ≤ 57 := by
  simp [Char.isDigit, UInt32.le_iff_toNat_le] at digit
  exact ⟨digit.1, digit.2⟩

theorem dropWhile_of_forall_false {p : Char → Bool} {l : List Char} (none : ∀ c ∈ l, p c = false) :
    l.dropWhile p = l := by
  cases l with
  | nil => rfl
  | cons c rest => simp [none c List.mem_cons_self]

namespace Word

theorem isDigit_of_mem_toDecimal {n : Nat} {c : Char} (mem : c ∈ (toDecimal n).toList) :
    c.isDigit = true := by
  rw [toDecimal, Nat.toList_repr] at mem
  exact Nat.isDigit_of_mem_toDigits (by decide) (by decide) mem

theorem digitsValue_toDigits (n : Nat) : digitsValue (Nat.toDigits 10 n) = n := by
  have step : (fun acc (d : Char) => acc * 10 + (d.toNat - '0'.toNat)) =
      fun acc d => 10 * acc + (d.toNat - '0'.toNat) := by
    funext acc d
    rw [Nat.mul_comm]
  rw [digitsValue, step, ← Nat.ofDigitChars_eq_foldl, Nat.ofDigitChars_ten_toDigits]

theorem ofDecimal?_toDecimal (n : Nat) : ofDecimal? (toDecimal n) = fit? n := by
  have digits : ∀ c ∈ Nat.toDigits 10 n, c.isDigit = true := fun c mem =>
    isDigit_of_mem_toDecimal (by rwa [toDecimal, Nat.toList_repr])
  unfold ofDecimal?
  split
  · rename_i rest same
    rw [toDecimal, Nat.toList_repr] at same
    have plus := digits '+' (same ▸ List.mem_cons_self)
    simp at plus
  · simp [ofDigits?, toDecimal, digitsValue_toDigits, List.all_eq_true.mpr digits]

end Word

theorem Text.isBlank_eq_false_of_range {c : Char} (low : 45 ≤ c.toNat) (high : c.toNat ≤ 122) :
    Text.isBlank c = false := by
  simp only [Text.isBlank, Bool.or_eq_false_iff, Bool.and_eq_false_iff, beq_eq_false_iff_ne, ne_eq,
    decide_eq_false_iff_not]
  omega

theorem Text.trimBlankList_of_forall {cs : List Char} (noBlank : ∀ c ∈ cs, Text.isBlank c = false) :
    Text.trimBlankList cs = cs := by
  rw [Text.trimBlankList, dropWhile_of_forall_false noBlank,
    dropWhile_of_forall_false (by simpa using noBlank), List.reverse_reverse]

theorem trimBlank_toDecimal (n : Nat) : Text.trimBlank (Word.toDecimal n) = Word.toDecimal n := by
  have noBlank : ∀ c ∈ (Word.toDecimal n).toList, Text.isBlank c = false := by
    intro c mem
    have range := Char.digit_range (Word.isDigit_of_mem_toDecimal mem)
    exact Text.isBlank_eq_false_of_range (by omega) (by omega)
  rw [Text.trimBlank, Text.trimBlankList_of_forall noBlank, String.ofList_toList]

theorem parseCount_toDecimal (n : Nat) :
    parseCount (Word.toDecimal n) = if n ≤ Word.max then n else 0 := by
  rw [parseCount, trimBlank_toDecimal, Word.ofDecimal?_toDecimal, Word.fit?]
  split <;> rfl

end RequestFirewall
