/- Counter words: every count, deadline, period and limit of the firewall is a 64-bit unsigned
   number. Values are kept as natural numbers; the few operations that could leave the range
   clamp at the largest word, and reading a word from decimal text refuses anything out of it. -/
namespace RequestFirewall.Word

def max : Nat := 18446744073709551615

def satAdd (a b : Nat) : Nat := Nat.min (a + b) max

def satMul (a b : Nat) : Nat := Nat.min (a * b) max

def divCeil (a b : Nat) : Nat := a / b + if a % b = 0 then 0 else 1

def digitsValue (ds : List Char) : Nat :=
  ds.foldl (fun acc d => acc * 10 + (d.toNat - '0'.toNat)) 0

def fit? (v : Nat) : Option Nat := if v ≤ max then some v else none

/-- One more than a word, as the word add computes it: `none` where the sum leaves the word
    range, where a debug build stops with an overflow panic. -/
def succ? (n : Nat) : Option Nat := fit? (n + 1)

def ofDigits? (ds : List Char) : Option Nat :=
  if ds.isEmpty || !ds.all Char.isDigit then none else fit? (digitsValue ds)

/-- Reads an unsigned word from decimal text: an optional `+`, then at least one ASCII digit
    and nothing else, with a value that fits the word range. -/
def ofDecimal? (s : String) : Option Nat :=
  ofDigits? (match s.toList with
    | '+' :: rest => rest
    | cs => cs)

def toDecimal (n : Nat) : String := Nat.repr n

theorem satAdd_le_max (a b : Nat) : satAdd a b ≤ max := Nat.min_le_right _ _

theorem satMul_le_max (a b : Nat) : satMul a b ≤ max := Nat.min_le_right _ _

theorem satAdd_of_le {a b : Nat} (fits : a + b ≤ max) : satAdd a b = a + b :=
  Nat.min_eq_left fits

theorem fit?_le {v w : Nat} (kept : fit? v = some w) : w ≤ max := by
  unfold fit? at kept
  split at kept
  · cases kept; assumption
  · cases kept

theorem succ?_of_lt {n : Nat} (below : n < max) : succ? n = some (n + 1) := if_pos below

theorem succ?_of_le {n : Nat} (atMax : max ≤ n) : succ? n = none := if_neg (by omega)

theorem ofDigits?_le {ds : List Char} {v : Nat} (read : ofDigits? ds = some v) : v ≤ max := by
  unfold ofDigits? at read
  split at read
  · cases read
  · exact fit?_le read

theorem ofDecimal?_le {s : String} {v : Nat} (read : ofDecimal? s = some v) : v ≤ max :=
  ofDigits?_le read

end RequestFirewall.Word
