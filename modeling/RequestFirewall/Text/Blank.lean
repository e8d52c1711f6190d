/- Blank characters: the Unicode White_Space property, and trimming by it. Keys and stored
   counters are trimmed with this set, which is wider than ASCII space: it holds the no-break
   space and the ideographic space, but not the zero-width space or the byte order mark. -/
namespace RequestFirewall.Text

def isBlank (c : Char) : Bool :=
  let n := c.toNat
  (0x09 ≤ n && n ≤ 0x0D) || n == 0x20 || n == 0x85 || n == 0xA0 || n == 0x1680 ||
    (0x2000 ≤ n && n ≤ 0x200A) || n == 0x2028 || n == 0x2029 || n == 0x202F ||
    n == 0x205F || n == 0x3000

def trimBlankList (cs : List Char) : List Char :=
  ((cs.dropWhile isBlank).reverse.dropWhile isBlank).reverse

def trimBlank (s : String) : String := String.ofList (trimBlankList s.toList)

def asciiUpper (s : String) : String := s.map Char.toUpper

def asciiLower (s : String) : String := s.map Char.toLower

def eqIgnoreAsciiCase (a b : String) : Bool := asciiLower a == asciiLower b

theorem isBlank_of_isWhitespace {c : Char} (h : c.isWhitespace = true) : isBlank c = true := by
  simp only [Char.isWhitespace, Bool.or_eq_true, decide_eq_true_eq] at h
  simp only [isBlank, Bool.or_eq_true, Bool.and_eq_true, beq_iff_eq, decide_eq_true_eq]
  rcases h with ((h | h) | h) | h <;> simp [h]

example : isBlank '\u00a0' = true ∧ isBlank '\u3000' = true ∧ isBlank '\u200b' = false ∧
    isBlank '\ufeff' = false := by decide

end RequestFirewall.Text
