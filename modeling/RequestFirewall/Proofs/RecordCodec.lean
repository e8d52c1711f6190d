import RequestFirewall.Proofs.StoredCount
import RequestFirewall.Store.Counter
/- Counter records read back. A record is written as `{"value":V,"window_end":E}` with both
   numbers in decimal, and when both fit a word, reading that text gives the record again. Each
   number is read as an integer: its digits run up to the comma or brace after it, have no
   leading zero, and fill a word without spilling over. A count past the word range spills, is
   read as a float, and the record reads as the zero record. -/
namespace RequestFirewall

theorem toDigits_head_ne_zero {n : Nat} (pos : 0 < n) : (Nat.toDigits 10 n).head? ≠ some '0' := by
  induction n using Nat.strong_induction_on with
  | _ n ih =>
    rw [Nat.toDigits_eq_if (by decide)]
    split
    · rename_i small
      have single : ∀ m, m < 10 → 0 < m → Nat.digitChar m ≠ '0' := by decide
      simpa using single n small pos
    · have first := ih (n / 10) (by omega) (by omega)
      cases head : (Nat.toDigits 10 (n / 10)).head? with
      | none => simp at head
      | some d =>
        rw [head] at first
        simpa [head] using first

namespace Json

theorem le_foldl_digits (acc : Nat) (ds : List Char) :
    acc ≤ ds.foldl (fun a d => a * 10 + (d.toNat - '0'.toNat)) acc := by
  induction ds generalizing acc with
  | nil => exact Nat.le_refl acc
  | cons d rest ih =>
    have step : acc ≤ acc * 10 + (d.toNat - '0'.toNat) := by omega
    exact Nat.le_trans step (ih _)

theorem spanDigits_append {ds rest : List Char} (digits : ∀ c ∈ ds, c.isDigit = true)
    (stop : ∀ c more, rest = c :: more → c.isDigit = false) : spanDigits (ds ++ rest) = (ds, rest) := by
  induction ds with
  | nil =>
    cases rest with
    | nil => rfl
    | cons c more => simp [spanDigits, stop c more rfl]
  | cons d ds ih =>
    have digit := digits d List.mem_cons_self
    have rest := ih fun c mem => digits c (List.mem_cons_of_mem _ mem)
    simp only [spanDigits, Prod.mk.injEq] at rest
    simp [spanDigits, digit, rest]

theorem fillSignificand_of_le {acc : Nat} {ds : List Char}
    (fits : ds.foldl (fun a d => a * 10 + (d.toNat - '0'.toNat)) acc ≤ Word.max) :
    fillSignificand acc ds = (ds.foldl (fun a d => a * 10 + (d.toNat - '0'.toNat)) acc, []) := by
  induction ds generalizing acc with
  | nil => rfl
  | cons d rest ih =>
    have within : acc * 10 + (d.toNat - '0'.toNat) ≤ Word.max :=
      Nat.le_trans (le_foldl_digits _ rest) fits
    simp only [fillSignificand, gt_iff_lt, Nat.not_lt.mpr within, if_false]
    exact ih fits

theorem fillSignificand_spills {acc : Nat} {ds : List Char} (start : acc ≤ Word.max)
    (big : Word.max < ds.foldl (fun a d => a * 10 + (d.toNat - '0'.toNat)) acc) :
    (fillSignificand acc ds).2 ≠ [] := by
  induction ds generalizing acc with
  | nil => exact absurd start (Nat.not_le.mpr big)
  | cons d rest ih =>
    simp only [fillSignificand, gt_iff_lt]
    split
    · exact List.cons_ne_nil d rest
    · rename_i within
      exact ih (Nat.not_lt.mp within) big

theorem number?_toDecimal {n : Nat} (fits : n ≤ Word.max) {c : Char} {rest : List Char}
    (stop : c = ',' ∨ c = '\x7d') :
    number? ((Word.toDecimal n).toList ++ c :: rest) = some (.nat n, c :: rest) := by
  have digits : ∀ d ∈ (Word.toDecimal n).toList, d.isDigit = true :=
    fun d mem => Word.isDigit_of_mem_toDecimal mem
  have notDigit : ∀ d more, c :: rest = d :: more → d.isDigit = false := by
    intro d more same
    cases same
    rcases stop with rfl | rfl <;> rfl
  obtain ⟨d, ds, first⟩ : ∃ d ds, (Word.toDecimal n).toList = d :: ds := by
    cases h : (Word.toDecimal n).toList with
    | nil => simp [Word.toDecimal, Nat.toList_repr] at h
    | cons d ds => exact ⟨d, ds, rfl⟩
  have span := spanDigits_append digits notDigit
  have value : fillSignificand 0 (d :: ds) = (n, []) := by
    have read := Word.digitsValue_toDigits n
    rw [Word.digitsValue, ← Nat.toList_repr, ← Word.toDecimal, first] at read
    rw [fillSignificand_of_le (by rw [read]; exact fits), read]
  have notMinus : d ≠ '-' := by
    intro minus
    have := digits d (by rw [first]; exact List.mem_cons_self)
    rw [minus] at this
    exact absurd this (by decide)
  -- a number of two digits or more does not start with zero
  have leading : 0 < ds.length → d ≠ '0' := by
    intro long zero
    have pos : 0 < n := by
      refine Nat.pos_of_ne_zero fun none => ?_
      rw [none] at first
      cases first
      simp at long
    have head := toDigits_head_ne_zero pos
    rw [← Nat.toList_repr, ← Word.toDecimal, first, zero] at head
    exact head rfl
  rw [first, List.cons_append] at span ⊢
  simp only [number?]
  split
  · rename_i minus
    simp only [List.cons.injEq] at minus
    exact absurd minus.1 notMinus
  · have noPoint : c ≠ '.' := by rcases stop with rfl | rfl <;> decide
    have noExp : ¬(c = 'e' ∨ c = 'E') := by rcases stop with rfl | rfl <;> decide
    simp [span, value, noPoint, noExp]
    exact leading

theorem value?_toDecimal {n : Nat} (fits : n ≤ Word.max) {c : Char} {rest : List Char}
    (stop : c = ',' ∨ c = '\x7d') {fuel : Nat} (enough : 0 < fuel) (depth : Nat) :
    value? fuel depth ((Word.toDecimal n).toList ++ c :: rest) = some (.num (.nat n), c :: rest) := by
  obtain ⟨fuel, rfl⟩ : ∃ f, fuel = f + 1 := ⟨fuel - 1, by omega⟩
  obtain ⟨d, ds, first⟩ : ∃ d ds, (Word.toDecimal n).toList = d :: ds := by
    cases h : (Word.toDecimal n).toList with
    | nil => simp [Word.toDecimal, Nat.toList_repr] at h
    | cons d ds => exact ⟨d, ds, rfl⟩
  have digit : d.isDigit = true := Word.isDigit_of_mem_toDecimal (by rw [first]; exact List.mem_cons_self)
  have notChar : ∀ x : Char, x.isDigit = false → d ≠ x := by
    intro x other same
    rw [same, other] at digit
    cases digit
  have blank : skipBlank ((Word.toDecimal n).toList ++ c :: rest) =
      (Word.toDecimal n).toList ++ c :: rest := by
    rw [first, List.cons_append, skipBlank, List.dropWhile_cons_of_neg]
    simp only [isJsonBlank, Bool.or_eq_true, beq_iff_eq, not_or]
    exact ⟨⟨⟨notChar _ rfl, notChar _ rfl⟩, notChar _ rfl⟩, notChar _ rfl⟩
  rw [value?, blank, first, List.cons_append]
  split
  any_goals (rename_i heq; exact absurd (List.cons.inj heq).1 (notChar _ rfl))
  rw [← List.cons_append, ← first, number?_toDecimal fits stop]
  rfl

theorem value?_of_digit {fuel : Nat} (enough : 0 < fuel) (depth : Nat) {d : Char} {cs : List Char}
    (digit : d.isDigit = true) :
    value? fuel depth (d :: cs) = (number? (d :: cs)).map fun (n, r) => (.num n, r) := by
  obtain ⟨fuel, rfl⟩ : ∃ f, fuel = f + 1 := ⟨fuel - 1, by omega⟩
  have notChar : ∀ x : Char, x.isDigit = false → d ≠ x := by
    intro x other same
    rw [same, other] at digit
    cases digit
  have blank : skipBlank (d :: cs) = d :: cs := by
    rw [skipBlank, List.dropWhile_cons_of_neg]
    simp only [isJsonBlank, Bool.or_eq_true, beq_iff_eq, not_or]
    exact ⟨⟨⟨notChar _ rfl, notChar _ rfl⟩, notChar _ rfl⟩, notChar _ rfl⟩
  rw [value?, blank]
  split
  any_goals (rename_i heq; exact absurd (List.cons.inj heq).1 (notChar _ rfl))
  rfl

theorem number?_toDecimal_of_lt {n : Nat} (big : Word.max < n) {c : Char} {rest : List Char}
    (stop : c = ',' ∨ c = '\x7d') :
    ∃ o : Option Float, number? ((Word.toDecimal n).toList ++ c :: rest) =
      o.map fun f => (.float f, c :: rest) := by
  have digits : ∀ d ∈ (Word.toDecimal n).toList, d.isDigit = true :=
    fun d mem => Word.isDigit_of_mem_toDecimal mem
  have notDigit : ∀ d more, c :: rest = d :: more → d.isDigit = false := by
    intro d more same
    cases same
    rcases stop with rfl | rfl <;> rfl
  obtain ⟨d, ds, first⟩ : ∃ d ds, (Word.toDecimal n).toList = d :: ds := by
    cases h : (Word.toDecimal n).toList with
    | nil => simp [Word.toDecimal, Nat.toList_repr] at h
    | cons d ds => exact ⟨d, ds, rfl⟩
  have span := spanDigits_append digits notDigit
  have spills : (fillSignificand 0 (d :: ds)).2 ≠ [] := by
    have read := Word.digitsValue_toDigits n
    rw [Word.digitsValue, ← Nat.toList_repr, ← Word.toDecimal, first] at read
    exact fillSignificand_spills (Nat.zero_le _) (by rw [read]; exact big)
  have notMinus : d ≠ '-' := by
    intro minus
    have := digits d (by rw [first]; exact List.mem_cons_self)
    rw [minus] at this
    exact absurd this (by decide)
  have leading : d ≠ '0' := by
    intro zero
    have head := toDigits_head_ne_zero (Nat.lt_of_le_of_lt (Nat.zero_le _) big)
    rw [← Nat.toList_repr, ← Word.toDecimal, first, zero] at head
    exact head rfl
  rw [first, List.cons_append] at span ⊢
  simp only [number?]
  split
  · rename_i minus
    simp only [List.cons.injEq] at minus
    exact absurd minus.1 notMinus
  · have noPoint : c ≠ '.' := by rcases stop with rfl | rfl <;> decide
    have noExp : ¬(c = 'e' ∨ c = 'E') := by rcases stop with rfl | rfl <;> decide
    have calm : ¬exponentMax < (Word.digitsValue [] : Int) := by
      simp [Word.digitsValue, exponentMax]
    -- past the word range the digits spill, so the number is read as a float
    simp [span, noPoint, noExp, leading, spills, calm]
    generalize floatOfParts _ _ _ = o
    exact ⟨o, by cases o <;> rfl⟩

theorem skipBlank_of_head {c : Char} {cs : List Char} (notBlank : isJsonBlank c = false) :
    skipBlank (c :: cs) = c :: cs := by
  simp [skipBlank, notBlank]

theorem stringBody_plain {cs rest acc : List Char}
    (plain : ∀ c ∈ cs, c ≠ '"' ∧ c ≠ '\\' ∧ 0x20 ≤ c.toNat) :
    stringBody (cs ++ '"' :: rest) acc = some (String.ofList (acc.reverse ++ cs), rest) := by
  induction cs generalizing acc with
  | nil => simp [stringBody]
  | cons c cs ih =>
    obtain ⟨notQuote, notSlash, printable⟩ := plain c List.mem_cons_self
    have tail := @ih (c :: acc) fun d mem => plain d (List.mem_cons_of_mem _ mem)
    rw [List.cons_append]
    simp [stringBody, notSlash, Nat.not_lt.mpr printable, tail]

theorem knownFields?_word {known : List String} {key : String} (isKnown : known.contains key = true)
    (plain : ∀ c ∈ key.toList, c ≠ '"' ∧ c ≠ '\\' ∧ 0x20 ≤ c.toNat) {n : Nat} (fits : n ≤ Word.max)
    {c : Char} {rest : List Char} (stop : c = ',' ∨ c = '\x7d') (fuel : Nat)
    (acc : List (String × Json)) :
    knownFields? known (fuel + 1)
        ('"' :: (key.toList ++ '"' :: ':' :: ((Word.toDecimal n).toList ++ c :: rest))) acc =
      if c = ',' then knownFields? known fuel rest ((key, .num (.nat n)) :: acc)
      else some (.obj ((key, .num (.nat n)) :: acc).reverse, rest) := by
  rw [knownFields?, skipBlank_of_head rfl]
  simp only [stringBody_plain plain, List.reverse_nil, List.nil_append, String.ofList_toList,
    Option.bind_eq_bind, Option.bind_some, skipBlank_of_head (c := ':') rfl, isKnown, if_true,
    value?_toDecimal fits stop (Nat.succ_pos _), Option.map_some]
  rcases stop with rfl | rfl
  · rw [skipBlank_of_head rfl]
    rfl
  · rw [skipBlank_of_head rfl]
    rfl

theorem knownFields?_known {known : List String} {key : String} (isKnown : known.contains key = true)
    (plain : ∀ c ∈ key.toList, c ≠ '"' ∧ c ≠ '\\' ∧ 0x20 ≤ c.toNat) (cs : List Char) (fuel : Nat)
    (acc : List (String × Json)) :
    knownFields? known (fuel + 1) ('"' :: (key.toList ++ '"' :: ':' :: cs)) acc =
      (value? (2 * cs.length + 2) 1 cs).bind fun (v, r) =>
        match skipBlank r with
        | ',' :: more => knownFields? known fuel more ((key, v) :: acc)
        | '\x7d' :: more => some (.obj ((key, v) :: acc).reverse, more)
        | _ => none := by
  rw [knownFields?, skipBlank_of_head rfl]
  simp only [stringBody_plain plain, List.reverse_nil, List.nil_append, String.ofList_toList,
    Option.bind_eq_bind, Option.bind_some, skipBlank_of_head (c := ':') rfl, isKnown, if_true]
  cases value? (2 * cs.length + 2) 1 cs <;> rfl

end Json

namespace CounterRecord

theorem encode_toList (r : CounterRecord) : (encode r).toList =
    '\x7b' :: '"' :: ("value".toList ++ '"' :: ':' :: ((Word.toDecimal r.value).toList ++
      ',' :: '"' :: ("window_end".toList ++ '"' :: ':' ::
        ((Word.toDecimal r.windowEnd).toList ++ ['\x7d'])))) := by
  simp [encode]

theorem decode_encode {r : CounterRecord} (value : r.value ≤ Word.max)
    (windowEnd : r.windowEnd ≤ Word.max) : decode (encode r) = r := by
  have plainValue : ∀ c ∈ "value".toList, c ≠ '"' ∧ c ≠ '\\' ∧ 0x20 ≤ c.toNat := by simp
  have plainEnd : ∀ c ∈ "window_end".toList, c ≠ '"' ∧ c ≠ '\\' ∧ 0x20 ≤ c.toNat := by simp
  unfold decode Json.parseFields?
  rw [encode_toList]
  dsimp only
  rw [Json.skipBlank_of_head rfl]
  simp only
  rw [Json.skipBlank_of_head rfl]
  simp only [List.cons.injEq, Char.reduceEq, false_and, imp_self, implies_true]
  rw [Json.knownFields?_word rfl plainValue value (Or.inl rfl), if_pos rfl, List.length_cons,
    Json.knownFields?_word rfl plainEnd windowEnd (Or.inr rfl), if_neg (by decide)]
  simp [ofJson?, word?, Json.skipBlank]

/-- A record whose count has left the word range reads back as the zero record: its count is no
    longer an unsigned integer. -/
theorem decode_encode_of_lt {r : CounterRecord} (big : Word.max < r.value)
    (windowEnd : r.windowEnd ≤ Word.max) : decode (encode r) = ⟨0, 0⟩ := by
  have plainValue : ∀ c ∈ "value".toList, c ≠ '"' ∧ c ≠ '\\' ∧ 0x20 ≤ c.toNat := by simp
  have plainEnd : ∀ c ∈ "window_end".toList, c ≠ '"' ∧ c ≠ '\\' ∧ 0x20 ≤ c.toNat := by simp
  obtain ⟨d, ds, first⟩ : ∃ d ds, (Word.toDecimal r.value).toList = d :: ds := by
    cases h : (Word.toDecimal r.value).toList with
    | nil => simp [Word.toDecimal, Nat.toList_repr] at h
    | cons d ds => exact ⟨d, ds, rfl⟩
  have digit : d.isDigit = true := Word.isDigit_of_mem_toDecimal (by rw [first]; exact List.mem_cons_self)
  obtain ⟨o, read⟩ := @Json.number?_toDecimal_of_lt _ big ','
    ('"' :: ("window_end".toList ++ '"' :: ':' :: ((Word.toDecimal r.windowEnd).toList ++ ['\x7d'])))
    (Or.inl rfl)
  unfold decode Json.parseFields?
  rw [encode_toList]
  dsimp only
  rw [Json.skipBlank_of_head rfl]
  simp only
  rw [Json.skipBlank_of_head rfl]
  simp only [List.cons.injEq, Char.reduceEq, false_and, imp_self, implies_true]
  rw [Json.knownFields?_known rfl plainValue, first, List.cons_append,
    Json.value?_of_digit (by omega) 1 digit, ← List.cons_append, ← first, read]
  cases o with
  | none => rfl
  | some f =>
    -- the window end still reads, but a float is no count
    simp only [Option.map_some, Option.bind_some]
    rw [Json.skipBlank_of_head rfl]
    simp only
    rw [List.length_cons, Json.knownFields?_word rfl plainEnd windowEnd (Or.inr rfl), if_neg (by decide)]
    simp [ofJson?, word?, Json.skipBlank]

theorem decode_encode_eq {r : CounterRecord} (windowEnd : r.windowEnd ≤ Word.max) :
    decode (encode r) = if r.value ≤ Word.max then r else ⟨0, 0⟩ := by
  split
  · exact decode_encode ‹_› windowEnd
  · exact decode_encode_of_lt (Nat.lt_of_not_le ‹_›) windowEnd

end CounterRecord

end RequestFirewall
