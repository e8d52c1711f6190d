import Mathlib
import RequestFirewall.Proofs.CounterRecords
/- The count an increment carries on from. Whatever text is stored under a counter's key, an
   increment reads a count from it and adds one: the memory store reads the trimmed decimal text
   of a live slot, a records store the value of a live record whose window has not ended, and
   anything missing, expired or unreadable counts as zero, so that counting restarts at one.
   Both reads give words: a decimal text past the word range does not parse, and the JSON reader
   turns an integer past it into a float, which no record takes as its count. So an increment
   answers one more than that count, at least one, except where the count is already the
   largest word: there the add overflows and the program stops. -/
open Std.Do
namespace RequestFirewall.Json

theorem fillSignificand_le {acc : Nat} {ds : List Char} (start : acc ≤ Word.max) :
    (fillSignificand acc ds).1 ≤ Word.max := by
  induction ds generalizing acc with
  | nil => exact start
  | cons d rest ih =>
    simp only [fillSignificand, gt_iff_lt]
    split
    · exact start
    · rename_i within
      exact ih (Nat.not_lt.mp within)

@[spec]
theorem floatOfParts_spec (negative : Bool) (significand : Nat) (exponent : Int) :
    ⦃⌜True⌝⦄ floatOfParts negative significand exponent ⦃⇓? _ => ⌜True⌝⦄ := by
  cases floatOfParts negative significand exponent <;> exact fun _ => trivial

set_option mvcgen.warning false in
theorem number?_spec (cs : List Char) :
    ⦃⌜True⌝⦄ number? cs ⦃⇓? p => ⌜∀ n, p.1 = .nat n → n ≤ Word.max⌝⦄ := by
  mvcgen [number?]
  all_goals intro n same
  all_goals cases same
  all_goals exact fillSignificand_le (Nat.zero_le _)

theorem number?_nat_le {cs rest : List Char} {n : Nat} (read : number? cs = some (.nat n, rest)) :
    n ≤ Word.max := by
  have spec := number?_spec cs
  rw [read] at spec
  exact spec True.intro n rfl

/-- A JSON value that is no unsigned integer past the word range. -/
def WordBounded (v : Json) : Prop := ∀ n, v = .num (.nat n) → n ≤ Word.max

/-- A JSON value whose own unsigned integer, or those among its items or field values, are
    words: all that a record is read from. -/
def ShallowBounded : Json → Prop
  | .num (.nat n) => n ≤ Word.max
  | .arr items => ∀ v ∈ items, WordBounded v
  | .obj fields => ∀ f ∈ fields, WordBounded f.2
  | _ => True

theorem ShallowBounded.wordBounded {v : Json} (bounded : ShallowBounded v) : WordBounded v := by
  intro n same
  subst same
  exact bounded

theorem shallowBounded_arr_reverse {items : List Json} (bounded : ∀ v ∈ items, WordBounded v) :
    ShallowBounded (.arr items.reverse) :=
  fun v mem => bounded v (List.mem_reverse.mp mem)

theorem shallowBounded_obj_reverse {fields : List (String × Json)}
    (bounded : ∀ f ∈ fields, WordBounded f.2) : ShallowBounded (.obj fields.reverse) :=
  fun f mem => bounded f (List.mem_reverse.mp mem)

/-- Every value the reader gives is shallowly bounded. The induction is on the fuel, which each
    of the three readers spends before it calls another. -/
theorem value?_bounded (fuel : Nat) :
    (∀ depth cs v rest, value? fuel depth cs = some (v, rest) → ShallowBounded v) ∧
    (∀ depth cs acc v rest, (∀ x ∈ acc, WordBounded x) →
      items? fuel depth cs acc = some (v, rest) → ShallowBounded v) ∧
    (∀ depth cs acc v rest, (∀ f ∈ acc, WordBounded f.2) →
      fields? fuel depth cs acc = some (v, rest) → ShallowBounded v) := by
  induction fuel with
  | zero => exact ⟨by simp [value?], by simp [items?], by simp [fields?]⟩
  | succ fuel ih =>
    obtain ⟨values, items, fields⟩ := ih
    refine ⟨?_, ?_, ?_⟩
    · intro depth cs v rest read
      unfold value? at read
      split at read
      case h_1 | h_2 | h_3 =>
        cases read
        trivial
      case h_4 =>
        obtain ⟨⟨s, r⟩, -, same⟩ := Option.map_eq_some_iff.mp read
        cases same
        trivial
      case h_5 =>
        split at read
        · cases read
        split at read
        · cases read
          exact fun _ mem => by cases mem
        · exact items _ _ _ _ _ (fun _ mem => by cases mem) read
      case h_6 =>
        split at read
        · cases read
        split at read
        · cases read
          exact fun _ mem => by cases mem
        · exact fields _ _ _ _ _ (fun _ mem => by cases mem) read
      case h_7 =>
        obtain ⟨⟨n, r⟩, number, same⟩ := Option.map_eq_some_iff.mp read
        cases same
        cases n
        case nat n => exact number?_nat_le number
        all_goals trivial
    · intro depth cs acc v rest bounded read
      unfold items? at read
      split at read
      · cases read
      rename_i item afterItem first
      have kept := List.forall_mem_cons.mpr ⟨(values _ _ _ _ first).wordBounded, bounded⟩
      split at read
      · exact items _ _ _ _ _ kept read
      · cases read
        exact shallowBounded_arr_reverse kept
      · cases read
    · intro depth cs acc v rest bounded read
      unfold fields? at read
      split at read
      · split at read
        · cases read
        split at read
        · split at read
          · cases read
          rename_i key _ _ _ _ _ _ item afterItem first
          have kept : ∀ f ∈ (key, item) :: acc, WordBounded f.2 :=
            List.forall_mem_cons.mpr ⟨(values _ _ _ _ first).wordBounded, bounded⟩
          split at read
          · exact fields _ _ _ _ _ kept read
          · cases read
            exact shallowBounded_obj_reverse kept
          · cases read
        · cases read
      · cases read

theorem knownFields?_bounded (known : List String) (fuel : Nat) :
    ∀ cs acc v rest, (∀ f ∈ acc, WordBounded f.2) →
      knownFields? known fuel cs acc = some (v, rest) → ShallowBounded v := by
  induction fuel with
  | zero => simp [knownFields?]
  | succ fuel ih =>
    intro cs acc v rest bounded read
    unfold knownFields? at read
    split at read
    · simp only [bind, Option.bind_eq_some_iff] at read
      obtain ⟨⟨key, afterKey⟩, -, read⟩ := read
      split at read
      · simp only [Option.bind_some] at read
        split at read
        · obtain ⟨⟨kept, after⟩, step, read⟩ := Option.bind_eq_some_iff.mp read
          obtain ⟨⟨item, _⟩, first, same⟩ := Option.map_eq_some_iff.mp step
          cases same
          have kept : ∀ f ∈ (key, item) :: acc, WordBounded f.2 :=
            List.forall_mem_cons.mpr ⟨((value?_bounded _).1 _ _ _ _ first).wordBounded, bounded⟩
          split at read
          · exact ih _ _ _ _ kept read
          · cases read
            exact shallowBounded_obj_reverse kept
          · cases read
        · obtain ⟨⟨kept, after⟩, step, read⟩ := Option.bind_eq_some_iff.mp read
          obtain ⟨_, -, same⟩ := Option.map_eq_some_iff.mp step
          cases same
          split at read
          · exact ih _ _ _ _ bounded read
          · cases read
            exact shallowBounded_obj_reverse bounded
          · cases read
      · cases read
    · cases read

theorem parseFields?_bounded {known : List String} {s : String} {v : Json}
    (read : parseFields? known s = some v) : ShallowBounded v := by
  unfold parseFields? at read
  dsimp only at read
  split at read
  · rename_i whole rest found
    split at read
    · cases read
      split at found
      · split at found
        · cases found
          exact fun _ mem => by cases mem
        · exact knownFields?_bounded _ _ _ _ _ _ (fun _ mem => by cases mem) found
      · exact (value?_bounded _).1 _ _ _ _ found
    · cases read
  · cases read

end RequestFirewall.Json

namespace RequestFirewall

theorem CounterRecord.word?_le {v : Json} {n : Nat} (bounded : Json.WordBounded v)
    (read : CounterRecord.word? v = some n) : n ≤ Word.max := by
  unfold CounterRecord.word? at read
  split at read
  · cases read
    exact bounded _ rfl
  · cases read

theorem CounterRecord.ofJson?_le {v : Json} {r : CounterRecord} (bounded : Json.ShallowBounded v)
    (read : CounterRecord.ofJson? v = some r) : r.value ≤ Word.max ∧ r.windowEnd ≤ Word.max := by
  unfold CounterRecord.ofJson? at read
  split at read
  · dsimp only at read
    split at read
    · rename_i _ fields _ _ valueKey value endKey windowEnd valueField endField
      simp only [bind, Option.bind_eq_some_iff, pure, Option.some.injEq] at read
      obtain ⟨count, countRead, ends, endRead, rfl⟩ := read
      have valueIn : (valueKey, value) ∈ fields.filter (fun f => f.1 == "value") := by
        rw [valueField]
        exact List.mem_singleton_self _
      have endIn : (endKey, windowEnd) ∈ fields.filter (fun f => f.1 == "window_end") := by
        rw [endField]
        exact List.mem_singleton_self _
      exact ⟨word?_le (bounded _ (List.mem_filter.mp valueIn).1) countRead,
        word?_le (bounded _ (List.mem_filter.mp endIn).1) endRead⟩
    · cases read
  · rename_i _ value windowEnd
    simp only [bind, Option.bind_eq_some_iff, pure, Option.some.injEq] at read
    obtain ⟨count, countRead, ends, endRead, rfl⟩ := read
    exact ⟨word?_le (bounded value (by simp)) countRead,
      word?_le (bounded windowEnd (by simp)) endRead⟩
  · cases read

theorem CounterRecord.decode_le (raw : String) :
    (decode raw).value ≤ Word.max ∧ (decode raw).windowEnd ≤ Word.max := by
  unfold decode
  cases parsed : Json.parseFields? ["value", "window_end"] raw with
  | none => exact ⟨Nat.zero_le _, Nat.zero_le _⟩
  | some v =>
    rw [Option.bind_some]
    cases record : ofJson? v with
    | none => exact ⟨Nat.zero_le _, Nat.zero_le _⟩
    | some r => exact ofJson?_le (Json.parseFields?_bounded parsed) record

/-- The count a loaded record holds at `now`: its value while its window lasts, and zero once
    the window is over or where nothing was loaded. -/
def recordCount (loaded : Option CounterRecord) (now : Nat) : Nat :=
  match loaded with
  | some r => if now < secsToMillis r.windowEnd then r.value else 0
  | none => 0

theorem recordCount_loadedAt_le_max (slot : Option Slot) (now : Nat) :
    recordCount (loadedAt slot now) now ≤ Word.max := by
  unfold recordCount loadedAt
  split
  · rename_i r loaded
    split at loaded
    · obtain ⟨s, -, rfl⟩ := Option.map_eq_some_iff.mp loaded
      split
      · exact (CounterRecord.decode_le s.value).1
      · exact Nat.zero_le _
    · cases loaded
  · exact Nat.zero_le _

theorem countRecord_value (loaded : Option CounterRecord) (period now : Nat) :
    (countRecord loaded period now).value = recordCount loaded now + 1 := by
  unfold countRecord recordCount
  cases loaded with
  | none => rfl
  | some r =>
    by_cases live : now < secsToMillis r.windowEnd
    · simp [live]
    · simp [live]

namespace CounterStore

/-- The count an increment of `key` at `now` carries on from: the count kept live under `key`,
    and zero where nothing live and readable is kept there. -/
def carried (s : CounterStore) (key : String) (now : Nat) : Nat :=
  match s.kind with
  | .records => recordCount (loadedAt (s.slot key) now) now
  | _ => slotCount (s.slot key) now

theorem carried_le_max (s : CounterStore) (key : String) (now : Nat) :
    s.carried key now ≤ Word.max := by
  unfold carried
  split
  · exact recordCount_loadedAt_le_max _ _
  · exact slotCount_le_max _ _

theorem increment_fst_eq_carried {s : CounterStore} (counting : s.kind ≠ .failOpen) {key : String}
    {period now : Nat} (below : s.carried key now < Word.max) :
    (s.increment key period now).1 = s.carried key now + 1 := by
  cases kind : s.kind with
  | native =>
    have fits : (countSlot (s.slot key) period now).1 ≤ Word.max := by
      rw [countSlot_fst]
      simp only [carried, kind] at below
      omega
    rw [increment_fst_of_fits kind fits, countSlot_fst, carried, kind]
  | records =>
    have fits : (countRecord (loadedAt (s.slot key) now) period now).value ≤ Word.max := by
      rw [countRecord_value]
      simp only [carried, kind] at below
      omega
    rw [(increment_of_records key now kind period fits).1, countRecord_value, carried, kind]
  | failOpen => exact absurd kind counting

theorem increment_stops_at_largest_count {s : CounterStore} (counting : s.kind ≠ .failOpen)
    {key : String} {period now : Nat} (atMax : s.carried key now = Word.max) :
    (s.increment key period now).2.overflowed = true := by
  cases kind : s.kind with
  | native =>
    have beyond : Word.max < (countSlot (s.slot key) period now).1 := by
      rw [countSlot_fst]
      simp only [carried, kind] at atMax
      omega
    rw [increment_of_native_overflow kind beyond]
    rfl
  | records =>
    have beyond : Word.max < (countRecord (loadedAt (s.slot key) now) period now).value := by
      rw [countRecord_value]
      simp only [carried, kind] at atMax
      omega
    rw [increment_of_records_overflow key now kind beyond]
    rfl
  | failOpen => exact absurd kind counting

end CounterStore

/-- An increment counts on from the count kept live under its key, a missing, expired or
    unreadable one counting as zero, and that count is a word. Below the largest word the
    increment answers one more than it, so at least one, and leaves the store running as it was;
    at the largest word the add overflows and the store stops. -/
theorem increment_overflows_only_at_largest_count {s : CounterStore}
    (counting : s.kind ≠ .failOpen) (key : String) (period now : Nat) :
    s.carried key now ≤ Word.max ∧
      (s.carried key now < Word.max →
        (s.increment key period now).1 = s.carried key now + 1 ∧
          (s.increment key period now).2.overflowed = s.overflowed) ∧
      (s.carried key now = Word.max → (s.increment key period now).2.overflowed = true) := by
  refine ⟨s.carried_le_max key now, fun below => ?_, CounterStore.increment_stops_at_largest_count counting⟩
  have count : (s.increment key period now).1 = s.carried key now + 1 :=
    CounterStore.increment_fst_eq_carried counting below
  refine ⟨count, ?_⟩
  rcases s.increment_overflowed key now period with kept | ⟨stopped, -⟩
  · exact kept
  · rw [count] at stopped
    cases stopped

theorem increment_overflows_only_at_largest_count_unreadable :
    let s : CounterStore := (CounterStore.ofKind .records).set "k" "5" none 0
    s.kind ≠ .failOpen ∧ (s.carried "k" 0 ≤ Word.max ∧
      (s.carried "k" 0 < Word.max →
        (s.increment "k" 10 0).1 = s.carried "k" 0 + 1 ∧ (s.increment "k" 10 0).2.overflowed = s.overflowed) ∧
      (s.carried "k" 0 = Word.max → (s.increment "k" 10 0).2.overflowed = true)) :=
  ⟨by decide, increment_overflows_only_at_largest_count (by decide) "k" 10 0⟩

/-- A memory counter already at the largest word overflows: the store stops, answering 0. -/
theorem increment_past_word_at_largest_count :
    (((CounterStore.ofKind .native).set "k" "18446744073709551615" none 0).increment "k" 10 0).1 = 0 ∧
      (((CounterStore.ofKind .native).set "k" "18446744073709551615" none 0).increment "k" 10 0).2.overflowed =
        true := by
  decide +kernel

end RequestFirewall
