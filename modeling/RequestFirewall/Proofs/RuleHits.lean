import RequestFirewall.Proofs.ListPrecedence
import RequestFirewall.Proofs.Registration
import RequestFirewall.Proofs.TimedMap
/- Hits per rule. Each category counts every hit in its total, and keeps a count for at most
   `maxRulesPerCategory` (100) rule names: a name is taken on at its first hit while fewer are
   kept, and from then on counts every hit. So after any calls since the counters were made or
   last reset, a category keeps exactly the first hundred distinct rule names its hits gave, in
   order of first hit, each with all of its hits, and knows no other name; hits of names that came
   too late count only toward the total. -/
namespace RequestFirewall

theorem Table.find?_isSome_iff {α : Type} (t : Table α) (k : String) :
    (t.find? k).isSome ↔ k ∈ t.entries.map Prod.fst := by
  simp [Table.find?, List.find?_isSome]

/-- The names a category keeps after hits naming `names`: the first `maxRulesPerCategory`
    distinct ones, in order of first hit. -/
def firstRules (names : List String) : List String := names.eraseDups.take maxRulesPerCategory

section FirstRules

variable {names : List String} {r : String}

theorem nodup_firstRules (names : List String) : (firstRules names).Nodup :=
  (nodup_eraseDups names).sublist (List.take_sublist _ _)

theorem mem_of_mem_firstRules (member : r ∈ firstRules names) : r ∈ names :=
  List.mem_eraseDups.mp (List.mem_of_mem_take member)

theorem firstRules_of_mem (seen : r ∈ names) : firstRules (names ++ [r]) = firstRules names := by
  simp [firstRules, eraseDups_append_singleton, seen]

theorem firstRules_of_full (full : maxRulesPerCategory ≤ (firstRules names).length) :
    firstRules (names ++ [r]) = firstRules names := by
  have long : maxRulesPerCategory ≤ names.eraseDups.length := by
    simpa [firstRules] using full
  simp only [firstRules, eraseDups_append_singleton]
  exact List.take_append_of_le_length long

theorem firstRules_of_fresh (fresh : r ∉ firstRules names) (room : (firstRules names).length < maxRulesPerCategory) :
    firstRules (names ++ [r]) = firstRules names ++ [r] := by
  -- with room left, every distinct name is kept, so a name not kept is new
  have short : names.eraseDups.length < maxRulesPerCategory := by
    simpa [firstRules] using room
  have whole : firstRules names = names.eraseDups := List.take_of_length_le short.le
  have unseen : r ∉ names := fun seen => fresh (whole ▸ List.mem_eraseDups.mpr seen)
  simp only [firstRules, eraseDups_append_singleton, unseen, if_false]
  rw [List.take_of_length_le (by simp; omega), ← whole]
  simp [firstRules, List.take_of_length_le short.le]

end FirstRules

/-- The counts of one category agree with its hits: `total` of them, naming `names` in order. -/
structure Tallies (k : CategoryCounts) (total : Nat) (names : List String) : Prop where
  total_eq : k.total = total
  distinct : k.byRule.Distinct
  hits : ∀ n, k.byRule.find? n = if n ∈ firstRules names then some (names.count n) else none

namespace Tallies

variable {k : CategoryCounts} {total : Nat} {names : List String}

theorem empty : Tallies {} 0 [] := ⟨rfl, Table.distinct_empty, by simp [firstRules, Table.find?]⟩

theorem mem_keys (tallies : Tallies k total names) (n : String) :
    n ∈ k.byRule.entries.map Prod.fst ↔ n ∈ firstRules names := by
  rw [← Table.find?_isSome_iff, tallies.hits n]
  split <;> simp_all

theorem keys_perm (tallies : Tallies k total names) :
    (k.byRule.entries.map Prod.fst).Perm (firstRules names) :=
  (List.perm_ext_iff_of_nodup tallies.distinct (nodup_firstRules names)).mpr tallies.mem_keys

theorem size_eq (tallies : Tallies k total names) : k.byRule.size = (firstRules names).length := by
  simpa [Table.size] using tallies.keys_perm.length_eq

theorem count_append_other {r n : String} (other : n ≠ r) : (names ++ [r]).count n = names.count n := by
  simp [List.count_append, Ne.symm other]

theorem kept_of_find? (tallies : Tallies k total names) {r : String} {m : Nat}
    (found : k.byRule.find? r = some m) : r ∈ firstRules names ∧ names.count r = m := by
  have lookup := tallies.hits r
  rw [found] at lookup
  split at lookup <;> simp_all

theorem not_kept_of_find? (tallies : Tallies k total names) {r : String} (found : k.byRule.find? r = none) :
    r ∉ firstRules names := by
  intro kept
  have lookup := tallies.hits r
  simp [found, kept] at lookup

theorem hit_none (tallies : Tallies k total names) : Tallies (k.hit none) (total + 1) names :=
  ⟨by simp [CategoryCounts.hit, tallies.total_eq], tallies.distinct, tallies.hits⟩

theorem hit_kept (tallies : Tallies k total names) {r : String} {m : Nat} (found : k.byRule.find? r = some m) :
    Tallies (k.hit (some r)) (total + 1) (names ++ [r]) := by
  have kept := tallies.kept_of_find? found
  have same := firstRules_of_mem (mem_of_mem_firstRules kept.1)
  refine ⟨by simp [CategoryCounts.hit, tallies.total_eq], ?_, ?_⟩
  · simpa [CategoryCounts.hit, found] using tallies.distinct.insert r (m + 1)
  · intro n
    simp only [CategoryCounts.hit, found, Table.find?_insert, same]
    by_cases here : n = r
    · subst here
      simp [kept.1, ← kept.2]
    · rw [if_neg here, count_append_other here]
      exact tallies.hits n

theorem hit_fresh (tallies : Tallies k total names) {r : String} (found : k.byRule.find? r = none)
    (room : k.byRule.size < maxRulesPerCategory) :
    Tallies (k.hit (some r)) (total + 1) (names ++ [r]) := by
  have fresh := tallies.not_kept_of_find? found
  have grown := firstRules_of_fresh fresh (tallies.size_eq ▸ room)
  have unseen : names.count r = 0 := by
    rw [List.count_eq_zero]
    intro seen
    have whole : r ∈ (names ++ [r]).eraseDups.take maxRulesPerCategory := by
      rw [← firstRules, grown]
      simp
    simp [eraseDups_append_singleton, seen] at whole
    exact fresh (by simpa [firstRules] using whole)
  refine ⟨by simp [CategoryCounts.hit, tallies.total_eq], ?_, ?_⟩
  · simpa [CategoryCounts.hit, found, room] using tallies.distinct.insert r 1
  · intro n
    simp only [CategoryCounts.hit, found, room, if_true, Table.find?_insert, grown]
    by_cases here : n = r
    · subst here
      simp [unseen]
    · rw [if_neg here, count_append_other here, tallies.hits n]
      simp [here]

theorem hit_full (tallies : Tallies k total names) {r : String} (found : k.byRule.find? r = none)
    (full : ¬ k.byRule.size < maxRulesPerCategory) :
    Tallies (k.hit (some r)) (total + 1) (names ++ [r]) := by
  have fresh := tallies.not_kept_of_find? found
  have same := @firstRules_of_full names r (by rw [← tallies.size_eq]; omega)
  refine ⟨by simp [CategoryCounts.hit, tallies.total_eq], ?_, ?_⟩
  · simpa [CategoryCounts.hit, found, full] using tallies.distinct
  · intro n
    simp only [CategoryCounts.hit, found, full, if_false, same]
    by_cases here : n = r
    · subst here
      simp [found, fresh]
    · rw [count_append_other here]
      exact tallies.hits n

theorem hit (tallies : Tallies k total names) (rule : Option String) :
    Tallies (k.hit rule) (total + 1) (names ++ rule.toList) := by
  cases rule with
  | none => simpa using tallies.hit_none
  | some r =>
    cases found : k.byRule.find? r with
    | some m => exact tallies.hit_kept found
    | none =>
      by_cases room : k.byRule.size < maxRulesPerCategory
      · exact tallies.hit_fresh found room
      · exact tallies.hit_full found room

end Tallies

namespace Diagnostics

theorem get?_increment_self (d : Diagnostics) (c : Category) (rule : Option String) :
    (d.increment c rule).get? c = some (((d.get? c).getD {}).hit rule) := by
  unfold increment
  split
  · -- the entry of `c` is updated in place
    rename_i counts found
    obtain ⟨⟨k, v⟩, hit, rfl⟩ := Option.map_eq_some_iff.mp found
    have keyed : k = c := by simpa using List.find?_some hit
    subst keyed
    simp only [get?] at found ⊢
    rw [List.find?_map]
    simp [apply_ite Prod.fst, hit]
  · -- the category is new: its entry goes at the end
    rename_i found
    simp only [get?, Option.map_eq_none_iff] at found ⊢
    simp [List.find?_append, found]

theorem total_eq_getD (d : Diagnostics) (c : Category) : d.total c = ((d.get? c).getD {}).total := by
  cases found : d.get? c <;> simp [total, found]

theorem ruleHits_eq_getD (d : Diagnostics) (c : Category) (n : String) :
    d.ruleHits c n = (((d.get? c).getD {}).byRule.find? n).getD 0 := by
  cases found : d.get? c <;> simp [ruleHits, found, Table.find?]

def trackedRules (d : Diagnostics) (c : Category) : List String :=
  ((d.get? c).map fun k => k.byRule.entries.map Prod.fst).getD []

theorem trackedRules_eq_getD (d : Diagnostics) (c : Category) :
    d.trackedRules c = ((d.get? c).getD {}).byRule.entries.map Prod.fst := by
  cases found : d.get? c <;> simp [trackedRules, found]

end Diagnostics

def ruleNames (hs : List (Category × Option String)) (c : Category) : List String :=
  hs.filterMap fun h => if h.1 = c then h.2 else none

/-- The counters agree with a sequence of hits, category by category. -/
def Diagnostics.Follows (d : Diagnostics) (hs : List (Category × Option String)) : Prop :=
  ∀ c, Tallies ((d.get? c).getD {}) (hs.countP (·.1 == c)) (ruleNames hs c)

theorem Diagnostics.follows_empty : ({} : Diagnostics).Follows [] := fun _ => Tallies.empty

theorem Diagnostics.Follows.increment {d : Diagnostics} {hs : List (Category × Option String)}
    (follows : d.Follows hs) (c : Category) (rule : Option String) :
    (d.increment c rule).Follows (hs ++ [(c, rule)]) := by
  intro c'
  by_cases same : c = c'
  · -- the category hit counts one more hit, with its rule
    subst same
    have named : ruleNames (hs ++ [(c, rule)]) c = ruleNames hs c ++ rule.toList := by
      cases rule <;> simp [ruleNames]
    rw [get?_increment_self, Option.getD_some, List.countP_append, named]
    simpa using (follows c).hit rule
  · -- every other category is left as it was
    have named : ruleNames (hs ++ [(c, rule)]) c' = ruleNames hs c' := by
      simp [ruleNames, same]
    rw [get?_increment_of_ne d rule same, List.countP_append, named]
    simpa [same] using follows c'

inductive DiagnosticsCall where
  | increment (category : Category) (rule : Option String)
  | reset

namespace DiagnosticsCall

def apply (d : Diagnostics) : DiagnosticsCall → Diagnostics
  | .increment c rule => d.increment c rule
  | .reset => d.reset

def record (hs : List (Category × Option String)) : DiagnosticsCall → List (Category × Option String)
  | .increment c rule => hs ++ [(c, rule)]
  | .reset => []

end DiagnosticsCall

def Diagnostics.replay (calls : List DiagnosticsCall) : Diagnostics := calls.foldl DiagnosticsCall.apply {}

def recentHits (calls : List DiagnosticsCall) : List (Category × Option String) :=
  calls.foldl DiagnosticsCall.record []

theorem Diagnostics.Follows.run {d : Diagnostics} {hs : List (Category × Option String)}
    (follows : d.Follows hs) (calls : List DiagnosticsCall) :
    (calls.foldl DiagnosticsCall.apply d).Follows (calls.foldl DiagnosticsCall.record hs) := by
  induction calls generalizing d hs with
  | nil => exact follows
  | cons call rest ih =>
    cases call with
    | increment c rule => exact ih (follows.increment c rule)
    | reset => exact ih follows_empty

/-- Per-rule counts are exact for the first hundred names. After any calls, a category's total is
    the number of its hits since the counters were made or last reset; it keeps counts for exactly
    the first `maxRulesPerCategory` distinct rule names of those hits, in order of first hit; each
    such name has the number of its hits, and every other name none. -/
theorem rule_hits_exact_for_first_hundred_names (calls : List DiagnosticsCall) (c : Category) :
    let d := Diagnostics.replay calls
    let hs := recentHits calls
    d.total c = hs.countP (·.1 == c) ∧ (d.trackedRules c).Perm (firstRules (ruleNames hs c)) ∧
      ∀ n, d.ruleHits c n = if n ∈ firstRules (ruleNames hs c) then (ruleNames hs c).count n else 0 := by
  intro d hs
  have tallies : Tallies ((d.get? c).getD {}) (hs.countP (·.1 == c)) (ruleNames hs c) :=
    Diagnostics.follows_empty.run calls c
  refine ⟨?_, ?_, ?_⟩
  · rw [Diagnostics.total_eq_getD]
    exact tallies.total_eq
  · rw [Diagnostics.trackedRules_eq_getD]
    exact tallies.keys_perm
  · intro n
    rw [Diagnostics.ruleHits_eq_getD, tallies.hits n]
    split <;> rfl

end RequestFirewall
