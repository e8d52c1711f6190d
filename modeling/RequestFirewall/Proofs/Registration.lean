import Mathlib
import RequestFirewall.RulesFile
/- Registering rules. The builder keeps a list per kind, and a registration replaces the rule of
   its kind that has its name, where that rule stands, or else joins the end of the list. Over any
   history of registrations, in any interleaving of the five kinds, each kind's list thus holds
   the names registered for that kind, in the order they were first registered, each with its last
   registration; a name is used at most once per kind, though other kinds may use it, and the
   number of rules is the number of distinct kinds and names registered. A rules file registers
   its safelists, blocklists, fail2bans, throttles and tracks in that order and then validates,
   and validation hands back the set it was given when it passes. -/
namespace RequestFirewall

section Distinct

variable {α : Type} [BEq α] [LawfulBEq α]

theorem eraseDups_append_singleton (l : List α) (a : α) :
    (l ++ [a]).eraseDups = l.eraseDups ++ if a ∈ l then [] else [a] := by
  rw [List.eraseDups_append]
  by_cases seen : a ∈ l <;> simp [List.removeAll, List.eraseDups_cons, seen]

theorem nodup_eraseDups (l : List α) : l.eraseDups.Nodup := by
  induction l using List.reverseRecOn with
  | nil => simp
  | append_singleton l a ih =>
    rw [eraseDups_append_singleton]
    by_cases seen : a ∈ l
    · simpa [seen] using ih
    · rw [if_neg seen]
      refine List.nodup_append.mpr ⟨ih, List.nodup_singleton a, ?_⟩
      intro b found c single same
      rw [List.mem_singleton] at single
      exact seen (List.mem_eraseDups.mp (single ▸ same ▸ found))

end Distinct

section Upsert

variable {α : Type} [Named α]

def lastNamed (rs : List α) (n : String) : Option α := (rs.filter (Named.nameOf · == n)).getLast?

theorem lastNamed_append_self (rs : List α) (r : α) : lastNamed (rs ++ [r]) (Named.nameOf r) = some r := by
  simp [lastNamed, List.filter_append]

theorem lastNamed_append_other (rs : List α) {r : α} {n : String} (other : n ≠ Named.nameOf r) :
    lastNamed (rs ++ [r]) n = lastNamed rs n := by
  simp [lastNamed, List.filter_append, Ne.symm other]

theorem replace_names (rule : α) (rules : List α) :
    (upsert.replace rule rules).map Named.nameOf = rules.map Named.nameOf := by
  induction rules with
  | nil => rfl
  | cons r rest ih =>
    simp only [upsert.replace]
    split
    · rename_i same
      simp [beq_iff_eq.mp same]
    · simp [ih]

theorem mem_replace {rule r : α} {rules : List α} (nodup : (rules.map Named.nameOf).Nodup)
    (member : r ∈ upsert.replace rule rules) :
    r = rule ∨ r ∈ rules ∧ Named.nameOf r ≠ Named.nameOf rule := by
  induction rules with
  | nil => simp [upsert.replace] at member
  | cons r₀ rest ih =>
    simp only [List.map_cons, List.nodup_cons] at nodup
    simp only [upsert.replace] at member
    split at member
    · -- `r₀` gives way to `rule`; the rules after it have other names than `r₀`, so than `rule`
      rename_i same
      rcases List.mem_cons.mp member with rfl | later
      · exact .inl rfl
      · refine .inr ⟨List.mem_cons_of_mem _ later, fun clash => nodup.1 ?_⟩
        rw [beq_iff_eq.mp same, ← clash]
        exact List.mem_map_of_mem later
    · rename_i other
      rcases List.mem_cons.mp member with rfl | later
      · exact .inr ⟨List.mem_cons_self, by simpa using other⟩
      · rcases ih nodup.2 later with rfl | ⟨kept, differs⟩
        · exact .inl rfl
        · exact .inr ⟨List.mem_cons_of_mem _ kept, differs⟩

theorem any_named_iff (rules : List α) (rule : α) :
    rules.any (fun r => Named.nameOf r == Named.nameOf rule) = true ↔
      Named.nameOf rule ∈ rules.map Named.nameOf := by
  rw [List.any_eq_true, List.mem_map]
  simp only [beq_iff_eq]

theorem upsert_names (rules : List α) (rule : α) :
    (upsert rules rule).map Named.nameOf =
      rules.map Named.nameOf ++ if Named.nameOf rule ∈ rules.map Named.nameOf then [] else [Named.nameOf rule] := by
  unfold upsert
  by_cases named : Named.nameOf rule ∈ rules.map Named.nameOf
  · rw [if_pos ((any_named_iff rules rule).mpr named), replace_names, if_pos named, List.append_nil]
  · rw [if_neg (mt (any_named_iff rules rule).mp named), if_neg named, List.map_append]
    rfl

theorem mem_upsert {rules : List α} {rule r : α} (nodup : (rules.map Named.nameOf).Nodup)
    (member : r ∈ upsert rules rule) : r = rule ∨ r ∈ rules ∧ Named.nameOf r ≠ Named.nameOf rule := by
  unfold upsert at member
  split at member
  · exact mem_replace nodup member
  · rename_i absent
    rcases List.mem_append.mp member with kept | fresh
    · refine .inr ⟨kept, fun same => absent ((any_named_iff rules rule).mpr ?_)⟩
      rw [← same]
      exact List.mem_map_of_mem kept
    · exact .inl (List.mem_singleton.mp fresh)

/-- What a history `rs` of registrations of one kind leaves: one rule per name, in the order the
    names were first registered, each the last registration of its name. -/
structure Settled (rs kept : List α) : Prop where
  names : kept.map Named.nameOf = (rs.map Named.nameOf).eraseDups
  latest : ∀ r ∈ kept, lastNamed rs (Named.nameOf r) = some r

variable {rs kept : List α}

theorem Settled.nodup (settled : Settled rs kept) : (kept.map Named.nameOf).Nodup :=
  settled.names ▸ nodup_eraseDups _

theorem Settled.mem_names (settled : Settled rs kept) (n : String) :
    n ∈ kept.map Named.nameOf ↔ n ∈ rs.map Named.nameOf := by
  rw [settled.names, List.mem_eraseDups]

theorem settled_nil : Settled ([] : List α) [] := ⟨rfl, by simp⟩

theorem Settled.step (settled : Settled rs kept) (r : α) : Settled (rs ++ [r]) (upsert kept r) where
  names := by
    rw [upsert_names, settled.names, List.map_append, List.map_singleton, eraseDups_append_singleton]
    simp only [List.mem_eraseDups]
  latest := by
    intro r' member
    rcases mem_upsert settled.nodup member with rfl | ⟨kept', other⟩
    · exact lastNamed_append_self rs r'
    · rw [lastNamed_append_other rs other]
      exact settled.latest r' kept'

theorem Settled.run (settled : Settled rs kept) (more : List α) :
    Settled (rs ++ more) (more.foldl upsert kept) := by
  induction more generalizing rs kept with
  | nil => simpa using settled
  | cons r rest ih => simpa using ih (settled.step r)

theorem settled_foldl (rs : List α) : Settled rs (rs.foldl upsert []) := by
  simpa using settled_nil.run rs

end Upsert

inductive RuleKind where
  | safelist
  | blocklist
  | throttle
  | fail2ban
  | track
  deriving DecidableEq

def RuleKind.all : List RuleKind := [.safelist, .blocklist, .throttle, .fail2ban, .track]

theorem RuleKind.mem_all (k : RuleKind) : k ∈ RuleKind.all := by
  cases k <;> simp [RuleKind.all]

inductive Registration where
  | safelist (rule : SafelistRule)
  | blocklist (rule : BlocklistRule)
  | throttle (rule : ThrottleRule)
  | fail2ban (rule : Fail2BanRule)
  | track (rule : TrackRule)

namespace Registration

def register (s : RuleSet) : Registration → RuleSet
  | .safelist r => s.addSafelist r
  | .blocklist r => s.addBlocklist r
  | .throttle r => s.addThrottle r
  | .fail2ban r => s.addFail2Ban r
  | .track r => s.addTrack r

def safelist? : Registration → Option SafelistRule
  | .safelist r => some r
  | _ => none

def blocklist? : Registration → Option BlocklistRule
  | .blocklist r => some r
  | _ => none

def throttle? : Registration → Option ThrottleRule
  | .throttle r => some r
  | _ => none

def fail2ban? : Registration → Option Fail2BanRule
  | .fail2ban r => some r
  | _ => none

def track? : Registration → Option TrackRule
  | .track r => some r
  | _ => none

def key : Registration → RuleKind × String
  | .safelist r => (.safelist, r.name)
  | .blocklist r => (.blocklist, r.name)
  | .throttle r => (.throttle, r.name)
  | .fail2ban r => (.fail2ban, r.name)
  | .track r => (.track, r.name)

def nameAs (k : RuleKind) (reg : Registration) : Option String :=
  if reg.key.1 = k then some reg.key.2 else none

theorem mem_map_key (regs : List Registration) (k : RuleKind) (n : String) :
    (k, n) ∈ regs.map key ↔ n ∈ regs.filterMap (nameAs k) := by
  simp only [List.mem_map, List.mem_filterMap, nameAs, Option.ite_none_right_eq_some, Option.some.injEq]
  constructor
  · rintro ⟨reg, member, keyed⟩
    exact ⟨reg, member, by simp [keyed]⟩
  · rintro ⟨reg, member, kind, named⟩
    exact ⟨reg, member, Prod.ext kind named⟩

theorem names_filterMap {α : Type} [Named α] (pick : Registration → Option α) (k : RuleKind)
    (agree : ∀ reg, (pick reg).map Named.nameOf = reg.nameAs k) (regs : List Registration) :
    (regs.filterMap pick).map Named.nameOf = regs.filterMap (nameAs k) := by
  rw [List.map_filterMap]
  exact List.filterMap_congr fun reg _ => agree reg

end Registration

namespace RuleSet

def registerAll (regs : List Registration) : RuleSet := regs.foldl Registration.register empty

def namesOf (s : RuleSet) : RuleKind → List String
  | .safelist => s.safelists.map (·.name)
  | .blocklist => s.blocklists.map (·.name)
  | .throttle => s.throttles.map (·.name)
  | .fail2ban => s.fail2bans.map (·.name)
  | .track => s.tracks.map (·.name)

def keys (s : RuleSet) : List (RuleKind × String) :=
  RuleKind.all.flatMap fun k => (s.namesOf k).map (k, ·)

theorem size_eq_length_keys (s : RuleSet) : s.size = s.keys.length := by
  simp [size, keys, namesOf, RuleKind.all]
  omega

theorem mem_keys_iff (s : RuleSet) (k : RuleKind) (n : String) : (k, n) ∈ s.keys ↔ n ∈ s.namesOf k := by
  simp [keys, RuleKind.mem_all]

/-- No kind of a set uses a name twice. -/
def UniqueNames (s : RuleSet) : Prop := ∀ k, (s.namesOf k).Nodup

theorem UniqueNames.nodup_keys {s : RuleSet} (unique : s.UniqueNames) : s.keys.Nodup := by
  rw [keys, List.nodup_flatMap]
  refine ⟨fun k _ => (unique k).map (Prod.mk_right_injective k), ?_⟩
  have apart : ∀ a b : RuleKind, a ≠ b → List.Disjoint ((s.namesOf a).map (a, ·)) ((s.namesOf b).map (b, ·)) := by
    intro a b differ key left right
    obtain ⟨_, _, rfl⟩ := List.mem_map.mp left
    obtain ⟨_, _, same⟩ := List.mem_map.mp right
    exact differ (congrArg Prod.fst same).symm
  have distinct : RuleKind.all.Pairwise (· ≠ ·) := by decide
  exact distinct.imp fun differ => apart _ _ differ

/-- Each kind's list of a set is what that kind's registrations of a history leave. -/
structure Settles (s : RuleSet) (regs : List Registration) : Prop where
  safelists : Settled (regs.filterMap Registration.safelist?) s.safelists
  blocklists : Settled (regs.filterMap Registration.blocklist?) s.blocklists
  throttles : Settled (regs.filterMap Registration.throttle?) s.throttles
  fail2bans : Settled (regs.filterMap Registration.fail2ban?) s.fail2bans
  tracks : Settled (regs.filterMap Registration.track?) s.tracks

end RuleSet

theorem foldl_register_kind {α : Type} [Named α] (field : RuleSet → List α) (pick : Registration → Option α)
    (step : ∀ s reg, field (reg.register s) = (pick reg).elim (field s) (upsert (field s)))
    (regs : List Registration) (s : RuleSet) :
    field (regs.foldl Registration.register s) = (regs.filterMap pick).foldl upsert (field s) := by
  induction regs generalizing s with
  | nil => rfl
  | cons reg rest ih =>
    rw [List.foldl_cons, ih, List.filterMap_cons, step]
    cases pick reg <;> rfl

theorem settled_registerAll {α : Type} [Named α] (field : RuleSet → List α) (pick : Registration → Option α)
    (step : ∀ s reg, field (reg.register s) = (pick reg).elim (field s) (upsert (field s)))
    (start : field RuleSet.empty = []) (regs : List Registration) :
    Settled (regs.filterMap pick) (field (RuleSet.registerAll regs)) := by
  rw [RuleSet.registerAll, foldl_register_kind field pick step, start]
  exact settled_foldl _

theorem settles_registerAll (regs : List Registration) : (RuleSet.registerAll regs).Settles regs where
  safelists :=
    settled_registerAll RuleSet.safelists Registration.safelist? (fun s reg => by cases reg <;> rfl) rfl regs
  blocklists :=
    settled_registerAll RuleSet.blocklists Registration.blocklist? (fun s reg => by cases reg <;> rfl) rfl regs
  throttles :=
    settled_registerAll RuleSet.throttles Registration.throttle? (fun s reg => by cases reg <;> rfl) rfl regs
  fail2bans :=
    settled_registerAll RuleSet.fail2bans Registration.fail2ban? (fun s reg => by cases reg <;> rfl) rfl regs
  tracks :=
    settled_registerAll RuleSet.tracks Registration.track? (fun s reg => by cases reg <;> rfl) rfl regs

namespace RuleSet.Settles

variable {s : RuleSet} {regs : List Registration}

theorem mem_namesOf (settles : s.Settles regs) (k : RuleKind) (n : String) :
    n ∈ s.namesOf k ↔ n ∈ regs.filterMap (Registration.nameAs k) := by
  cases k
  · rw [← Registration.names_filterMap Registration.safelist? .safelist (fun reg => by cases reg <;> rfl)]
    exact settles.safelists.mem_names n
  · rw [← Registration.names_filterMap Registration.blocklist? .blocklist (fun reg => by cases reg <;> rfl)]
    exact settles.blocklists.mem_names n
  · rw [← Registration.names_filterMap Registration.throttle? .throttle (fun reg => by cases reg <;> rfl)]
    exact settles.throttles.mem_names n
  · rw [← Registration.names_filterMap Registration.fail2ban? .fail2ban (fun reg => by cases reg <;> rfl)]
    exact settles.fail2bans.mem_names n
  · rw [← Registration.names_filterMap Registration.track? .track (fun reg => by cases reg <;> rfl)]
    exact settles.tracks.mem_names n

theorem uniqueNames (settles : s.Settles regs) : s.UniqueNames := by
  intro k
  cases k
  · exact settles.safelists.nodup
  · exact settles.blocklists.nodup
  · exact settles.throttles.nodup
  · exact settles.fail2bans.nodup
  · exact settles.tracks.nodup

theorem size_eq (settles : s.Settles regs) : s.size = (regs.map Registration.key).toFinset.card := by
  rw [size_eq_length_keys, ← List.toFinset_card_of_nodup settles.uniqueNames.nodup_keys]
  congr 1
  ext ⟨k, n⟩
  rw [List.mem_toFinset, List.mem_toFinset, mem_keys_iff, settles.mem_namesOf, Registration.mem_map_key]

end RuleSet.Settles

/-- The registrations a rules file makes, in the order it makes them: safelists, blocklists,
    fail2bans, throttles, tracks. -/
def RulesFile.registrations (f : RulesFile) : List Registration :=
  f.safelist.map (fun (r : MatchRule) => Registration.safelist ⟨r.name, r.spec.build⟩) ++
    f.blocklist.map (fun (r : MatchRule) => Registration.blocklist ⟨r.name, r.spec.build⟩) ++
    f.fail2ban.map (fun (r : Fail2BanSpec) =>
      Registration.fail2ban ⟨r.name, r.threshold, r.period, r.banSeconds, r.filter.build, r.key⟩) ++
    f.throttle.map (fun (r : ThrottleSpec) => Registration.throttle ⟨r.name, r.limit, r.period, r.key⟩) ++
    f.track.map (fun (r : TrackSpec) => Registration.track ⟨r.name, r.period, r.filter.build, r.key⟩)

theorem RulesFile.ruleSet_eq (f : RulesFile) : f.ruleSet = (RuleSet.registerAll f.registrations).validate := by
  simp only [RulesFile.ruleSet, RuleSet.registerAll, RulesFile.registrations, List.foldl_append, List.foldl_map]
  rfl

theorem Except.ok_of_bind_ok {ε α β : Type} {x : Except ε α} {k : α → Except ε β} {v : β}
    (done : (x >>= k) = .ok v) : ∃ a, x = .ok a ∧ k a = .ok v := by
  cases x with
  | error e => cases done
  | ok a => exact ⟨a, rfl, done⟩

theorem RuleSet.eq_of_validate {s s' : RuleSet} (passed : s.validate = .ok s') : s' = s := by
  unfold RuleSet.validate at passed
  obtain ⟨_, _, passed⟩ := Except.ok_of_bind_ok passed
  obtain ⟨_, _, passed⟩ := Except.ok_of_bind_ok passed
  obtain ⟨_, _, passed⟩ := Except.ok_of_bind_ok passed
  obtain ⟨_, _, passed⟩ := Except.ok_of_bind_ok passed
  cases passed
  rfl

/-- Registration keeps a name's first place and its last value. After any history of
    registrations, each kind's list holds the names registered for that kind in the order they were
    first registered, each with its last registration; no kind uses a name twice, and the set counts
    the distinct kinds and names registered. Validation hands back that very set when it passes, and
    a rules file builds the set of its own registrations. -/
theorem registration_keeps_first_place_last_value (regs : List Registration) (f : RulesFile) :
    (RuleSet.registerAll regs).Settles regs ∧ (RuleSet.registerAll regs).UniqueNames ∧
      (RuleSet.registerAll regs).size = (regs.map Registration.key).toFinset.card ∧
      (∀ s, (RuleSet.registerAll regs).validate = .ok s → s = RuleSet.registerAll regs) ∧
      ∀ s, f.ruleSet = .ok s → s = RuleSet.registerAll f.registrations := by
  have settles := settles_registerAll regs
  refine ⟨settles, settles.uniqueNames, settles.size_eq, fun s passed => RuleSet.eq_of_validate passed, ?_⟩
  intro s built
  rw [RulesFile.ruleSet_eq] at built
  exact RuleSet.eq_of_validate built

-- a name registered again keeps its first place and takes its new limit and period
example : ((RuleSet.registerAll [.throttle ⟨"a", 1, 10, .ip⟩, .throttle ⟨"b", 2, 10, .ip⟩,
    .throttle ⟨"a", 5, 30, .ip⟩]).throttles.map fun r => (r.name, r.limit, r.period)) =
    [("a", 5, 30), ("b", 2, 10)] := by
  decide

end RequestFirewall
