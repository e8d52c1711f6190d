import RequestFirewall.Proofs.Registration
/- Validating a rule set. Validation asks, in order: that every name has a character other than
   white space (the names of the safelists, blocklists, throttles, fail2bans and tracks, each kind
   in its order), that every throttle period is positive, that every fail2ban rule has a positive
   period and then a positive ban length, and that every track period is positive. It hands back
   the set itself when all is met, and otherwise refuses the first requirement that is not, naming
   its rule and why. Limits and thresholds are never asked about, so zero is a fine value for
   them. A rules file is validated the same way, on the set its registrations build. -/
namespace RequestFirewall

section Traversal

variable {α ε : Type} (g : α → Except ε PUnit)

theorem forM_eq_ok_iff (l : List α) : l.forM g = .ok () ↔ ∀ a ∈ l, g a = .ok () := by
  induction l with
  | nil => simp [pure, Except.pure]
  | cons a rest ih =>
    simp only [List.forM]
    cases first : g a with
    | error e => simp [bind, Except.bind, first]
    | ok u =>
      cases u
      simp only [bind, Except.bind]
      rw [ih]
      simp [first]

theorem forM_eq_error_iff (l : List α) (e : ε) :
    l.forM g = .error e ↔
      ∃ (pre : List α) (a : α) (post : List α), l = pre ++ a :: post ∧ (∀ b ∈ pre, g b = .ok ()) ∧
        g a = .error e := by
  induction l with
  | nil => simp [pure, Except.pure]
  | cons y rest ih =>
    simp only [List.forM]
    cases first : g y with
    | error e' =>
      simp only [bind, Except.bind, Except.error.injEq]
      constructor
      · rintro rfl
        exact ⟨[], y, rest, rfl, by simp, first⟩
      · rintro ⟨pre, a, post, split, passed, refused⟩
        cases pre with
        | nil =>
          obtain ⟨rfl, rfl⟩ := List.cons.inj split
          rw [first] at refused
          exact Except.error.inj refused
        | cons b pre =>
          obtain ⟨rfl, -⟩ := List.cons.inj split
          have passes := passed _ List.mem_cons_self
          rw [first] at passes
          cases passes
    | ok u =>
      simp only [bind, Except.bind]
      rw [ih]
      constructor
      · rintro ⟨pre, a, post, rfl, passed, refused⟩
        refine ⟨y :: pre, a, post, rfl, ?_, refused⟩
        intro b member
        rcases List.mem_cons.mp member with rfl | later
        · exact first
        · exact passed b later
      · rintro ⟨pre, a, post, split, passed, refused⟩
        cases pre with
        | nil =>
          obtain ⟨rfl, rfl⟩ := List.cons.inj split
          rw [first] at refused
          cases refused
        | cons b pre =>
          obtain ⟨rfl, rest_split⟩ := List.cons.inj split
          exact ⟨pre, a, post, rest_split, fun c member => passed c (List.mem_cons_of_mem _ member), refused⟩

theorem forIn_eq_forM {body : α → PUnit → Except ε (ForInStep PUnit)}
    (shape : ∀ a, body a () = (g a >>= fun _ => pure (.yield ()))) (l : List α) :
    forIn l () body = l.forM g := by
  induction l with
  | nil => rfl
  | cons a rest ih =>
    rw [List.forIn_cons, shape]
    simp only [List.forM]
    cases g a with
    | error e => rfl
    | ok u => exact ih

end Traversal

theorem Text.trimBlankList_eq_nil_iff (cs : List Char) :
    Text.trimBlankList cs = [] ↔ ∀ c ∈ cs, Text.isBlank c = true := by
  have rest : ∀ cs : List Char, (∀ c ∈ cs.dropWhile Text.isBlank, Text.isBlank c = true) ↔
      cs.dropWhile Text.isBlank = [] := by
    intro cs
    induction cs with
    | nil => simp
    | cons x xs ih =>
      rw [List.dropWhile_cons]
      split
      · exact ih
      · rename_i kept
        simp [kept]
  rw [Text.trimBlankList, List.reverse_eq_nil_iff, List.dropWhile_eq_nil_iff]
  simp only [List.mem_reverse]
  rw [rest, List.dropWhile_eq_nil_iff]

theorem Text.trimBlank_isEmpty_iff (s : String) :
    (Text.trimBlank s).isEmpty = true ↔ ∀ c ∈ s.toList, Text.isBlank c = true := by
  rw [String.isEmpty_iff, ← String.toList_inj, Text.trimBlank, String.toList_ofList, String.toList_empty,
    Text.trimBlankList_eq_nil_iff]

/-- One thing validation asks of a rule set. -/
inductive Requirement where
  | named (name : String)
  | positive (rule field : String) (value : Nat)

namespace Requirement

def Met : Requirement → Prop
  | .named n => ∃ c ∈ n.toList, Text.isBlank c = false
  | .positive _ _ v => 0 < v

def refusal : Requirement → InvalidRule
  | .named n => ⟨n, "name must not be empty"⟩
  | .positive rule field _ => ⟨rule, field ++ " must be greater than zero"⟩

def check : Requirement → Except InvalidRule Unit
  | .named n => if (Text.trimBlank n).isEmpty then throw ⟨n, "name must not be empty"⟩ else pure ()
  | .positive rule field v => RuleSet.requirePositive rule field v

theorem check_cases (q : Requirement) : q.Met ∧ q.check = .ok () ∨ ¬ q.Met ∧ q.check = .error q.refusal := by
  cases q with
  | named n =>
    by_cases blank : (Text.trimBlank n).isEmpty = true
    · -- an all-blank name has no character to keep
      have all := (Text.trimBlank_isEmpty_iff n).mp blank
      refine .inr ⟨?_, by simp [check, blank]; rfl⟩
      rintro ⟨c, member, kept⟩
      simp [all c member] at kept
    · obtain ⟨c, member, kept⟩ : ∃ c ∈ n.toList, Text.isBlank c = false := by
        simpa using mt (Text.trimBlank_isEmpty_iff n).mpr blank
      refine .inl ⟨⟨c, member, by simpa using kept⟩, by simp [check, blank]; rfl⟩
  | positive rule field v =>
    unfold check Met refusal RuleSet.requirePositive
    by_cases zero : v = 0
    · exact .inr ⟨by omega, by simp [zero]⟩
    · exact .inl ⟨by omega, by simp [zero]⟩

theorem check_eq_ok_iff (q : Requirement) : q.check = .ok () ↔ q.Met := by
  rcases check_cases q with ⟨met, passed⟩ | ⟨unmet, refused⟩
  · simp [met, passed]
  · simp [unmet, refused]

theorem check_eq_error_iff (q : Requirement) (e : InvalidRule) :
    q.check = .error e ↔ ¬ q.Met ∧ e = q.refusal := by
  rcases check_cases q with ⟨met, passed⟩ | ⟨unmet, refused⟩
  · simp [met, passed]
  · simp [unmet, refused, eq_comm]

end Requirement

namespace RuleSet

def requirements (s : RuleSet) : List Requirement :=
  s.names.map Requirement.named ++
    s.throttles.map (fun (r : ThrottleRule) => Requirement.positive r.name "period" r.period) ++
    s.fail2bans.flatMap (fun (r : Fail2BanRule) =>
      [Requirement.positive r.name "period" r.period, Requirement.positive r.name "ban_seconds" r.banSeconds]) ++
    s.tracks.map (fun (r : TrackRule) => Requirement.positive r.name "period" r.period)

/-- A well-formed set: every name has a character other than white space, and every throttle
    period, fail2ban period and ban length, and track period is positive. -/
def WellFormed (s : RuleSet) : Prop :=
  (∀ n ∈ s.names, ∃ c ∈ n.toList, Text.isBlank c = false) ∧ (∀ r ∈ s.throttles, 0 < r.period) ∧
    (∀ r ∈ s.fail2bans, 0 < r.period ∧ 0 < r.banSeconds) ∧ ∀ r ∈ s.tracks, 0 < r.period

/-- `e` is the refusal of the first requirement of the set that is not met. -/
def FirstViolation (s : RuleSet) (e : InvalidRule) : Prop :=
  ∃ (pre : List Requirement) (q : Requirement) (post : List Requirement),
    s.requirements = pre ++ q :: post ∧ (∀ p ∈ pre, p.Met) ∧ ¬ q.Met ∧ e = q.refusal

theorem wellFormed_iff (s : RuleSet) : s.WellFormed ↔ ∀ q ∈ s.requirements, q.Met := by
  simp only [requirements, List.forall_mem_append, List.forall_mem_map, List.forall_mem_flatMap,
    List.forall_mem_cons]
  simp [WellFormed, Requirement.Met, and_assoc]

theorem forM_flatMap {α β ε : Type} (l : List α) (f : α → List β) (g : β → Except ε PUnit) :
    forM (l.flatMap f) g = forM l fun a => forM (f a) g := by
  induction l with
  | nil => rfl
  | cons a rest ih =>
    simp only [List.flatMap_cons, List.forM_append, List.forM_cons] at ih ⊢
    rw [ih]

theorem validate_eq (s : RuleSet) : s.validate = s.requirements.forM Requirement.check >>= fun _ => pure s := by
  unfold validate
  rw [forIn_eq_forM (fun name => (Requirement.named name).check),
    forIn_eq_forM (fun r : ThrottleRule => (Requirement.positive r.name "period" r.period).check),
    forIn_eq_forM (fun r : Fail2BanRule => [Requirement.positive r.name "period" r.period,
      .positive r.name "ban_seconds" r.banSeconds].forM Requirement.check),
    forIn_eq_forM (fun r : TrackRule => (Requirement.positive r.name "period" r.period).check)]
  · simp only [requirements, List.forM_eq_forM, forM_flatMap, List.forM_append, List.forM_map, bind_assoc]
  -- each loop body checks its requirements and goes on (the goals come last loop first)
  · intro r
    rfl
  · intro r
    simp only [List.forM, Requirement.check, bind_assoc, pure_bind]
  · intro r
    rfl
  · intro name
    simp only [Requirement.check]
    split <;> rfl

theorem validate_eq_ok_iff (s : RuleSet) : s.validate = .ok s ↔ s.WellFormed := by
  rw [validate_eq, wellFormed_iff]
  cases checked : s.requirements.forM Requirement.check with
  | error e =>
    obtain ⟨pre, q, post, split, -, failed⟩ := (forM_eq_error_iff _ _ e).mp checked
    have unmet := ((Requirement.check_eq_error_iff q e).mp failed).1
    simp only [bind, Except.bind, reduceCtorEq, false_iff]
    intro met
    exact unmet (met q (by simp [split]))
  | ok u =>
    have passed := (forM_eq_ok_iff _ _).mp checked
    simp only [bind, Except.bind, pure, Except.pure, true_iff]
    exact fun q member => (Requirement.check_eq_ok_iff q).mp (passed q member)

theorem validate_eq_error_iff (s : RuleSet) (e : InvalidRule) : s.validate = .error e ↔ s.FirstViolation e := by
  rw [validate_eq]
  have refusal : (s.requirements.forM Requirement.check >>= fun _ => pure s) = .error e ↔
      s.requirements.forM Requirement.check = .error e := by
    cases s.requirements.forM Requirement.check <;> simp [bind, Except.bind, pure, Except.pure]
  rw [refusal, forM_eq_error_iff, FirstViolation]
  simp only [Requirement.check_eq_ok_iff, Requirement.check_eq_error_iff]

/-- How validation answers for a set: with the set itself exactly when it is well formed, with no
    other set, and otherwise with the refusal of its first unmet requirement. -/
structure ValidatedAs (s : RuleSet) (answer : Except InvalidRule RuleSet) : Prop where
  ok_iff : answer = .ok s ↔ s.WellFormed
  ok_eq : ∀ s', answer = .ok s' → s' = s
  error_iff : ∀ e, answer = .error e ↔ s.FirstViolation e

end RuleSet

/-- Validation refuses exactly the sets that are not well formed, and then the first unmet
    requirement in the order it asks them; a well-formed set comes back as it is. A rules file's
    set is validated so too, as the set its registrations build. -/
theorem validation_reports_first_violation :
    (∀ s : RuleSet, s.ValidatedAs s.validate) ∧
      ∀ f : RulesFile, (RuleSet.registerAll f.registrations).ValidatedAs f.ruleSet := by
  have validated : ∀ s : RuleSet, s.ValidatedAs s.validate := by
    intro s
    exact ⟨RuleSet.validate_eq_ok_iff s, fun _ passed => RuleSet.eq_of_validate passed,
      RuleSet.validate_eq_error_iff s⟩
  refine ⟨validated, fun f => ?_⟩
  rw [RulesFile.ruleSet_eq]
  exact validated _

-- a zero limit is no flaw
example : (({ throttles := [⟨"a", 0, 10, .ip⟩] } : RuleSet).validate.toOption.isSome) = true := by
  decide

end RequestFirewall
