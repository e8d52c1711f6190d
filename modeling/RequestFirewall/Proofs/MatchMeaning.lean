import Mathlib
import RequestFirewall.Condition
import RequestFirewall.Request.Json
/- The meaning of a match block. A block asks for each condition it carries: a path prefix, a
   whole path, a method up to ASCII case, a header with an exact value or a header at all (its
   name up to ASCII case), a client address among a list, some of a list of blocks, all of a list
   of blocks, or not a block; a block that carries nothing asks nothing. Building the block's
   condition keeps that meaning at every depth of nesting, whether the build leaves `always`, the
   lone condition, or the conjunction of several, and whatever the request, once its header names
   are in lower case as every request the program makes has them. A check reports the same
   verdict as the condition. -/
namespace RequestFirewall

namespace Text

def IsAsciiUpper (c : Char) : Prop := c.val ≥ 'A'.val ∧ c.val ≤ 'Z'.val

theorem toLower_of_not_upper {c : Char} (lower : ¬ IsAsciiUpper c) : c.toLower = c := by
  delta Char.toLower
  exact dif_neg lower

theorem not_upper_toLower (c : Char) : ¬ IsAsciiUpper c.toLower := by
  by_cases upper : IsAsciiUpper c
  · -- an upper-case letter moves 32 code points up, past `Z`
    unfold IsAsciiUpper at upper ⊢
    delta Char.toLower
    rw [dif_pos upper]
    simp only [UInt32.le_iff_toNat_le, UInt32.toNat_add, ge_iff_le] at upper ⊢
    simp at upper ⊢
    omega
  · rwa [toLower_of_not_upper upper]

theorem asciiLower_asciiLower (s : String) : asciiLower (asciiLower s) = asciiLower s := by
  unfold asciiLower
  rw [String.map_map]
  congr 1
  funext c
  exact toLower_of_not_upper (not_upper_toLower c)

theorem eqIgnoreAsciiCase_iff {a b : String} : eqIgnoreAsciiCase a b = true ↔ asciiLower a = asciiLower b := by
  simp [eqIgnoreAsciiCase]

end Text

theorem Table.mem_of_find? {α : Type} {t : Table α} {k : String} {v : α} (found : t.find? k = some v) :
    (k, v) ∈ t.entries := by
  unfold Table.find? at found
  obtain ⟨e, hit, rfl⟩ := Option.map_eq_some_iff.mp found
  have keyed : e.1 = k := by simpa using List.find?_some hit
  rw [← keyed]
  exact List.mem_of_find?_eq_some hit

namespace Request

/-- Header names are kept in ASCII lower case, the only names a lookup can find. -/
def LowerNames (r : Request) : Prop := ∀ e ∈ r.headers.entries, Text.asciiLower e.1 = e.1

theorem lowerNames_of_headers {r : Request} (none : r.headers.entries = []) : r.LowerNames := by
  intro e member
  simp [none] at member

theorem lowerNames_new (method path : String) : (Request.new method path).LowerNames :=
  lowerNames_of_headers rfl

theorem LowerNames.withHeader {r : Request} (lower : r.LowerNames) (name value : String) :
    (r.withHeader name value).LowerNames := by
  intro e member
  simp only [Request.withHeader, Table.insert, Table.erase, List.mem_cons, List.mem_filter] at member
  rcases member with rfl | ⟨kept, -⟩
  · exact Text.asciiLower_asciiLower name
  · exact lower e kept

theorem LowerNames.withClientIp {r : Request} (lower : r.LowerNames) (ip : Net.IpAddr) :
    (r.withClientIp ip).LowerNames :=
  lower

theorem lowerNames_build (p : Parts) : p.build.LowerNames := by
  have added : ∀ (hs : List (String × String)) (r : Request), r.LowerNames →
      (hs.foldl (fun r (kv : String × String) => r.withHeader kv.1 kv.2) r).LowerNames := by
    intro hs
    induction hs with
    | nil => exact fun _ lower => lower
    | cons kv rest ih => exact fun r lower => ih _ (lower.withHeader kv.1 kv.2)
  exact added _ _ (lowerNames_of_headers rfl)

theorem lowerNames_ofJson {j : Json} {r : Request} (read : ofJson j = .ok r) : r.LowerNames := by
  unfold ofJson at read
  simp only [bind, Except.bind] at read
  split at read
  · split at read
    · cases read
    · cases read
      exact lowerNames_build _
  · split at read
    · cases read
    · split at read
      · cases read
      · cases read
        exact lowerNames_build _
  · cases read

def HasHeader (r : Request) (name value : String) : Prop :=
  ∃ n, Text.asciiLower n = Text.asciiLower name ∧ r.headers.find? n = some value

theorem header_eq_some_iff {r : Request} (lower : r.LowerNames) (name value : String) :
    r.header name = some value ↔ r.HasHeader name value := by
  constructor
  · intro found
    exact ⟨Text.asciiLower name, Text.asciiLower_asciiLower name, found⟩
  · rintro ⟨n, same, found⟩
    -- a name that finds a value is stored, hence already in lower case
    have stored : Text.asciiLower n = n := lower _ (Table.mem_of_find? found)
    have named : n = Text.asciiLower name := stored.symm.trans same
    rw [Request.header, ← named]
    exact found

end Request

namespace MatchSpec

mutual

/-- What a block asks of a request: every condition it carries holds. -/
def Satisfies (r : Request) : MatchSpec → Prop
  | .mk pathPrefix path method header headerPresent ip any all negated =>
    (∀ p ∈ pathPrefix, p.toList <+: r.path.toList) ∧
    (∀ p ∈ path, r.path = p) ∧
    (∀ m ∈ method, Text.asciiLower r.method = Text.asciiLower m) ∧
    (∀ h ∈ header, r.HasHeader h.1 h.2) ∧
    (∀ n ∈ headerPresent, ∃ v, r.HasHeader n v) ∧
    (∀ addrs ∈ ip, ∃ a, r.clientIp = some a ∧ a ∈ addrs) ∧
    (match any with
      | some specs => SatisfiesSome r specs
      | none => True) ∧
    (match all with
      | some specs => SatisfiesEvery r specs
      | none => True) ∧
    (match negated with
      | some spec => ¬ Satisfies r spec
      | none => True)

def SatisfiesSome (r : Request) : List MatchSpec → Prop
  | [] => False
  | s :: rest => Satisfies r s ∨ SatisfiesSome r rest

def SatisfiesEvery (r : Request) : List MatchSpec → Prop
  | [] => True
  | s :: rest => Satisfies r s ∧ SatisfiesEvery r rest

end

theorem satisfiesSome_iff (r : Request) (specs : List MatchSpec) :
    SatisfiesSome r specs ↔ ∃ s ∈ specs, Satisfies r s := by
  induction specs with
  | nil => simp [SatisfiesSome]
  | cons s rest ih => simp [SatisfiesSome, ih]

theorem satisfiesEvery_iff (r : Request) (specs : List MatchSpec) :
    SatisfiesEvery r specs ↔ ∀ s ∈ specs, Satisfies r s := by
  induction specs with
  | nil => simp [SatisfiesEvery]
  | cons s rest ih => simp [SatisfiesEvery, ih]

theorem satisfies_empty (r : Request) : Satisfies r empty := by
  rw [empty, Satisfies.eq_def]
  simp

/-- The condition of a list of parts: `always` for none, the part itself for one, and the
    conjunction for more. -/
def conjoin : List Condition → Condition
  | [] => .always
  | [c] => c
  | cs => .allOf cs

theorem holds_conjoin (r : Request) (cs : List Condition) : (conjoin cs).holds r = cs.all (Condition.holds r) := by
  match cs with
  | [] => rfl
  | [c] => simp [conjoin]
  | c₁ :: c₂ :: rest => simp [conjoin, Condition.holds, Condition.holdsAll_eq_all]

def partsOf (pathPrefix path method : Option String) (header : Option (String × String))
    (headerPresent : Option String) (ip : Option (List Net.IpAddr)) (any all : Option (List MatchSpec))
    (negated : Option MatchSpec) : List Condition :=
  (pathPrefix.map Condition.pathPrefix).toList ++ (path.map Condition.pathIs).toList ++
    (method.map Condition.methodIs).toList ++ (header.map fun h => Condition.headerIs h.1 h.2).toList ++
    (headerPresent.map Condition.headerPresent).toList ++ (ip.map Condition.ipIn).toList ++
    (any.map fun specs => Condition.anyOf (buildAll specs)).toList ++
    (all.map fun specs => Condition.allOf (buildAll specs)).toList ++
    (negated.map fun spec => Condition.negate (build spec)).toList

-- `build` has no equation lemmas (its closing `match` overlaps), so it is opened by `rfl` once
-- the nested parts are constructors
theorem build_mk (pathPrefix path method : Option String) (header : Option (String × String))
    (headerPresent : Option String) (ip : Option (List Net.IpAddr)) (any all : Option (List MatchSpec))
    (negated : Option MatchSpec) :
    build (.mk pathPrefix path method header headerPresent ip any all negated) =
      conjoin (partsOf pathPrefix path method header headerPresent ip any all negated) := by
  cases any <;> cases all <;> cases negated <;> rfl

theorem buildAll_nil : buildAll [] = [] := rfl

theorem buildAll_cons (s : MatchSpec) (rest : List MatchSpec) :
    buildAll (s :: rest) = build s :: buildAll rest := rfl

theorem all_part {α : Type} (r : Request) (o : Option α) (f : α → Condition) (P : α → Prop)
    (meaning : ∀ a, (f a).holds r = true ↔ P a) :
    (o.map f).toList.all (Condition.holds r) = true ↔ ∀ a ∈ o, P a := by
  cases o with
  | none => simp
  | some a => simp [meaning]

section Leaves

variable {r : Request}

theorem holds_pathPrefix (p : String) : (Condition.pathPrefix p).holds r = true ↔ p.toList <+: r.path.toList := by
  simp [Condition.holds, String.isPrefixOf]

theorem holds_pathIs (p : String) : (Condition.pathIs p).holds r = true ↔ r.path = p := by
  simp [Condition.holds]

theorem holds_methodIs (m : String) :
    (Condition.methodIs m).holds r = true ↔ Text.asciiLower r.method = Text.asciiLower m := by
  simp [Condition.holds, Text.eqIgnoreAsciiCase_iff]

theorem holds_headerIs (lower : r.LowerNames) (h : String × String) :
    (Condition.headerIs h.1 h.2).holds r = true ↔ r.HasHeader h.1 h.2 := by
  simp [Condition.holds, Request.header_eq_some_iff lower]

theorem holds_headerPresent (lower : r.LowerNames) (n : String) :
    (Condition.headerPresent n).holds r = true ↔ ∃ v, r.HasHeader n v := by
  simp [Condition.holds, Option.isSome_iff_exists, Request.header_eq_some_iff lower]

theorem holds_ipIn (addrs : List Net.IpAddr) :
    (Condition.ipIn addrs).holds r = true ↔ ∃ a, r.clientIp = some a ∧ a ∈ addrs := by
  unfold Condition.holds
  cases r.clientIp <;> simp

end Leaves

mutual

theorem holds_build_iff {r : Request} (lower : r.LowerNames) :
    (s : MatchSpec) → ((build s).holds r = true ↔ Satisfies r s)
  | .mk pathPrefix path method header headerPresent ip any all negated => by
    have anyPart : ((any.map fun specs => Condition.anyOf (buildAll specs)).toList.all (Condition.holds r) = true) ↔
        (match any with
          | some specs => SatisfiesSome r specs
          | none => True) := by
      cases any with
      | none => simp
      | some specs => simpa [Condition.holds] using holdsAny_buildAll_iff lower specs
    have allPart : ((all.map fun specs => Condition.allOf (buildAll specs)).toList.all (Condition.holds r) = true) ↔
        (match all with
          | some specs => SatisfiesEvery r specs
          | none => True) := by
      cases all with
      | none => simp
      | some specs => simpa [Condition.holds] using holdsAll_buildAll_iff lower specs
    have notPart : ((negated.map fun spec => Condition.negate (build spec)).toList.all (Condition.holds r) = true) ↔
        (match negated with
          | some spec => ¬ Satisfies r spec
          | none => True) := by
      cases negated with
      | none => simp
      | some spec => simp [Condition.holds, ← holds_build_iff lower spec]
    rw [build_mk, holds_conjoin, Satisfies.eq_def, partsOf]
    simp only [List.all_append, Bool.and_eq_true, ← anyPart, ← allPart, ← notPart,
      all_part r pathPrefix _ _ holds_pathPrefix, all_part r path _ _ holds_pathIs,
      all_part r method _ _ holds_methodIs, all_part r header _ _ (holds_headerIs lower),
      all_part r headerPresent _ _ (holds_headerPresent lower), all_part r ip _ _ holds_ipIn, and_assoc]

theorem holdsAny_buildAll_iff {r : Request} (lower : r.LowerNames) :
    (specs : List MatchSpec) → (Condition.holdsAny r (buildAll specs) = true ↔ SatisfiesSome r specs)
  | [] => by simp [buildAll_nil, Condition.holdsAny, SatisfiesSome]
  | s :: rest => by
    simp [buildAll_cons, Condition.holdsAny, SatisfiesSome, holds_build_iff lower s,
      holdsAny_buildAll_iff lower rest]

theorem holdsAll_buildAll_iff {r : Request} (lower : r.LowerNames) :
    (specs : List MatchSpec) → (Condition.holdsAll r (buildAll specs) = true ↔ SatisfiesEvery r specs)
  | [] => by simp [buildAll_nil, Condition.holdsAll, SatisfiesEvery]
  | s :: rest => by
    simp [buildAll_cons, Condition.holdsAll, SatisfiesEvery, holds_build_iff lower s,
      holdsAll_buildAll_iff lower rest]

end

theorem check_isMatch (c : Condition) (r : Request) : (c.check r).isMatch = c.holds r := rfl

/-- A match block compiles to its logical meaning: the built condition holds of a request exactly
    when the block is satisfied, the block with no condition holds of every request, and a check
    of the built condition reports the same verdict. -/
theorem match_blocks_mean_their_conditions (s : MatchSpec) (r : Request) (lower : r.LowerNames) :
    ((build s).holds r = true ↔ Satisfies r s) ∧ (build empty).holds r = true ∧
      ((build s).check r).isMatch = (build s).holds r :=
  ⟨holds_build_iff lower s, (holds_build_iff lower empty).mpr (satisfies_empty r), check_isMatch _ _⟩

/-- The login filter of a fail2ban rule, at a failed login made with mixed-case names. -/
theorem match_blocks_mean_their_conditions_login :
    let s : MatchSpec := .mk none none none none none none none
      (some [.mk none none (some "post") none none none none none none,
        .mk none (some "/login") none none none none none none none,
        .mk none none none (some ("x-login-failed", "1")) none none none none none]) none
    let r := (Request.new "POST" "/login").withHeader "X-Login-Failed" "1"
    r.LowerNames ∧ ((build s).holds r = true ↔ Satisfies r s) ∧ (build empty).holds r = true ∧
      ((build s).check r).isMatch = (build s).holds r :=
  have lower := (Request.lowerNames_new "POST" "/login").withHeader "X-Login-Failed" "1"
  ⟨lower, match_blocks_mean_their_conditions _ _ lower⟩

end MatchSpec

end RequestFirewall
