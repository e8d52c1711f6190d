import RequestFirewall.Key
import RequestFirewall.Proofs.StoredCount
/- Keys in normal form. A normalized key is nonempty, at most `maxSegment` (120) characters long,
   drawn from the key alphabet `[A-Za-z0-9._:-]`, and never has two `_` side by side, whichever
   way it was made: `empty` for a blank input, the sanitized input when it is short enough, or the
   sanitized input cut to `keptPrefix` characters and tagged with `-` and twelve hex digits of
   the digest of the raw input. Conversely normalization keeps exactly the keys with these four
   properties: no key character is blank, so trimming keeps them; they have nothing to replace
   and no run of `_` to collapse, so sanitizing keeps them; and they are short enough to stay
   whole. The image of normalization is thus its set of fixed points, and normalizing twice is
   normalizing once. -/
namespace RequestFirewall

/-- A key segment in normal form: nonempty, at most `maxSegment` characters long, over the key
    alphabet, with no two `_` side by side. -/
def NormalSegment (t : String) : Prop :=
  t ≠ "" ∧ t.length ≤ maxSegment ∧ (∀ c ∈ t.toList, isKeyChar c = true) ∧ ¬['_', '_'] <:+: t.toList

-- the list instances are named, so that a check runs over the key's characters and nothing wider
instance : DecidablePred NormalSegment := fun _ =>
  @instDecidableAnd _ _ instDecidableNot
    (@instDecidableAnd _ _ (Nat.decLe _ _)
      (@instDecidableAnd _ _ (List.decidableBAll _ _)
        (@instDecidableNot _ (List.instDecidableIsInfixOfDecidableEq _ _))))

theorem normalSegment_iff (t : String) :
    NormalSegment t ↔ t.toList ≠ [] ∧ t.toList.length ≤ maxSegment ∧
      (∀ c ∈ t.toList, isKeyChar c = true) ∧ ¬['_', '_'] <:+: t.toList := by
  simp [NormalSegment, String.toList_eq_nil_iff, String.length_toList]

def keyCharOf (c : Char) : Char := if isKeyChar c then c else '_'

theorem isKeyChar_range {c : Char} (key : isKeyChar c = true) : 45 ≤ c.toNat ∧ c.toNat ≤ 122 := by
  -- the letter classes are opened by `delta`, which leaves no equation lemmas of core behind
  delta isKeyChar Char.isAlphanum Char.isAlpha Char.isUpper Char.isLower Char.isDigit at key
  simp only [Bool.or_eq_true, Bool.and_eq_true, beq_iff_eq, decide_eq_true_eq, ge_iff_le,
    UInt32.le_iff_toNat_le] at key
  have bounds : 'A'.val.toNat = 65 ∧ 'Z'.val.toNat = 90 ∧ 'a'.val.toNat = 97 ∧
      'z'.val.toNat = 122 ∧ '0'.val.toNat = 48 ∧ '9'.val.toNat = 57 := ⟨rfl, rfl, rfl, rfl, rfl, rfl⟩
  rcases key with (((((letter | letter) | digit) | rfl) | rfl) | rfl) | rfl
  · simp only [Char.toNat]; omega
  · simp only [Char.toNat]; omega
  · simp only [Char.toNat]; omega
  all_goals decide

theorem isBlank_of_isKeyChar {c : Char} (key : isKeyChar c = true) : Text.isBlank c = false :=
  Text.isBlank_eq_false_of_range (isKeyChar_range key).1 (isKeyChar_range key).2

theorem isKeyChar_keyCharOf (c : Char) : isKeyChar (keyCharOf c) = true := by
  unfold keyCharOf
  split
  · assumption
  · decide

theorem keyCharOf_of_isKeyChar {c : Char} (key : isKeyChar c = true) : keyCharOf c = c := by
  simp [keyCharOf, key]

theorem doubled_cons {c : Char} {l : List Char} :
    ['_', '_'] <:+: c :: l ↔ (c = '_' ∧ l.head? = some '_') ∨ ['_', '_'] <:+: l := by
  rw [List.infix_cons_iff]
  cases l with
  | nil => simp
  | cons d rest => simp [List.cons_prefix_cons, eq_comm]

theorem sanitize_cons (c : Char) (rest : List Char) :
    sanitize (c :: rest) =
      if keyCharOf c = '_' ∧ (sanitize rest).head? = some '_' then sanitize rest
      else keyCharOf c :: sanitize rest := by
  conv => lhs; unfold sanitize
  rw [← keyCharOf]
  split
  · rename_i tail run
    rw [run]
    by_cases under : keyCharOf c = '_' <;> simp [under]
  · rename_i tail noRun
    have : ¬(sanitize rest).head? = some '_' := by
      intro head
      cases sanitized : sanitize rest with
      | nil => simp [sanitized] at head
      | cons d tl =>
        simp only [sanitized, List.head?_cons, Option.some.injEq] at head
        subst head
        exact noRun tl sanitized
    simp [this]

theorem isKeyChar_of_mem_sanitize {c : Char} : ∀ {l : List Char}, c ∈ sanitize l → isKeyChar c = true
  | [], mem => by simp [sanitize] at mem
  | d :: rest, mem => by
    rw [sanitize_cons] at mem
    split at mem
    · exact isKeyChar_of_mem_sanitize mem
    · rcases List.mem_cons.mp mem with here | there
      · exact here ▸ isKeyChar_keyCharOf d
      · exact isKeyChar_of_mem_sanitize there

theorem not_doubled_sanitize : ∀ l : List Char, ¬['_', '_'] <:+: sanitize l
  | [] => by simp [sanitize]
  | c :: rest => by
    rw [sanitize_cons]
    split
    · exact not_doubled_sanitize rest
    · rename_i fresh
      rw [doubled_cons]
      rintro (head | later)
      · exact fresh head
      · exact not_doubled_sanitize rest later

theorem sanitize_ne_nil : ∀ {l : List Char}, l ≠ [] → sanitize l ≠ []
  | [], nonempty => absurd rfl nonempty
  | c :: rest, _ => by
    rw [sanitize_cons]
    split
    · rename_i run
      intro empty
      simp [empty] at run
    · simp

theorem sanitize_of_normal : ∀ {l : List Char}, (∀ c ∈ l, isKeyChar c = true) →
    ¬['_', '_'] <:+: l → sanitize l = l
  | [], _, _ => rfl
  | c :: rest, keys, single => by
    have restKeys : ∀ d ∈ rest, isKeyChar d = true := fun d mem => keys d (List.mem_cons_of_mem c mem)
    have restSingle : ¬['_', '_'] <:+: rest := fun later => single (doubled_cons.mpr (Or.inr later))
    rw [sanitize_cons, sanitize_of_normal restKeys restSingle,
      keyCharOf_of_isKeyChar (keys c List.mem_cons_self),
      if_neg fun head => single (doubled_cons.mpr (Or.inl head))]

theorem not_doubled_append_dash {tag : List Char} (noUnderscore : '_' ∉ tag) :
    ∀ {body : List Char}, ¬['_', '_'] <:+: body → ¬['_', '_'] <:+: body ++ '-' :: tag
  | [], _ => by
    rw [List.nil_append, doubled_cons]
    rintro (⟨dash, -⟩ | later)
    · exact absurd dash (by decide)
    · exact noUnderscore (later.subset List.mem_cons_self)
  | c :: rest, single => by
    rw [List.cons_append, doubled_cons]
    rintro (⟨rfl, head⟩ | later)
    -- a `_` at the end of the body meets the dash, never another `_`
    · cases rest with
      | nil => simp at head
      | cons d tail =>
        simp only [List.cons_append, List.head?_cons, Option.some.injEq] at head
        exact single (doubled_cons.mpr (Or.inl ⟨rfl, by simp [head]⟩))
    · exact not_doubled_append_dash noUnderscore
        (fun inner => single (doubled_cons.mpr (Or.inr inner))) later

namespace Digest.Sha1

theorem hexDigit_isKeyChar : ∀ n, n < 16 → isKeyChar (hexDigit n) = true ∧ hexDigit n ≠ '_' := by
  decide

theorem mem_hex {bytes : List UInt8} {c : Char} (mem : c ∈ (hex bytes).toList) :
    ∃ n, n < 16 ∧ c = hexDigit n := by
  simp only [hex, String.toList_ofList, List.mem_flatMap, List.mem_cons, List.not_mem_nil,
    or_false] at mem
  obtain ⟨b, -, high | low⟩ := mem
  · exact ⟨_, by have := b.toNat_lt; omega, high⟩
  · exact ⟨_, Nat.mod_lt _ (by decide), low⟩

theorem hexTag (raw : String) :
    ((hexDigest raw).toList.take 12).length = 12 ∧
      ∀ c ∈ (hexDigest raw).toList.take 12, isKeyChar c = true ∧ c ≠ '_' := by
  refine ⟨by simp [hexDigest, hex, digest, stateBytes], fun c mem => ?_⟩
  obtain ⟨n, small, rfl⟩ := mem_hex (List.mem_of_mem_take mem)
  exact hexDigit_isKeyChar n small

end Digest.Sha1

theorem normalSegment_sanitized {l : List Char} (nonempty : l ≠ [])
    (short : (sanitize l).length ≤ maxSegment) : NormalSegment (String.ofList (sanitize l)) := by
  rw [normalSegment_iff, String.toList_ofList]
  exact ⟨sanitize_ne_nil nonempty, short, fun _ mem => isKeyChar_of_mem_sanitize mem,
    not_doubled_sanitize l⟩

theorem normalSegment_cut {clean tag : List Char} (long : maxSegment < clean.length)
    (keys : ∀ c ∈ clean, isKeyChar c = true) (single : ¬['_', '_'] <:+: clean)
    (tagLength : tag.length = 12) (tagKeys : ∀ c ∈ tag, isKeyChar c = true ∧ c ≠ '_') :
    NormalSegment (String.ofList (clean.take keptPrefix) ++ "-" ++ String.ofList tag) := by
  have body : ¬['_', '_'] <:+: clean.take keptPrefix :=
    fun inner => single (inner.trans (List.take_prefix _ _).isInfix)
  have noUnderscore : '_' ∉ tag := fun mem => (tagKeys '_' mem).2 rfl
  rw [normalSegment_iff]
  simp only [String.toList_append, String.toList_ofList, List.append_assoc]
  refine ⟨by simp, ?_, fun c mem => ?_, not_doubled_append_dash noUnderscore body⟩
  · have dash : "-".toList.length = 1 := by decide +kernel
    simp only [List.length_append, List.length_take, tagLength, dash, maxSegment, keptPrefix] at long ⊢
    omega
  · simp only [List.mem_append] at mem
    rcases mem with inBody | inDash | inTag
    · exact keys c (List.mem_of_mem_take inBody)
    · simp at inDash; subst inDash; decide
    · exact (tagKeys c inTag).1

theorem normalSegment_normalizeKey (raw : String) : NormalSegment (normalizeKey raw) := by
  unfold normalizeKey
  dsimp only
  split
  · decide
  · rename_i blankOnly
    have nonempty : Text.trimBlankList raw.toList ≠ [] := by simpa using blankOnly
    split
    · rename_i short
      exact normalSegment_sanitized nonempty short
    · rename_i long
      obtain ⟨tagLength, tagKeys⟩ := Digest.Sha1.hexTag raw
      exact normalSegment_cut (Nat.lt_of_not_le long) (fun _ mem => isKeyChar_of_mem_sanitize mem)
        (not_doubled_sanitize _) tagLength tagKeys

theorem normalizeKey_of_normalSegment {t : String} (normal : NormalSegment t) :
    normalizeKey t = t := by
  obtain ⟨nonempty, short, keys, single⟩ := (normalSegment_iff t).mp normal
  have trimmed : Text.trimBlankList t.toList = t.toList :=
    Text.trimBlankList_of_forall fun c mem => isBlank_of_isKeyChar (keys c mem)
  have clean : sanitize t.toList = t.toList := sanitize_of_normal keys single
  unfold normalizeKey
  dsimp only
  rw [trimmed, if_neg (by simpa using nonempty), clean, if_pos short, String.ofList_toList]

theorem normalizeKey_eq_self_iff (t : String) : normalizeKey t = t ↔ NormalSegment t :=
  ⟨fun fixed => fixed ▸ normalSegment_normalizeKey t, normalizeKey_of_normalSegment⟩

/-- The image of key normalization is exactly its set of fixed points, the keys in normal form:
    every normalized key is nonempty, at most 120 characters long, over `[A-Za-z0-9._:-]` and
    free of two `_` side by side; normalization keeps exactly the keys with these four
    properties; so normalizing twice is normalizing once, for every input, be it trimmed,
    collapsed, beyond ASCII, or cut and tagged with its digest. -/
theorem normalized_keys_are_fixed_points :
    (∀ s : String, NormalSegment (normalizeKey s)) ∧
      (∀ t : String, normalizeKey t = t ↔ NormalSegment t) ∧
      ∀ s : String, normalizeKey (normalizeKey s) = normalizeKey s :=
  ⟨normalSegment_normalizeKey, normalizeKey_eq_self_iff,
    fun s => normalizeKey_of_normalSegment (normalSegment_normalizeKey s)⟩

example : NormalSegment "login-ip_v2" ∧ ¬NormalSegment "a__b" := by decide +kernel

end RequestFirewall
