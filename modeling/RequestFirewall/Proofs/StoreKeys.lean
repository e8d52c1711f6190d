import RequestFirewall.Key
/- Store key layout. A store key is the prefix, the kind's segment, the normalized rule and the
   normalized key, joined by `:`. The kind is always recovered under one prefix, since the four
   segments differ before their first `:` or right after it. Normalization keeps `:` (IPv6
   addresses stay readable), so the rest of the key is recovered only where `:` cannot stand:
   a prefix and a normalized rule name without `:` give back all four parts, and then the
   extracted key may hold any number of colons. With a colon in a rule name or a prefix, two
   different addresses share one text. -/
namespace RequestFirewall

theorem append_cons_eq_iff_of_not_mem {c : Char} {a b a' b' : List Char} (ha : c ∉ a)
    (ha' : c ∉ a') : a ++ c :: b = a' ++ c :: b' ↔ a = a' ∧ b = b' := by
  constructor
  · intro same
    induction a generalizing a' with
    | nil =>
      cases a' with
      | nil => simpa using same
      | cons d a' =>
        have hd : c = d := (List.cons.inj same).1
        exact absurd (hd ▸ List.mem_cons_self) ha'
    | cons d a ih =>
      cases a' with
      | nil =>
        have hd : d = c := (List.cons.inj same).1
        exact absurd (hd ▸ List.mem_cons_self) ha
      | cons d' a' =>
        obtain ⟨head, tail⟩ := List.cons.inj same
        obtain ⟨rest, after⟩ := ih (fun h => ha (List.mem_cons_of_mem d h))
          (fun h => ha' (List.mem_cons_of_mem d' h)) tail
        exact ⟨by rw [head, rest], after⟩
  · rintro ⟨rfl, rfl⟩
    rfl

namespace StoreKey

theorem render_toList (k : StoreKey) :
    k.render.toList = k.namespacePrefix.toList ++ ':' :: (k.kind.segment.toList ++ ':' ::
      ((normalizeKey k.rule).toList ++ ':' :: (normalizeKey k.key).toList)) := by
  simp [render]

theorem segment_append_eq_iff {k₁ k₂ : CounterKind} {rest₁ rest₂ : List Char} :
    k₁.segment.toList ++ ':' :: rest₁ = k₂.segment.toList ++ ':' :: rest₂ ↔
      k₁ = k₂ ∧ rest₁ = rest₂ := by
  cases k₁ <;> cases k₂ <;> simp [CounterKind.segment]

theorem kind_eq_of_render_eq {k₁ k₂ : StoreKey} (samePrefix : k₁.namespacePrefix = k₂.namespacePrefix)
    (same : k₁.render = k₂.render) : k₁.kind = k₂.kind := by
  have lists := congrArg String.toList same
  rw [render_toList, render_toList, samePrefix, List.append_cancel_left_eq, List.cons.injEq]
    at lists
  exact (segment_append_eq_iff.mp lists.2).1

theorem render_key_eq_iff {pre rule key key' : String} {kind : CounterKind} :
    render ⟨pre, kind, rule, key⟩ = render ⟨pre, kind, rule, key'⟩ ↔
      normalizeKey key = normalizeKey key' := by
  constructor
  · intro same
    have lists := congrArg String.toList same
    simp only [render_toList, List.append_cancel_left_eq, List.cons.injEq, true_and] at lists
    exact String.toList_inj.mp lists
  · intro same
    simp [render, same]

/-- Store keys whose prefix and normalized rule name hold no `:` are unambiguous: two of them
    share a text exactly when their prefixes, kinds, normalized rules and normalized keys agree. -/
theorem render_eq_iff {k₁ k₂ : StoreKey} (prefix₁ : ':' ∉ k₁.namespacePrefix.toList)
    (prefix₂ : ':' ∉ k₂.namespacePrefix.toList) (rule₁ : ':' ∉ (normalizeKey k₁.rule).toList)
    (rule₂ : ':' ∉ (normalizeKey k₂.rule).toList) :
    k₁.render = k₂.render ↔ k₁.namespacePrefix = k₂.namespacePrefix ∧ k₁.kind = k₂.kind ∧
      normalizeKey k₁.rule = normalizeKey k₂.rule ∧ normalizeKey k₁.key = normalizeKey k₂.key := by
  constructor
  · intro same
    have lists := congrArg String.toList same
    rw [render_toList, render_toList, append_cons_eq_iff_of_not_mem prefix₁ prefix₂,
      segment_append_eq_iff, append_cons_eq_iff_of_not_mem rule₁ rule₂] at lists
    obtain ⟨prefixes, kinds, rules, keys⟩ := lists
    exact ⟨String.toList_inj.mp prefixes, kinds, String.toList_inj.mp rules,
      String.toList_inj.mp keys⟩
  · rintro ⟨prefixes, kinds, rules, keys⟩
    simp [render, prefixes, kinds, rules, keys]

theorem render_eq_iff_ipv6 :
    ':' ∉ "rampart".toList ∧ ':' ∉ (normalizeKey "login").toList ∧
      (render ⟨"rampart", .fail2banBan, "login", "2001:db8::1"⟩ =
          render ⟨"rampart", .fail2banBan, "login", " 2001:db8::1 "⟩ ↔
        "rampart" = "rampart" ∧ CounterKind.fail2banBan = .fail2banBan ∧
          normalizeKey "login" = normalizeKey "login" ∧
            normalizeKey "2001:db8::1" = normalizeKey " 2001:db8::1 ") :=
  ⟨by decide, by decide, render_eq_iff (by decide) (by decide) (by decide) (by decide)⟩

/-- A colon in a rule name or a prefix lets two addresses share a text: rule `a` with key `b:c`
    and rule `a:b` with key `c`, and under prefixes `x` and `x:throttle` the throttle counters
    of rule `throttle` for key `r:k` and of rule `r` for key `k`. -/
theorem render_colon_collision :
    render ⟨"rampart", .throttle, "a", "b:c"⟩ = render ⟨"rampart", .throttle, "a:b", "c"⟩ ∧
      normalizeKey "a" ≠ normalizeKey "a:b" ∧
      render ⟨"x", .throttle, "throttle", "r:k"⟩ = render ⟨"x:throttle", .throttle, "r", "k"⟩ := by
  decide

end StoreKey

end RequestFirewall
