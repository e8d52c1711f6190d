import Mathlib
import RequestFirewall.KeySource
import RequestFirewall.Proofs.Validation
/- Key sources as text. Trimming leaves a text with no blank at either end, and a text of that
   shape as it is, so trimming twice is trimming once. Reading a key source is then pinned down
   by the relation `Written` of its accepted forms, said without the reader: it accepts exactly
   these after trimming (the header name trimmed again), refuses every other text with the one
   message that quotes the trimmed text, and reads back every source it accepted from that
   source's written form, a header whose name is itself `ip` or holds `header:` included. -/
namespace RequestFirewall

namespace Text

/-- A character list with no blank character at either end, as trimming leaves it. -/
def Trimmed (cs : List Char) : Prop :=
  (∀ c ∈ cs.head?, isBlank c = false) ∧ (∀ c ∈ cs.getLast?, isBlank c = false)

theorem Trimmed.append {a b : List Char} (ta : Trimmed a) (tb : Trimmed b) : Trimmed (a ++ b) := by
  constructor
  · intro c mem
    cases a with
    | nil => exact tb.1 c mem
    | cons x xs => exact ta.1 c (by simpa using mem)
  · intro c mem
    rcases b.eq_nil_or_concat with rfl | ⟨rest, y, rfl⟩
    · exact ta.2 c (by simpa using mem)
    · exact tb.2 c (by simpa [← List.append_assoc] using mem)

theorem trimBlankList_of_trimmed {cs : List Char} (trimmed : Trimmed cs) : trimBlankList cs = cs := by
  have front : cs.dropWhile isBlank = cs := by
    rw [List.dropWhile_eq_self_iff]
    intro nonempty
    simpa using trimmed.1 cs[0] (by simp [List.head?_eq_getElem?, nonempty])
  rw [trimBlankList, front, ← List.rdropWhile, List.rdropWhile_eq_self_iff]
  intro nonempty
  simpa using trimmed.2 (cs.getLast nonempty) (by simp [List.getLast?_eq_some_getLast nonempty])

theorem trimmed_trimBlankList (cs : List Char) : Trimmed (trimBlankList cs) := by
  rw [trimBlankList, ← List.rdropWhile]
  constructor
  · intro c mem
    obtain ⟨rest, whole⟩ := List.rdropWhile_prefix isBlank (cs.dropWhile isBlank)
    -- what is kept is a prefix of what dropping the blank head left, so it starts alike
    have first : (cs.dropWhile isBlank).head? = some c := by
      rw [← whole, List.head?_append, Option.mem_def.mp mem]
      rfl
    have notBlank := List.head?_dropWhile_not isBlank cs
    rw [first] at notBlank
    exact notBlank
  · intro c mem
    have nonempty : (cs.dropWhile isBlank).rdropWhile isBlank ≠ [] := by
      rintro empty
      simp [empty] at mem
    rw [List.getLast?_eq_some_getLast nonempty, Option.mem_some_iff] at mem
    subst mem
    simpa using List.rdropWhile_last_not isBlank _ nonempty

theorem trimBlank_trimBlank (s : String) : trimBlank (trimBlank s) = trimBlank s := by
  rw [trimBlank, trimBlank, String.toList_ofList, trimBlankList_of_trimmed (trimmed_trimBlankList _)]

theorem not_isEmpty_trimBlank_iff (s : String) :
    (!(trimBlank s).isEmpty) = true ↔ ∃ c ∈ s.toList, isBlank c = false := by
  rw [Bool.not_eq_true', ← Bool.not_eq_true, trimBlank_isEmpty_iff]
  simp

end Text

namespace KeySource

/-- The written forms of key sources, as read after trimming: the three plain names, and
    `header:` before a name with some character that is not blank, which names the header
    with that name trimmed. -/
inductive Written : String → KeySource → Prop
  | ip : Written "ip" .ip
  | path : Written "path" .path
  | method : Written "method" .method
  | header {name : String} (visible : ∃ c ∈ name.toList, Text.isBlank c = false) :
      Written ("header:" ++ name) (.header (Text.trimBlank name))

theorem header_text_ne (name : String) :
    "header:" ++ name ≠ "ip" ∧ "header:" ++ name ≠ "path" ∧ "header:" ++ name ≠ "method" := by
  refine ⟨?_, ?_, ?_⟩ <;>
  · intro same
    have := congrArg String.toList same
    simp at this

theorem drop_header (name : String) : (("header:" ++ name).drop 7).toString = name := by
  rw [← String.toList_inj]
  simp [String.toList_copy_drop]

theorem isPrefixOf_header_iff (t : String) :
    "header:".isPrefixOf t = true ↔ ∃ name, t = "header:" ++ name := by
  rw [String.isPrefixOf, String.startsWith_string_iff]
  constructor
  · rintro ⟨rest, whole⟩
    refine ⟨String.ofList rest, ?_⟩
    rw [← String.toList_inj, ← whole, String.toList_append]
    simp
  · rintro ⟨name, rfl⟩
    exact ⟨name.toList, by simp⟩

theorem parse_of_written {s : String} {k : KeySource} (written : Written (Text.trimBlank s) k) :
    parse s = .ok k := by
  unfold parse
  generalize Text.trimBlank s = t at written ⊢
  cases written with
  | ip => rfl
  | path => rfl
  | method => rfl
  | header visible =>
    rename_i name
    obtain ⟨notIp, notPath, notMethod⟩ := header_text_ne name
    simp only [beq_iff_eq, notIp, notPath, notMethod, if_false, drop_header]
    rw [if_pos]
    exact Bool.and_eq_true_iff.mpr
      ⟨(isPrefixOf_header_iff _).mpr ⟨name, rfl⟩, (Text.not_isEmpty_trimBlank_iff name).mpr visible⟩

/-- Reading a key source either accepts a written form or refuses with the one message, which
    quotes the trimmed text. -/
theorem parse_cases (s : String) :
    (∃ k, parse s = .ok k ∧ Written (Text.trimBlank s) k) ∨
    parse s = .error ("unknown key source '" ++ Text.trimBlank s ++
      "' (expected ip, path, method or header:<name>)") := by
  unfold parse
  generalize Text.trimBlank s = t
  dsimp only
  split
  · rename_i isIp
    rw [beq_iff_eq.mp isIp]
    exact .inl ⟨_, rfl, .ip⟩
  · split
    · rename_i isPath
      rw [beq_iff_eq.mp isPath]
      exact .inl ⟨_, rfl, .path⟩
    · split
      · rename_i isMethod
        rw [beq_iff_eq.mp isMethod]
        exact .inl ⟨_, rfl, .method⟩
      · split
        · rename_i header
          obtain ⟨prefixed, visible⟩ := Bool.and_eq_true_iff.mp header
          obtain ⟨name, rfl⟩ := (isPrefixOf_header_iff t).mp prefixed
          rw [drop_header] at visible ⊢
          exact .inl ⟨_, rfl, .header ((Text.not_isEmpty_trimBlank_iff name).mp visible)⟩
        · exact .inr rfl

example : parse "header:\u3000" =
    .error "unknown key source 'header:' (expected ip, path, method or header:<name>)" := by
  decide +kernel

theorem written_of_parse {s : String} {k : KeySource} (parsed : parse s = .ok k) :
    Written (Text.trimBlank s) k := by
  rcases parse_cases s with ⟨k', accepted, written⟩ | refused
  · rw [accepted] at parsed
    cases parsed
    exact written
  · rw [refused] at parsed
    cases parsed

theorem parse_eq_error_iff (s e : String) :
    parse s = .error e ↔ (∀ k, ¬ Written (Text.trimBlank s) k) ∧
      e = "unknown key source '" ++ Text.trimBlank s ++ "' (expected ip, path, method or header:<name>)" := by
  constructor
  · intro refused
    refine ⟨fun k written => ?_, ?_⟩
    · rw [parse_of_written written] at refused
      cases refused
    · rcases parse_cases s with ⟨k, accepted, -⟩ | message
      · rw [accepted] at refused
        cases refused
      · rw [message] at refused
        cases refused
        rfl
  · rintro ⟨unwritten, rfl⟩
    rcases parse_cases s with ⟨k, -, written⟩ | message
    · exact absurd written (unwritten k)
    · exact message

theorem written_canonical {t : String} {k : KeySource} (written : Written t k) :
    Written (Text.trimBlank k.canonical) k := by
  cases written with
  | ip => exact .ip
  | path => exact .path
  | method => exact .method
  | header visible =>
    rename_i name
    have trimmed : Text.Trimmed (Text.trimBlank name).toList := by
      rw [Text.trimBlank, String.toList_ofList]
      exact Text.trimmed_trimBlankList _
    have visible' : ∃ c ∈ (Text.trimBlank name).toList, Text.isBlank c = false := by
      rw [← Text.not_isEmpty_trimBlank_iff, Text.trimBlank_trimBlank, Text.not_isEmpty_trimBlank_iff]
      exact visible
    have header : Text.Trimmed "header:".toList := ⟨by simp [Text.isBlank], by simp [Text.isBlank]⟩
    have canonical : Text.trimBlank (canonical (.header (Text.trimBlank name))) =
        "header:" ++ Text.trimBlank name := by
      rw [canonical, Text.trimBlank, String.toList_append,
        Text.trimBlankList_of_trimmed (header.append trimmed), ← String.toList_append,
        String.ofList_toList]
    rw [canonical]
    have := Written.header visible'
    rwa [Text.trimBlank_trimBlank] at this

/-- Reading and writing key sources agree: a source that was read reads back from its written
    form; reading accepts exactly the written forms of `Written`, after trimming; and every other
    text is refused with the message that quotes it trimmed. -/
theorem parse_accepts_exactly_written_forms (s : String) :
    (∀ k, parse s = .ok k → parse k.canonical = .ok k) ∧
    (∀ k, parse s = .ok k ↔ Written (Text.trimBlank s) k) ∧
    (∀ e, parse s = .error e ↔ (∀ k, ¬ Written (Text.trimBlank s) k) ∧
      e = "unknown key source '" ++ Text.trimBlank s ++ "' (expected ip, path, method or header:<name>)") :=
  ⟨fun _ parsed => parse_of_written (written_canonical (written_of_parse parsed)),
    fun _ => ⟨written_of_parse, parse_of_written⟩, parse_eq_error_iff s⟩

theorem parse_accepts_exactly_written_forms_padded :
    parse " header: x-user  " = .ok (.header "x-user") ∧
      parse (KeySource.header "x-user").canonical = .ok (.header "x-user") :=
  have parsed : parse " header: x-user  " = .ok (.header "x-user") := by decide +kernel
  ⟨parsed, (parse_accepts_exactly_written_forms _).1 _ parsed⟩

end KeySource

end RequestFirewall
