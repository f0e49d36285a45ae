import SelfTrace.Config
import SelfTrace.Proofs.MetricNames

/-!
# Namespaces of monitors

Any text that is not blank becomes the front of the names of an agent's metrics: it is trimmed, its
letters and figures stay where they are, and each other character becomes an underscore.

* `sanitize?_eq_some_iff` — what a namespace becomes, as an equation;
* `sanitize?_eq_self_iff` — the namespaces that stay what they are are the names of labels;
* `Renders` — a text and the namespace it becomes, character by character;
* `namespace_of_text` — this for every text, and what it means for metrics and configurations.
-/

namespace SelfTrace.Metrics

/-! ## Characters -/

theorem isLetter_iff (c : Char) :
    isLetter c = true ↔ 97 ≤ c.toNat ∧ c.toNat ≤ 122 ∨ 65 ≤ c.toNat ∧ c.toNat ≤ 90 := by
  simp [isLetter, Char.le_def, UInt32.le_iff_toNat_le]

theorem isFigure_iff (c : Char) : isFigure c = true ↔ 48 ≤ c.toNat ∧ c.toNat ≤ 57 := by
  simp [isFigure, Char.le_def, UInt32.le_iff_toNat_le]

/-- A character that a label's name may start with. -/
def Starts (c : Char) : Prop := isLetter c = true ∨ c = '_'

/-- A character that a label's name may have. -/
def Named (c : Char) : Prop := Starts c ∨ isFigure c = true

theorem isLabelStart_iff (c : Char) : isLabelStart c = true ↔ Starts c := by
  rw [isLabelStart, Bool.or_eq_true, beq_iff_eq, Starts]

theorem Starts.isFigure {c : Char} (h : Starts c) : isFigure c = false := by
  rw [Bool.eq_false_iff, Ne, isFigure_iff]
  rw [Starts, isLetter_iff] at h
  rcases h with h | rfl
  · omega
  · decide

theorem Named.isBlank {c : Char} (h : Named c) : Text.isBlank c = false := by
  rw [Named, Starts, isLetter_iff, isFigure_iff] at h
  rcases h with (h | rfl) | h
  · simp [Text.isBlank]
    omega
  · decide
  · simp [Text.isBlank]
    omega

theorem isName_iff {name : List Char} : isName isLabelStart name = true ↔
    (∃ c, name.head? = some c ∧ Starts c) ∧ ∀ c ∈ name, Named c := by
  cases name with
  | nil => simp [isName]
  | cons c cs =>
    simp only [isName, Bool.and_eq_true, List.all_eq_true, Bool.or_eq_true, isLabelStart_iff,
      List.head?_cons, Option.some.injEq, exists_eq_left', List.forall_mem_cons]
    constructor
    · rintro ⟨hstarts, hrest⟩
      exact ⟨hstarts, .inl hstarts, hrest⟩
    · rintro ⟨hstarts, -, hrest⟩
      exact ⟨hstarts, hrest⟩

/-- Letters and figures stand for themselves, and an underscore for the rest. -/
theorem sanitizedChar_of_kept {c : Char} (h : isLetter c = true ∨ isFigure c = true) :
    sanitizedChar c = c := by
  rw [← Bool.or_eq_true] at h
  rw [sanitizedChar, if_pos h]

theorem sanitizedChar_of_replaced {c : Char} (h : ¬(isLetter c = true ∨ isFigure c = true)) :
    sanitizedChar c = '_' := by
  rw [← Bool.or_eq_true] at h
  rw [sanitizedChar, if_neg h]

theorem Named.sanitizedChar_eq {c : Char} (h : Named c) : sanitizedChar c = c := by
  rcases h with (hletter | rfl) | hfigure
  · exact sanitizedChar_of_kept (.inl hletter)
  · decide
  · exact sanitizedChar_of_kept (.inr hfigure)

theorem isFigure_sanitizedChar (c : Char) : isFigure (sanitizedChar c) = isFigure c := by
  by_cases hkept : isLetter c = true ∨ isFigure c = true
  · rw [sanitizedChar_of_kept hkept]
  · rw [sanitizedChar_of_replaced hkept, Bool.eq_false_iff.2 fun h => hkept (.inr h)]
    decide

/-! ## What a namespace becomes -/

/-- By how many places the characters of a text move: by one if it begins with a figure. -/
def shift (cs : List Char) : Nat := (cs.head?.any isFigure).toNat

theorem shift_cons (c : Char) (cs : List Char) : shift (c :: cs) = (isFigure c).toNat := rfl

/-- What a namespace becomes. -/
theorem sanitize?_eq_some_iff {raw ns : List Char} : sanitize? raw = some ns ↔
    Text.trim raw ≠ [] ∧
      ns = List.replicate (shift (Text.trim raw)) '_' ++ (Text.trim raw).map sanitizedChar := by
  unfold sanitize?
  cases Text.trim raw with
  | nil => simp
  | cons c cs =>
    -- the first character is a figure exactly if the one that stands for it is
    simp only [List.map_cons, isFigure_sanitizedChar, shift_cons, Option.some.injEq, ne_eq,
      reduceCtorEq, not_false_eq_true, true_and]
    cases isFigure c with
    | false => exact eq_comm
    | true => exact eq_comm

/-- The namespaces that stay what they are are the names of labels. -/
theorem sanitize?_eq_self_iff {ns : List Char} :
    sanitize? ns = some ns ↔ isName isLabelStart ns = true := by
  constructor
  · exact sanitize?_isName
  · intro hname
    obtain ⟨⟨c, hhead, hstarts⟩, hnamed⟩ := isName_iff.1 hname
    -- nothing is trimmed off, nothing is replaced and nothing is put in front
    have htrim : Text.trim ns = ns := Text.trim_eq_self fun d hd => (hnamed d hd).isBlank
    have hmap : ns.map sanitizedChar = ns := by
      rw [List.map_congr_left fun d hd => (hnamed d hd).sanitizedChar_eq, List.map_id']
    have hshift : shift ns = 0 := by
      rw [shift, hhead, Option.any_some, hstarts.isFigure, Bool.toNat_false]
    rw [sanitize?_eq_some_iff, htrim, hmap, hshift]
    refine ⟨?_, rfl⟩
    rintro rfl
    cases hhead

theorem sanitizeText?_eq_some_iff {raw ns : String} :
    sanitizeText? raw = some ns ↔ sanitize? raw.toList = some ns.toList := by
  rw [sanitizeText?, Option.map_eq_some_iff]
  constructor
  · rintro ⟨name, hname, rfl⟩
    rw [String.toList_ofList]
    exact hname
  · intro h
    exact ⟨ns.toList, h, String.ofList_toList⟩

/-- A trimmed text and the namespace it becomes. Places are counted in characters. -/
structure Renders (text ns : String) : Prop where
  /-- The namespace starts as the name of a label may, and has only characters that one may have. -/
  starts : ∃ c, ns.toList.head? = some c ∧ Starts c
  named : ∀ c ∈ ns.toList, Named c
  /-- It is longer than the text if that begins with a figure, and only then. -/
  length : ns.length = text.length + shift text.toList
  /-- Letters and figures keep their places, but for the shift. -/
  kept : ∀ (i : Nat) (c : Char), text.toList[i]? = some c → isLetter c = true ∨ isFigure c = true →
    ns.toList[i + shift text.toList]? = some c
  /-- An underscore takes the place of any other character. -/
  replaced : ∀ (i : Nat) (c : Char), text.toList[i]? = some c →
    ¬(isLetter c = true ∨ isFigure c = true) → ns.toList[i + shift text.toList]? = some '_'
  /-- To sanitize the namespace again changes nothing. -/
  again : sanitizeText? ns = some ns

theorem renders_of_sanitizeText? {raw ns : String} (h : sanitizeText? raw = some ns) :
    Renders (Text.trimmed raw) ns := by
  rw [sanitizeText?_eq_some_iff] at h
  have hname : isName isLabelStart ns.toList = true := sanitize?_isName h
  have htrimmed : (Text.trimmed raw).toList = Text.trim raw.toList := String.toList_ofList
  have hchars : ns.toList = List.replicate (shift (Text.trimmed raw).toList) '_' ++
      (Text.trimmed raw).toList.map sanitizedChar := by
    rw [htrimmed]
    exact (sanitize?_eq_some_iff.1 h).2
  -- the character of a place is found behind what was put in front
  have hplace : ∀ (i : Nat) (c : Char), (Text.trimmed raw).toList[i]? = some c →
      ns.toList[i + shift (Text.trimmed raw).toList]? = some (sanitizedChar c) := by
    intro i c hc
    rw [hchars, List.getElem?_append_right (by simp), List.length_replicate, Nat.add_sub_cancel,
      List.getElem?_map, hc]
    rfl
  exact {
    starts := (isName_iff.1 hname).1
    named := (isName_iff.1 hname).2
    length := by
      rw [← String.length_toList, hchars, List.length_append, List.length_map,
        List.length_replicate, Nat.add_comm, String.length_toList]
    kept := by
      intro i c hc hkept
      rw [hplace i c hc, sanitizedChar_of_kept hkept]
    replaced := by
      intro i c hc hreplaced
      rw [hplace i c hc, sanitizedChar_of_replaced hreplaced]
    again := sanitizeText?_eq_some_iff.2 (sanitize?_eq_self_iff.2 hname) }

/-! ## Metrics and configurations -/

theorem sanitizeText?_eq_none_iff_blank (raw : String) :
    sanitizeText? raw = none ↔ Text.blank raw = true := by
  rw [sanitizeText?, Option.map_eq_none_iff, sanitize?_eq_none_iff, Text.blank]

/-- A namespace in which a collector can be made for every agent: both its metrics have names that
are valid. -/
def Collects (ns : String) : Prop :=
  ∀ agent, ∃ c, Collector.make ns agent = .ok c ∧
    c.descriptors.map (·.name) = [ns ++ "_generator_info", ns ++ "_sender_tasks_total"] ∧
    ∀ d ∈ c.descriptors, validMetricName d.name.toList = true

theorem Sanitized.collects {ns : String} (h : Sanitized ns) : Collects ns := by
  intro agent
  refine ⟨Collector.fresh ns agent, make_of_sanitized h agent, rfl, ?_⟩
  intro d hd
  simp only [Collector.descriptors, Collector.fresh, List.mem_cons, List.not_mem_nil,
    or_false] at hd
  rcases hd with rfl | rfl
  · exact h.validMetricName_append "_generator_info" (by decide)
  · exact h.validMetricName_append "_sender_tasks_total" (by decide)

theorem sanitized_of_validate {c : Config} (h : c.validate = .ok ()) :
    ∃ ns, sanitizeText? c.metricsNamespace = some ns := by
  cases hns : sanitizeText? c.metricsNamespace with
  | some ns => exact ⟨ns, rfl⟩
  | none =>
    have hblank := (sanitizeText?_eq_none_iff_blank c.metricsNamespace).1 hns
    rw [((Config.validate_eq_ok_iff c).1 h).1] at hblank
    cases hblank

/-- Only a text of blanks has no namespace. Any other is rendered by one, in which the metrics of
every agent have valid names. So a configuration that is valid has a namespace. -/
theorem namespace_of_text :
    (∀ raw, sanitizeText? raw = none ↔ Text.blank raw = true) ∧
    (∀ raw ns, sanitizeText? raw = some ns → Renders (Text.trimmed raw) ns ∧ Collects ns) ∧
    ∀ c : Config, c.validate = .ok () → ∃ ns, sanitizeText? c.metricsNamespace = some ns := by
  refine ⟨sanitizeText?_eq_none_iff_blank, ?_, fun c => sanitized_of_validate⟩
  intro raw ns h
  have hsanitized : Sanitized ns := ⟨raw, h⟩
  exact ⟨renders_of_sanitizeText? h, hsanitized.collects⟩

/-- A text that begins with a figure only after the blank in front is gone, and goes on with a digit
that is no figure. -/
theorem namespace_of_digits :
    sanitizeText? "\u00a09\u0664 caf\u00e9\n" = some "_9__caf_" ∧
    Renders (Text.trimmed "\u00a09\u0664 caf\u00e9\n") "_9__caf_" ∧ Collects "_9__caf_" ∧
    ({} : Config).validate = .ok () ∧ ∃ ns, sanitizeText? "perfdbg" = some ns := by
  have hsanitized : sanitizeText? "\u00a09\u0664 caf\u00e9\n" = some "_9__caf_" := by decide
  have hvalid : ({} : Config).validate = .ok () := rfl
  obtain ⟨-, hnamespace, hconfig⟩ := namespace_of_text
  obtain ⟨hrenders, hcollects⟩ := hnamespace _ _ hsanitized
  exact ⟨hsanitized, hrenders, hcollects, hvalid, hconfig {} hvalid⟩

end SelfTrace.Metrics
