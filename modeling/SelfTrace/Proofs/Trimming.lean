import SelfTrace.Text.Blank

/-!
# Texts between blanks

What trimming leaves of a text, told by what it takes away.

* `Trims` — a text, and what is left of it without the blanks on either side;
* `trim_eq_iff` — trimming leaves this, and nothing else.
-/

namespace SelfTrace.Text

variable {text core : List Char}

/-- What is left of a text without the blanks on either side: only blanks are taken away, and it
neither begins nor ends with one. -/
structure Trims (text core : List Char) : Prop where
  around : ∃ front behind, text = front ++ core ++ behind ∧
    (∀ c ∈ front, isBlank c = true) ∧ ∀ c ∈ behind, isBlank c = true
  begins : ∀ c, core.head? = some c → isBlank c = false
  ends : ∀ c, core.getLast? = some c → isBlank c = false

theorem head?_trimStart {c : Char} (h : (trimStart text).head? = some c) : isBlank c = false := by
  cases hstart : trimStart text with
  | nil =>
    rw [hstart] at h
    cases h
  | cons d rest =>
    rw [hstart] at h
    rcases Option.some.inj h with rfl
    exact trimStart_head text d rest hstart

theorem getLast?_trimEnd {c : Char} (h : (trimEnd text).getLast? = some c) : isBlank c = false := by
  rw [trimEnd, List.getLast?_reverse] at h
  exact head?_trimStart h

/-- Blanks are dropped in front first; dropping those behind then leaves the first character. -/
theorem head?_trim {c : Char} (h : (trim text).head? = some c) : isBlank c = false := by
  rw [trim] at h
  cases hstart : trimStart text with
  | nil =>
    rw [hstart] at h
    cases h
  | cons d rest =>
    have hd := trimStart_head text d rest hstart
    rw [hstart, trimEnd_cons d rest hd] at h
    rcases Option.some.inj h with rfl
    exact hd

/-- What is dropped in front of a text are blanks. -/
theorem exists_blanks_trimStart (text : List Char) :
    ∃ front, text = front ++ trimStart text ∧ ∀ c ∈ front, isBlank c = true := by
  refine ⟨text.takeWhile isBlank, List.takeWhile_append_dropWhile.symm, ?_⟩
  intro c hc
  exact List.all_eq_true.1 List.all_takeWhile c hc

/-- What is dropped behind a text are blanks. -/
theorem exists_blanks_trimEnd (text : List Char) :
    ∃ behind, text = trimEnd text ++ behind ∧ ∀ c ∈ behind, isBlank c = true := by
  obtain ⟨front, htext, hfront⟩ := exists_blanks_trimStart text.reverse
  refine ⟨front.reverse, ?_, fun c hc => hfront c (List.mem_reverse.1 hc)⟩
  rw [trimEnd, ← trimStart, ← List.reverse_append, ← htext, List.reverse_reverse]

theorem trims_trim (text : List Char) : Trims text (trim text) := by
  obtain ⟨front, hstart, hfront⟩ := exists_blanks_trimStart text
  obtain ⟨behind, hend, hbehind⟩ := exists_blanks_trimEnd (trimStart text)
  refine ⟨⟨front, behind, ?_, hfront, hbehind⟩, fun c => head?_trim, fun c => getLast?_trimEnd⟩
  rw [trim, List.append_assoc, ← hend, ← hstart]

theorem trimStart_append (h : ∀ c ∈ text, isBlank c = true) (rest : List Char) :
    trimStart (text ++ rest) = trimStart rest := List.dropWhile_append_of_pos h

theorem trimStart_of_begins (h : ∀ c, text.head? = some c → isBlank c = false) :
    trimStart text = text := by
  cases text with
  | nil => rfl
  | cons c text => simp [trimStart, h c rfl]

theorem trimEnd_append (h : ∀ c ∈ text, isBlank c = true) (front : List Char) :
    trimEnd (front ++ text) = trimEnd front := by
  have hreverse : ∀ c ∈ text.reverse, isBlank c = true := fun c hc => h c (List.mem_reverse.1 hc)
  rw [trimEnd, trimEnd, List.reverse_append, List.dropWhile_append_of_pos hreverse]

theorem trimEnd_of_ends (h : ∀ c, text.getLast? = some c → isBlank c = false) :
    trimEnd text = text := by
  have hbegins : ∀ c, text.reverse.head? = some c → isBlank c = false := by
    intro c hc
    rw [List.head?_reverse] at hc
    exact h c hc
  rw [trimEnd, ← trimStart, trimStart_of_begins hbegins, List.reverse_reverse]

theorem Trims.trim_eq (h : Trims text core) : trim text = core := by
  obtain ⟨front, behind, rfl, hfront, hbehind⟩ := h.around
  rw [trim, List.append_assoc, trimStart_append hfront]
  cases core with
  | nil =>
    -- all of it is blank, and what is behind is dropped in front already
    have hnil : trimStart behind = [] :=
      (trimStart_eq_nil_iff behind).2 (List.all_eq_true.2 hbehind)
    rw [List.nil_append, hnil]
    rfl
  | cons c core =>
    have hbegins : ∀ d, (c :: core ++ behind).head? = some d → isBlank d = false :=
      fun d hd => h.begins d hd
    rw [trimStart_of_begins hbegins, trimEnd_append hbehind, trimEnd_of_ends h.ends]

/-- Trimming leaves a text without the blanks on either side, and nothing else is left so. -/
theorem trim_eq_iff : trim text = core ↔ Trims text core := by
  constructor
  · rintro rfl
    exact trims_trim text
  · exact Trims.trim_eq

end SelfTrace.Text
