import Mathlib.Data.List.TakeWhile
import SelfTrace.Tool.Template

/-!
# Names in braces

Where the names of a template stand, told by the text alone and apart from how a template is read.

* `Slot` — a name in braces, somewhere in a text;
* `parts_induction` — a text is read from the left, one slot or one character at a time;
* `missing?_eq_some_iff`, `missing?_eq_none_iff` — the name that is reported is the leftmost unknown
  one in braces, if there is any;
* `fill_eq` — a template is filled exactly if no name is missing, each slot with its value.
-/

namespace SelfTrace.Template

/-! ## Slots -/

/-- Small letters and underscores, at least one: what may stand in braces for a value. -/
def IsName (name : List Char) : Prop := name ≠ [] ∧ ∀ c ∈ name, isNameChar c = true

/-- A name in braces, between two pieces of a text. -/
structure Slot (text before name after : List Char) : Prop where
  text_eq : text = before ++ '\x7b' :: (name ++ '\x7d' :: after)
  isName : IsName name

/-- All names in braces are known. -/
def AllKnown (known : List (List Char)) (text : List Char) : Prop :=
  ∀ before name after, Slot text before name after → name ∈ known

/-- The leftmost name in braces that is none of the known ones. -/
def LeftmostUnknown (known : List (List Char)) (text name : List Char) : Prop :=
  ∃ before after, Slot text before name after ∧ name ∉ known ∧
    ∀ before' name' after', Slot text before' name' after' →
      before'.length < before.length → name' ∈ known

theorem IsName.brace_not_mem {name : List Char} (h : IsName name) : '\x7b' ∉ name := by
  intro hmem
  have hchar := h.2 _ hmem
  revert hchar
  decide

theorem slotName?_eq_some_iff (tail name : List Char) :
    slotName? tail = some name ↔ IsName name ∧ ∃ after, tail = name ++ '\x7d' :: after := by
  constructor
  · intro h
    simp only [slotName?, Option.ite_none_right_eq_some, Option.some.injEq, Bool.and_eq_true,
      Bool.not_eq_eq_eq_not, Bool.not_true, beq_iff_eq] at h
    obtain ⟨⟨hne, hclose⟩, rfl⟩ := h
    obtain ⟨after, hafter⟩ := List.head?_eq_some_iff.1 hclose
    refine ⟨⟨?_, fun c hc => List.mem_takeWhile_imp hc⟩, after, ?_⟩
    · rintro hnil
      rw [hnil] at hne
      cases hne
    · rw [← hafter, List.takeWhile_append_dropWhile]
  · rintro ⟨⟨hne, hchars⟩, after, rfl⟩
    have hclose : isNameChar '\x7d' = false := by decide
    have htake : (name ++ '\x7d' :: after).takeWhile isNameChar = name := by
      rw [List.takeWhile_append_of_pos hchars, List.takeWhile_cons, hclose]
      simp
    have hdrop : (name ++ '\x7d' :: after).dropWhile isNameChar = '\x7d' :: after := by
      rw [List.dropWhile_append_of_pos hchars, List.dropWhile_cons, hclose]
      simp
    have hnotEmpty : name.isEmpty = false := by simpa using hne
    simp [slotName?, htake, hdrop, hnotEmpty]

/-- An opening brace further right does not change what is read in front of it. -/
theorem slotName?_append_brace (cs rest : List Char) :
    slotName? (cs ++ '\x7b' :: rest) = slotName? cs := by
  ext name
  rw [slotName?_eq_some_iff, slotName?_eq_some_iff]
  constructor
  · rintro ⟨hname, after, htext⟩
    refine ⟨hname, ?_⟩
    rcases List.append_eq_append_iff.1 htext with ⟨more, hmore, hrest⟩ | ⟨more, hmore, hrest⟩
    · -- the name would reach beyond the brace
      cases more with
      | nil => cases hrest
      | cons c more =>
        cases hrest
        exact absurd (hmore ▸ by simp) hname.brace_not_mem
    · cases more with
      | nil => cases hrest
      | cons c more =>
        cases hrest
        exact ⟨more, hmore⟩
  · rintro ⟨hname, after, rfl⟩
    exact ⟨hname, after ++ '\x7b' :: rest, by simp⟩

/-- Slots do not overlap: one further left is closed in front of the next. -/
theorem Slot.within {text before name after before' name' after' : List Char}
    (h : Slot text before name after) (h' : Slot text before' name' after')
    (hlt : before'.length < before.length) : ∃ between, Slot before before' name' between := by
  have htexts := h'.text_eq.symm.trans h.text_eq
  obtain ⟨more, hmore, hrest⟩ : ∃ more, before = before' ++ more ∧
      '\x7b' :: (name' ++ '\x7d' :: after') = more ++ '\x7b' :: (name ++ '\x7d' :: after) := by
    rcases List.append_eq_append_iff.1 htexts with ⟨more, hbefore, hrest⟩ | ⟨more, hbefore, -⟩
    · exact ⟨more, hbefore, hrest⟩
    · rw [hbefore, List.length_append] at hlt
      omega
  cases more with
  | nil =>
    rw [hmore, List.append_nil] at hlt
    omega
  | cons c more =>
    obtain ⟨rfl, htail⟩ := List.cons.inj hrest
    have hread := (slotName?_eq_some_iff _ name').2 ⟨h'.isName, after', rfl⟩
    rw [htail] at hread
    obtain ⟨-, between, rfl⟩ :=
      (slotName?_eq_some_iff more name').1 ((slotName?_append_brace more _).symm.trans hread)
    exact ⟨between, hmore, h'.isName⟩

/-- A slot in front of another is one of the whole text. -/
theorem Slot.of_within {text before name after before' name' between : List Char}
    (h : Slot text before name after) (h' : Slot before before' name' between) :
    Slot text before' name' (between ++ '\x7b' :: (name ++ '\x7d' :: after)) := by
  refine ⟨?_, h'.isName⟩
  rw [h.text_eq, h'.text_eq]
  simp

/-! ## Reading from the left -/

theorem parts_slot {name : List Char} (h : IsName name) (after : List Char) :
    parts ('\x7b' :: (name ++ '\x7d' :: after)) = .slot name :: parts after := by
  have hread := (slotName?_eq_some_iff (name ++ '\x7d' :: after) name).2 ⟨h, after, rfl⟩
  rw [parts, partsFrom]
  simp only [beq_self_eq_true, if_true, hread]
  rw [partsFrom_eq_parts_drop]
  simp

theorem parts_char {c : Char} {cs : List Char} (h : c = '\x7b' → slotName? cs = none) :
    parts (c :: cs) = .char c :: parts cs := by
  rw [parts, partsFrom]
  by_cases hc : c = '\x7b'
  · simp only [hc, beq_self_eq_true, if_true, h hc]
    rfl
  · simp only [beq_eq_false_iff_ne.2 hc, Bool.false_eq_true, if_false]
    rfl

/-- A text is read from the left: it starts with a slot, or with a character that stands for
itself. -/
@[elab_as_elim]
theorem parts_induction {motive : List Char → Prop} (nil : motive [])
    (slot : ∀ name after, IsName name → motive after →
      motive ('\x7b' :: (name ++ '\x7d' :: after)))
    (char : ∀ c cs, (c = '\x7b' → slotName? cs = none) → motive cs → motive (c :: cs))
    (text : List Char) : motive text := by
  induction hlength : text.length using Nat.strong_induction_on generalizing text with
  | _ length ih =>
    cases text with
    | nil => exact nil
    | cons c cs =>
      rw [List.length_cons] at hlength
      by_cases h : c = '\x7b' ∧ slotName? cs ≠ none
      · obtain ⟨rfl, hslot⟩ := h
        obtain ⟨name, hread⟩ := Option.ne_none_iff_exists'.1 hslot
        obtain ⟨hname, after, rfl⟩ := (slotName?_eq_some_iff cs name).1 hread
        refine slot name after hname (ih after.length ?_ after rfl)
        simp only [List.length_append, List.length_cons] at hlength
        omega
      · rw [not_and, not_not] at h
        exact char c cs h (ih cs.length (by omega) cs rfl)

/-- What is in front of an opening brace is read as if it stood alone. -/
theorem parts_append_brace (before rest : List Char) :
    parts (before ++ '\x7b' :: rest) = parts before ++ parts ('\x7b' :: rest) := by
  induction before using parts_induction with
  | nil => rfl
  | slot name after hname ih =>
    have hassoc : '\x7b' :: (name ++ '\x7d' :: after) ++ '\x7b' :: rest =
        '\x7b' :: (name ++ '\x7d' :: (after ++ '\x7b' :: rest)) := by simp
    rw [hassoc, parts_slot hname, parts_slot hname, ih, List.cons_append]
  | char c cs h ih =>
    have hlonger : c = '\x7b' → slotName? (cs ++ '\x7b' :: rest) = none := by
      rw [slotName?_append_brace]
      exact h
    rw [List.cons_append, parts_char hlonger, parts_char h, ih, List.cons_append]

theorem Slot.parts_eq {text before name after : List Char} (h : Slot text before name after) :
    parts text = parts before ++ .slot name :: parts after := by
  rw [h.text_eq, parts_append_brace, parts_slot h.isName]

/-- Each slot that is read stands in the text. -/
theorem slot_of_parts {text name : List Char} {l₁ l₂ : List Part}
    (h : parts text = l₁ ++ .slot name :: l₂) :
    ∃ before after, Slot text before name after ∧ parts before = l₁ := by
  induction text using parts_induction generalizing l₁ with
  | nil => cases l₁ <;> cases h
  | slot first after hfirst ih =>
    rw [parts_slot hfirst] at h
    cases l₁ with
    | nil =>
      cases h
      exact ⟨[], after, ⟨rfl, hfirst⟩, rfl⟩
    | cons p l₁ =>
      obtain ⟨rfl, hrest⟩ := List.cons.inj h
      obtain ⟨before, after', ⟨rfl, hname⟩, rfl⟩ := ih hrest
      exact ⟨'\x7b' :: (first ++ '\x7d' :: before), after', ⟨by simp, hname⟩,
        parts_slot hfirst before⟩
  | char c cs hc ih =>
    rw [parts_char hc] at h
    cases l₁ with
    | nil => cases h
    | cons p l₁ =>
      obtain ⟨rfl, hrest⟩ := List.cons.inj h
      obtain ⟨before, after', ⟨rfl, hname⟩, rfl⟩ := ih hrest
      refine ⟨c :: before, after', ⟨rfl, hname⟩, parts_char ?_⟩
      rwa [slotName?_append_brace] at hc

/-! ## Missing names -/

/-- The name of a part, if it is none of the known ones. -/
def Part.unknown? (known : List (List Char)) : Part → Option (List Char)
  | .char _ => none
  | .slot name => if known.contains name then none else some name

/-- The leftmost name of a text that is none of the known ones. -/
def missing? (known : List (List Char)) (text : List Char) : Option (List Char) :=
  (parts text).findSome? (Part.unknown? known)

theorem Part.unknown?_eq_some_iff {known : List (List Char)} {p : Part} {name : List Char} :
    p.unknown? known = some name ↔ p = .slot name ∧ name ∉ known := by
  cases p with
  | char c => simp [unknown?]
  | slot n =>
    simp only [unknown?, Option.ite_none_left_eq_some, Option.some.injEq, Part.slot.injEq]
    constructor
    · rintro ⟨hknown, rfl⟩
      exact ⟨rfl, by simpa using hknown⟩
    · rintro ⟨rfl, hknown⟩
      exact ⟨by simpa using hknown, rfl⟩

/-- The name that is reported is the leftmost unknown name in braces. -/
theorem missing?_eq_some_iff (known : List (List Char)) (text name : List Char) :
    missing? known text = some name ↔ LeftmostUnknown known text name := by
  rw [missing?, List.findSome?_eq_some_iff]
  constructor
  · rintro ⟨l₁, p, l₂, hparts, hp, hbefore⟩
    obtain ⟨rfl, hunknown⟩ := Part.unknown?_eq_some_iff.1 hp
    obtain ⟨before, after, hslot, rfl⟩ := slot_of_parts hparts
    refine ⟨before, after, hslot, hunknown, ?_⟩
    intro before' name' after' hslot' hlt
    obtain ⟨between, hwithin⟩ := hslot.within hslot' hlt
    have hmem : Part.slot name' ∈ parts before := by
      rw [hwithin.parts_eq]
      simp
    -- a name further left that is unknown would have been found before
    by_contra hunknown'
    have hnone := hbefore _ hmem
    rw [Part.unknown?_eq_some_iff.2 ⟨rfl, hunknown'⟩] at hnone
    cases hnone
  · rintro ⟨before, after, hslot, hunknown, hleft⟩
    refine ⟨parts before, .slot name, parts after, hslot.parts_eq,
      Part.unknown?_eq_some_iff.2 ⟨rfl, hunknown⟩, ?_⟩
    intro p hp
    by_contra hsome
    obtain ⟨name', hname'⟩ := Option.ne_none_iff_exists'.1 hsome
    obtain ⟨rfl, hunknown'⟩ := Part.unknown?_eq_some_iff.1 hname'
    obtain ⟨l₁, l₂, hsplit⟩ := List.append_of_mem hp
    obtain ⟨before', after', hslot', -⟩ := slot_of_parts hsplit
    have hlt : before'.length < before.length := by
      rw [hslot'.text_eq]
      simp
    exact hunknown' (hleft _ _ _ (hslot.of_within hslot') hlt)

theorem missing?_eq_none_iff (known : List (List Char)) (text : List Char) :
    missing? known text = none ↔ AllKnown known text := by
  rw [missing?, List.findSome?_eq_none_iff]
  constructor
  · intro hnone before name after hslot
    have hpart := hnone (.slot name) (hslot.parts_eq ▸ by simp)
    by_contra hunknown
    rw [Part.unknown?_eq_some_iff.2 ⟨rfl, hunknown⟩] at hpart
    cases hpart
  · intro hall p hp
    by_contra hsome
    obtain ⟨name, hname⟩ := Option.ne_none_iff_exists'.1 hsome
    obtain ⟨rfl, hunknown⟩ := Part.unknown?_eq_some_iff.1 hname
    obtain ⟨l₁, l₂, hsplit⟩ := List.append_of_mem hp
    obtain ⟨before, after, hslot, -⟩ := slot_of_parts hsplit
    exact hunknown (hall before name after hslot)

/-! ## Filling -/

/-- What stands for a part: the value of a slot, as it is. -/
def Part.text (values : List (List Char × List Char)) : Part → List Char
  | .char c => [c]
  | .slot name => (value? values name).getD []

theorem fillPart_eq (values : List (List Char × List Char)) (p : Part) :
    fillPart values p = match p.unknown? (values.map (·.1)) with
      | some name => .error name
      | none => .ok (p.text values) := by
  cases p with
  | char c => rfl
  | slot name =>
    cases hvalue : value? values name with
    | some v =>
      have hknown : name ∈ values.map (·.1) := by
        obtain ⟨pair, hpair, -⟩ := Option.map_eq_some_iff.1 hvalue
        have hname := List.find?_some hpair
        exact List.mem_map.2 ⟨pair, List.mem_of_find?_eq_some hpair, by simpa using hname⟩
      simp [fillPart, Part.unknown?, Part.text, hvalue, hknown]
    | none =>
      have hunknown : name ∉ values.map (·.1) := by
        intro hmem
        obtain ⟨pair, hpair, rfl⟩ := List.mem_map.1 hmem
        have hnone := List.find?_eq_none.1 (Option.map_eq_none_iff.1 hvalue) pair hpair
        simp at hnone
      simp [fillPart, Part.unknown?, hvalue, hunknown]

theorem fillParts_eq (values : List (List Char × List Char)) (ps : List Part) :
    fillParts values ps = match ps.findSome? (Part.unknown? (values.map (·.1))) with
      | some name => .error name
      | none => .ok (ps.flatMap (Part.text values)) := by
  induction ps with
  | nil => rfl
  | cons p ps ih =>
    rw [fillParts, fillPart_eq, List.findSome?_cons]
    cases p.unknown? (values.map (·.1)) with
    | some name => rfl
    | none =>
      simp only [ih]
      cases ps.findSome? (Part.unknown? (values.map (·.1))) <;> rfl

/-- A template is filled exactly if it misses no name; each part becomes its own text. -/
theorem fill_eq (values : List (List Char × List Char)) (template : List Char) :
    fill values template = match missing? (values.map (·.1)) template with
      | some name => .error name
      | none => .ok ((parts template).flatMap (Part.text values)) :=
  fillParts_eq values (parts template)

end SelfTrace.Template
