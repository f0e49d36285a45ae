import SelfTrace.Proofs.Slots
import SelfTrace.Tool.Command

/-!
# Names replaced all at once

What filling an argument comes to, told apart from how it is read: the text is cut at all its names
in braces, each of them gives way to its first value, and the rest stays as it is.

* `Cut` — a text in pieces, cut at its names in braces;
* `Cut.Of.slot_iff` — the cuts of a text are at its names in braces and nowhere else;
* `fill_eq_ok_iff`, `fill_eq_error_iff` — what a template becomes, and the name it is refused for;
* `fillArgument_replaces_all` — the same for an argument of a command.
-/

namespace SelfTrace

namespace Template

/-! ## First values -/

/-- A name has a value: that of the first pair with the name. -/
def FirstValue (values : List (List Char × List Char)) (name value : List Char) : Prop :=
  ∃ before after, values = before ++ (name, value) :: after ∧ ∀ v ∈ before, v.1 ≠ name

theorem value?_eq_some_iff (values : List (List Char × List Char)) (name value : List Char) :
    value? values name = some value ↔ FirstValue values name value := by
  rw [value?, Option.map_eq_some_iff]
  constructor
  · rintro ⟨⟨name', _⟩, hfound, rfl⟩
    obtain ⟨hname, before, after, hvalues, hbefore⟩ := List.find?_eq_some_iff_append.1 hfound
    obtain rfl : name' = name := by simpa using hname
    exact ⟨before, after, hvalues, fun v hv => by simpa using hbefore v hv⟩
  · rintro ⟨before, after, hvalues, hbefore⟩
    refine ⟨(name, value), List.find?_eq_some_iff_append.2 ⟨by simp, before, after, hvalues, ?_⟩,
      rfl⟩
    intro v hv
    simpa using hbefore v hv

/-! ## Cuts -/

/-- There is no name in braces in a text. -/
def Plain (text : List Char) : Prop := ∀ before name after, ¬Slot text before name after

/-- A text in pieces: what stands in front of the first name in braces, and each name with what
stands between it and the next. -/
structure Cut where
  front : List Char
  rest : List (List Char × List Char)

namespace Cut

/-- The pieces put together. -/
def text (c : Cut) : List Char :=
  c.front ++ c.rest.flatMap fun r => '\x7b' :: (r.1 ++ '\x7d' :: r.2)

/-- The pieces put together with something else in place of each name and its braces. -/
def replaced (value : List Char → List Char) (c : Cut) : List Char :=
  c.front ++ c.rest.flatMap fun r => value r.1 ++ r.2

/-- A text is cut at a name, which has some pieces before it and the others behind it. -/
def Has (c : Cut) (before name after : List Char) : Prop :=
  ∃ l plain r, c.rest = l ++ (name, plain) :: r ∧
    before = text ⟨c.front, l⟩ ∧ after = text ⟨plain, r⟩

/-- The pieces of a text, none of which holds a name in braces any more. -/
structure Of (c : Cut) (text : List Char) : Prop where
  text_eq : c.text = text
  front : Plain c.front
  names : ∀ r ∈ c.rest, IsName r.1
  between : ∀ r ∈ c.rest, Plain r.2

theorem text_cons (front name plain : List Char) (r : List (List Char × List Char)) :
    text ⟨front, (name, plain) :: r⟩ = front ++ '\x7b' :: (name ++ '\x7d' :: text ⟨plain, r⟩) := by
  simp [text]

theorem text_append (front name plain : List Char) (l r : List (List Char × List Char)) :
    text ⟨front, l ++ (name, plain) :: r⟩ =
      text ⟨front, l⟩ ++ '\x7b' :: (name ++ '\x7d' :: text ⟨plain, r⟩) := by
  simp [text]

/-- The pieces behind the first name are those of the text behind it. -/
theorem Of.tail {front name plain : List Char} {r : List (List Char × List Char)}
    {whole : List Char} (h : Of ⟨front, (name, plain) :: r⟩ whole) :
    Of ⟨plain, r⟩ (text ⟨plain, r⟩) where
  text_eq := rfl
  front := h.between (name, plain) List.mem_cons_self
  names := fun s hs => h.names s (List.mem_cons_of_mem _ hs)
  between := fun s hs => h.between s (List.mem_cons_of_mem _ hs)

end Cut

theorem Slot.name_unique {text before name after name' after' : List Char}
    (h : Slot text before name after) (h' : Slot text before name' after') :
    name = name' ∧ after = after' := by
  have htails : name ++ '\x7d' :: after = name' ++ '\x7d' :: after' := by
    simpa using h.text_eq.symm.trans h'.text_eq
  have hname := (slotName?_eq_some_iff _ name).2 ⟨h.isName, after, rfl⟩
  rw [htails, (slotName?_eq_some_iff _ name').2 ⟨h'.isName, after', rfl⟩] at hname
  cases hname
  exact ⟨rfl, by simpa using htails⟩

/-- The cuts of a text are at its names in braces and nowhere else. -/
theorem Cut.Of.slot_iff {c : Cut} {whole : List Char} (h : c.Of whole)
    (before name after : List Char) :
    Slot whole before name after ↔ c.Has before name after := by
  obtain ⟨front, rest⟩ := c
  obtain rfl := h.text_eq
  constructor
  · intro hslot
    induction rest generalizing front before with
    | nil =>
      rw [Cut.text, List.flatMap_nil, List.append_nil] at hslot
      exact absurd hslot (h.front before name after)
    | cons first rest ih =>
      obtain ⟨name₁, plain⟩ := first
      have hfirst : Slot (Cut.text ⟨front, (name₁, plain) :: rest⟩) front name₁
          (Cut.text ⟨plain, rest⟩) :=
        ⟨Cut.text_cons front name₁ plain rest, h.names (name₁, plain) List.mem_cons_self⟩
      rcases Nat.lt_trichotomy before.length front.length with hlt | heq | hgt
      · -- a name further left would stand in the first piece
        obtain ⟨between, hwithin⟩ := hfirst.within hslot hlt
        exact absurd hwithin (h.front _ _ _)
      · obtain rfl : before = front :=
          (List.append_inj (hslot.text_eq.symm.trans hfirst.text_eq) heq).1
        obtain ⟨rfl, rfl⟩ := hslot.name_unique hfirst
        exact ⟨[], plain, rest, rfl, by simp [Cut.text], rfl⟩
      · -- a name further right stands in the text behind the first
        obtain ⟨between, hwithin⟩ := hslot.within hfirst hgt
        have htail : Slot (Cut.text ⟨plain, rest⟩) between name after := by
          refine ⟨?_, hslot.isName⟩
          have htexts := hfirst.text_eq.symm.trans hslot.text_eq
          rw [hwithin.text_eq] at htexts
          simpa using htexts
        obtain ⟨l, plain', r, hrest, hbetween, hafter⟩ := ih between plain h.tail htail
        refine ⟨(name₁, plain) :: l, plain', r, ?_, ?_, hafter⟩
        · show (name₁, plain) :: rest = _
          rw [show rest = _ from hrest, List.cons_append]
        · rw [Cut.text_cons, ← show between = _ from hbetween, hwithin.text_eq]
  · rintro ⟨l, plain, r, hrest, rfl, rfl⟩
    obtain rfl : rest = l ++ (name, plain) :: r := hrest
    exact ⟨Cut.text_append front name plain l r, h.names (name, plain) (by simp)⟩

theorem Slot.cons {c : Char} {cs before name after : List Char} (h : Slot cs before name after) :
    Slot (c :: cs) (c :: before) name after :=
  ⟨by rw [h.text_eq, List.cons_append], h.isName⟩

/-- A text can be cut at its names in braces. -/
theorem exists_cut (whole : List Char) : ∃ c : Cut, c.Of whole := by
  induction whole using parts_induction with
  | nil =>
    refine ⟨⟨[], []⟩, rfl, ?_, by simp, by simp⟩
    intro before name after h
    cases before <;> cases h.text_eq
  | slot name after hname ih =>
    obtain ⟨⟨front, rest⟩, rfl, hfront, hnames, hbetween⟩ := ih
    refine ⟨⟨[], (name, front) :: rest⟩, Cut.text_cons [] name front rest, ?_,
      List.forall_mem_cons.2 ⟨hname, hnames⟩, List.forall_mem_cons.2 ⟨hfront, hbetween⟩⟩
    intro before name after h
    cases before <;> cases h.text_eq
  | char c cs hc ih =>
    obtain ⟨⟨front, rest⟩, rfl, hfront, hnames, hbetween⟩ := ih
    refine ⟨⟨c :: front, rest⟩, rfl, ?_, hnames, hbetween⟩
    intro before name after h
    cases before with
    | nil =>
      -- the name would begin with the character, in the whole text as in the piece
      obtain ⟨rfl, htail⟩ := List.cons.inj h.text_eq
      obtain rfl : front = name ++ '\x7d' :: after := htail
      have hsome := (slotName?_eq_some_iff (Cut.text ⟨name ++ '\x7d' :: after, rest⟩) name).2
        ⟨h.isName, Cut.text ⟨after, rest⟩, by simp [Cut.text]⟩
      rw [hc rfl] at hsome
      cases hsome
    | cons b before =>
      obtain ⟨rfl, htail⟩ := List.cons.inj h.text_eq
      exact hfront before name after ⟨htail, h.isName⟩

/-! ## Reading a text that was cut -/

theorem parts_of_plain {text : List Char} (h : Plain text) : parts text = text.map .char := by
  induction text using parts_induction with
  | nil => rfl
  | slot name after hname ih => exact absurd ⟨rfl, hname⟩ (h [] name after)
  | char c cs hc ih =>
    rw [parts_char hc, List.map_cons, ih fun before name after hslot => h _ _ _ hslot.cons]

theorem Cut.Of.parts_eq {c : Cut} {whole : List Char} (h : c.Of whole) :
    parts whole = c.front.map .char ++ c.rest.flatMap fun r => .slot r.1 :: r.2.map .char := by
  obtain ⟨front, rest⟩ := c
  obtain rfl := h.text_eq
  induction rest generalizing front with
  | nil => simpa [Cut.text] using parts_of_plain h.front
  | cons first rest ih =>
    obtain ⟨name, plain⟩ := first
    rw [Cut.text_cons, parts_append_brace, parts_slot (h.names (name, plain) List.mem_cons_self),
      parts_of_plain h.front, ih plain h.tail]
    simp

/-- Parts with their texts in place are the pieces with the values in place of the names. -/
theorem Cut.Of.flatMap_text {c : Cut} {whole : List Char} (h : c.Of whole)
    {values : List (List Char × List Char)} {value : List Char → List Char}
    (hvalue : ∀ r ∈ c.rest, FirstValue values r.1 (value r.1)) :
    (parts whole).flatMap (Part.text values) = c.replaced value := by
  have hplain : ∀ cs : List Char, (cs.map Part.char).flatMap (Part.text values) = cs := by
    intro cs
    rw [List.flatMap_map]
    exact List.flatMap_singleton' cs
  rw [h.parts_eq, List.flatMap_append, hplain, List.flatMap_assoc, Cut.replaced]
  congr 1
  rw [List.flatMap_def, List.flatMap_def, List.map_congr_left]
  intro r hr
  rw [List.flatMap_cons, hplain, Part.text, (value?_eq_some_iff _ _ _).2 (hvalue r hr),
    Option.getD_some]

/-! ## Filling -/

theorem fill_eq_error_iff (values : List (List Char × List Char)) (template name : List Char) :
    fill values template = .error name ↔ LeftmostUnknown (values.map (·.1)) template name := by
  rw [← missing?_eq_some_iff, fill_eq]
  cases missing? (values.map (·.1)) template <;> simp

theorem exists_firstValue {values : List (List Char × List Char)} {name : List Char}
    (h : name ∈ values.map (·.1)) : ∃ value, FirstValue values name value := by
  cases hvalue : value? values name with
  | some value => exact ⟨value, (value?_eq_some_iff _ _ _).1 hvalue⟩
  | none =>
    obtain ⟨v, hv, rfl⟩ := List.mem_map.1 h
    have hnone := List.find?_eq_none.1 (Option.map_eq_none_iff.1 hvalue) v hv
    simp at hnone

/-- What a template becomes: its pieces with the first value of each name in its place. -/
theorem fill_eq_ok_iff (values : List (List Char × List Char)) (template out : List Char) :
    fill values template = .ok out ↔
      ∃ (c : Cut) (value : List Char → List Char), c.Of template ∧
        (∀ r ∈ c.rest, FirstValue values r.1 (value r.1)) ∧ out = c.replaced value := by
  rw [fill_eq]
  constructor
  · intro h
    cases hmissing : missing? (values.map (·.1)) template with
    | some name =>
      rw [hmissing] at h
      cases h
    | none =>
      rw [hmissing] at h
      cases h
      obtain ⟨c, hc⟩ := exists_cut template
      have hknown := (missing?_eq_none_iff _ _).1 hmissing
      -- each name of the cut is known, so there is a first value for it
      have hvalue : ∀ r ∈ c.rest, FirstValue values r.1 ((value? values r.1).getD []) := by
        intro r hr
        obtain ⟨l, l', hsplit⟩ := List.append_of_mem hr
        have hslot := (hc.slot_iff _ _ _).2 ⟨l, r.2, l', hsplit, rfl, rfl⟩
        obtain ⟨v, hv⟩ := exists_firstValue (hknown _ _ _ hslot)
        rwa [(value?_eq_some_iff _ _ _).2 hv, Option.getD_some]
      exact ⟨c, fun name => (value? values name).getD [], hc, hvalue, hc.flatMap_text hvalue⟩
  · rintro ⟨c, value, hc, hvalue, rfl⟩
    have hknown : AllKnown (values.map (·.1)) template := by
      intro before name after hslot
      obtain ⟨l, plain, r, hrest, -⟩ := (hc.slot_iff _ _ _).1 hslot
      obtain ⟨l', r', hvalues, -⟩ := hvalue (name, plain) (by simp [hrest])
      simp [hvalues]
    rw [(missing?_eq_none_iff _ _).2 hknown, hc.flatMap_text hvalue]

/-- There is a leftmost unknown name in braces exactly if there is an unknown one. -/
theorem exists_leftmostUnknown_iff (known : List (List Char)) (text : List Char) :
    (∃ name, LeftmostUnknown known text name) ↔
      ∃ before name after, Slot text before name after ∧ name ∉ known := by
  constructor
  · rintro ⟨name, before, after, hslot, hunknown, -⟩
    exact ⟨before, name, after, hslot, hunknown⟩
  · rintro ⟨before, name, after, hslot, hunknown⟩
    cases hmissing : missing? known text with
    | some name => exact ⟨name, (missing?_eq_some_iff _ _ _).1 hmissing⟩
    | none => exact absurd ((missing?_eq_none_iff _ _).1 hmissing _ _ _ hslot) hunknown

end Template

namespace Command

open Template

/-- An argument is refused exactly if it has an unknown name in braces, and then for the leftmost
one; with none but known names it is filled. Then all its names in braces are replaced at once by
their values, of two pairs with one name the first counting, and all between them stays, other
braces included; a value is put in as it is, braces and all. -/
theorem fillArgument_replaces_all (values : List (String × String)) (argument : String) :
    let texts := values.map fun v => (v.1.toList, v.2.toList)
    ((∃ e, fillArgument values argument = .error e) ↔
      ∃ before name after, Slot argument.toList before name after ∧ name ∉ texts.map (·.1)) ∧
    (∀ e, fillArgument values argument = .error e ↔
      ∃ name, LeftmostUnknown (texts.map (·.1)) argument.toList name ∧
        e = .unknownPlaceholder (String.ofList name) argument) ∧
    ((∃ out, fillArgument values argument = .ok out) ↔
      AllKnown (texts.map (·.1)) argument.toList) ∧
    ∀ out, fillArgument values argument = .ok out ↔
      ∃ (c : Cut) (value : List Char → List Char), c.Of argument.toList ∧
        (∀ before name after,
          Slot argument.toList before name after ↔ c.Has before name after) ∧
        (∀ r ∈ c.rest, FirstValue texts r.1 (value r.1)) ∧
        out = String.ofList (c.replaced value) := by
  intro texts
  have herror : ∀ e, fillArgument values argument = .error e ↔
      ∃ name, LeftmostUnknown (texts.map (·.1)) argument.toList name ∧
        e = .unknownPlaceholder (String.ofList name) argument := by
    intro e
    simp only [← fill_eq_error_iff, fillArgument, texts]
    cases fill (values.map fun v => (v.1.toList, v.2.toList)) argument.toList <;>
      simp [eq_comm]
  have hrefused : (∃ e, fillArgument values argument = .error e) ↔
      ∃ before name after, Slot argument.toList before name after ∧ name ∉ texts.map (·.1) := by
    rw [← exists_leftmostUnknown_iff]
    constructor
    · rintro ⟨e, he⟩
      obtain ⟨name, hname, -⟩ := (herror e).1 he
      exact ⟨name, hname⟩
    · rintro ⟨name, hname⟩
      exact ⟨_, (herror _).2 ⟨name, hname, rfl⟩⟩
  refine ⟨hrefused, herror, ?_, ?_⟩
  · constructor
    · rintro ⟨out, hout⟩ before name after hslot
      by_contra hunknown
      obtain ⟨e, he⟩ := hrefused.2 ⟨before, name, after, hslot, hunknown⟩
      rw [hout] at he
      cases he
    · intro hknown
      cases hanswer : fillArgument values argument with
      | ok out => exact ⟨out, rfl⟩
      | error e =>
        obtain ⟨before, name, after, hslot, hunknown⟩ := hrefused.1 ⟨e, hanswer⟩
        exact absurd (hknown before name after hslot) hunknown
  · intro out
    -- texts are compared by their characters
    have hfill : fillArgument values argument = .ok out ↔
        fill texts argument.toList = .ok out.toList := by
      simp only [fillArgument, texts]
      cases fill (values.map fun v => (v.1.toList, v.2.toList)) argument.toList with
      | error name => simp
      | ok cs => simp [String.ext_iff]
    rw [hfill, fill_eq_ok_iff]
    constructor
    · rintro ⟨c, value, hc, hvalue, hout⟩
      exact ⟨c, value, hc, hc.slot_iff, hvalue, by rw [← hout, String.ofList_toList]⟩
    · rintro ⟨c, value, hc, -, hvalue, rfl⟩
      exact ⟨c, value, hc, hvalue, by rw [String.toList_ofList]⟩

/-- Braces that hold no name stay, and so do those of a value. -/
example :
    fillArgument [("a", "\x7bb\x7d"), ("b", "x"), ("a", "y")]
      "\x7b\x7ba\x7d\x7d\x7b\x7d\x7bA\x7d\x7bb" =
    .ok "\x7b\x7bb\x7d\x7d\x7b\x7d\x7bA\x7d\x7bb" := by decide +kernel

end Command

end SelfTrace
