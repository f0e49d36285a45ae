import Mathlib.Data.List.Induction
import SelfTrace.ProcessId
import SelfTrace.Proofs.Trimming

/-!
# Ids written by digits

Which texts are process ids, and which id a text is. Main statements:

* `Text.Writes` — digits, and the number that they write;
* `Text.Writes.eq_decimal` — without zeros in front, a number is written in one way;
* `parse?_ofList` — digits are the id of the number that they write, if there is one;
* `parse?_text_iff` — the text of an id reads as that id;
* `parse_reads_numbers` — the texts that are ids, exactly, and what becomes of all others.
-/

namespace SelfTrace

/-! ## Digits and blanks -/

namespace Text

theorem toNat_of_isDigit {c : Char} (h : isDigit c = true) : 48 ≤ c.toNat ∧ c.toNat ≤ 57 := by
  simp only [isDigit, Char.isDigit, Bool.and_eq_true, decide_eq_true_eq] at h
  exact h

theorem isBlank_of_isDigit {c : Char} (h : isDigit c = true) : isBlank c = false := by
  have hc := toNat_of_isDigit h
  simp [isBlank]
  omega

/-- Nothing is trimmed off digits. -/
theorem trim_of_isDigit {cs : List Char} (h : ∀ c ∈ cs, isDigit c = true) : trim cs = cs :=
  trim_eq_self fun c hc => isBlank_of_isDigit (h c hc)

/-! ## Numbers written by digits -/

/-- Digits, at least one, and the number that they write. Zeros may stand in front. -/
inductive Writes : List Char → Nat → Prop
  | one {d : Nat} (hd : d < 10) : Writes [d.digitChar] d
  | further {cs : List Char} {n d : Nat} (h : Writes cs n) (hd : d < 10) :
      Writes (cs ++ [d.digitChar]) (10 * n + d)

theorem isDigit_digitChar {d : Nat} (hd : d < 10) : isDigit d.digitChar = true := by
  have hnat := Nat.toNat_digitChar_of_lt_ten hd
  simp only [isDigit, Char.isDigit, Bool.and_eq_true, decide_eq_true_eq]
  show 48 ≤ d.digitChar.toNat ∧ d.digitChar.toNat ≤ 57
  omega

theorem exists_digitChar {c : Char} (h : isDigit c = true) :
    ∃ d, d < 10 ∧ d.digitChar = c ∧ c.toNat - 48 = d := by
  have hc := toNat_of_isDigit h
  have hlt : c.toNat - 48 < 10 := by omega
  refine ⟨c.toNat - 48, hlt, ?_, rfl⟩
  apply Char.toNat_inj.1
  rw [Nat.toNat_digitChar_of_lt_ten hlt]
  omega

theorem value_concat (cs : List Char) (c : Char) :
    value (cs ++ [c]) = 10 * value cs + (c.toNat - 48) := by
  rw [value, value, Nat.ofDigitChars_eq_foldl, Nat.ofDigitChars_eq_foldl, List.foldl_append]
  rfl

/-- Digits write the number that is read from them. -/
theorem writes_value {cs : List Char} (hne : cs ≠ []) (h : ∀ c ∈ cs, isDigit c = true) :
    Writes cs (value cs) := by
  induction cs using List.reverseRecOn with
  | nil => exact absurd rfl hne
  | append_singleton cs c ih =>
    obtain ⟨d, hd, rfl, hvalue⟩ := exists_digitChar (h c (by simp))
    rw [value_concat, hvalue]
    by_cases hcs : cs = []
    · have hone : 10 * value cs + d = d := by
        rw [hcs]
        exact Nat.zero_add d
      rw [hone, hcs]
      exact .one hd
    · exact .further (ih hcs fun c' hc' => h c' (List.mem_append_left _ hc')) hd

namespace Writes

variable {cs : List Char} {n : Nat}

theorem ne_nil (h : Writes cs n) : cs ≠ [] := by
  cases h <;> simp

theorem isDigit (h : Writes cs n) : ∀ c ∈ cs, isDigit c = true := by
  induction h with
  | one hd =>
    intro c hc
    rw [List.mem_singleton.1 hc]
    exact isDigit_digitChar hd
  | further _ hd ih =>
    intro c hc
    rcases List.mem_append.1 hc with hc | hc
    · exact ih c hc
    · rw [List.mem_singleton.1 hc]
      exact isDigit_digitChar hd

theorem value_eq (h : Writes cs n) : value cs = n := by
  induction h with
  | one hd =>
    rw [← List.nil_append [_], value_concat, Nat.toNat_digitChar_sub_48_of_lt_ten hd]
    exact Nat.zero_add _
  | further _ hd ih => rw [value_concat, ih, Nat.toNat_digitChar_sub_48_of_lt_ten hd]

/-- Without zeros in front, a number is written in one way. -/
theorem eq_decimal (h : Writes cs n) (hzero : cs.head? = some '0' → cs = ['0']) :
    cs = decimal n := by
  induction h with
  | one hd => exact (Nat.toDigits_of_lt_base hd).symm
  | @further cs n d h hd ih =>
    -- the first of several digits is no zero, so that the digits in front of the last are those of
    -- a number that is not zero
    have hhead : cs.head? ≠ some '0' := by
      intro hcs
      have hone := hzero (by rw [List.head?_append, hcs]; rfl)
      have hlength := congrArg List.length hone
      have hpos := List.length_pos_iff.2 h.ne_nil
      rw [List.length_append, List.length_singleton, List.length_singleton] at hlength
      omega
    have hcs : cs = decimal n := ih fun hcs => absurd hcs hhead
    have hn : 0 < n := by
      refine Nat.pos_of_ne_zero fun hn => hhead ?_
      rw [hcs, hn]
      rfl
    rw [decimal, ← Nat.toDigits_append_toDigits (by decide) hn hd, Nat.toDigits_of_lt_base hd]
    exact congrArg (· ++ [d.digitChar]) hcs

end Writes

/-- Digits that do not begin with zero are the digits of the number that is read from them. -/
theorem eq_decimal_value {c : Char} {cs : List Char} (hzero : c ≠ '0')
    (h : ∀ d ∈ c :: cs, isDigit d = true) : c :: cs = decimal (value (c :: cs)) := by
  refine (writes_value (List.cons_ne_nil c cs) h).eq_decimal fun hhead => ?_
  rw [List.head?_cons, Option.some.injEq] at hhead
  exact absurd hhead hzero

theorem decimal?_eq_some_iff {cs : List Char} {n : Nat} : decimal? cs = some n ↔ Writes cs n := by
  unfold decimal?
  constructor
  · intro h
    split at h
    · cases h
    · next hdigits =>
      simp only [Bool.or_eq_true, List.isEmpty_iff, Bool.not_eq_true', not_or, Bool.not_eq_false,
        List.all_eq_true] at hdigits
      rcases Option.some.inj h with rfl
      exact writes_value hdigits.1 hdigits.2
  · intro h
    have hall : cs.all Text.isDigit = true := List.all_eq_true.2 h.isDigit
    have hempty : cs.isEmpty = false := by simpa using h.ne_nil
    rw [hall, hempty, h.value_eq]
    rfl

/-- Between blanks, a text is digits alone, which write a number. -/
def Denotes (s : String) (n : Nat) : Prop := ∃ digits, Trims s.toList digits ∧ Writes digits n

namespace Denotes

variable {s : String} {n : Nat}

theorem isDigit_of_not_blank (h : Denotes s n) {c : Char} (hc : c ∈ s.toList)
    (hblank : isBlank c = false) : isDigit c = true := by
  obtain ⟨digits, htrims, hwrites⟩ := h
  obtain ⟨front, behind, htext, hfront, hbehind⟩ := htrims.around
  rw [htext, List.mem_append, List.mem_append] at hc
  rcases hc with (hc | hc) | hc
  · rw [hfront c hc] at hblank
    cases hblank
  · exact hwrites.isDigit c hc
  · rw [hbehind c hc] at hblank
    cases hblank

/-- A blank has digits on one side at most. -/
theorem blanks_beside_blank (h : Denotes s n) {front behind : List Char} {c : Char}
    (htext : s.toList = front ++ c :: behind) (hc : isBlank c = true) :
    (∀ d ∈ front, isBlank d = true) ∨ ∀ d ∈ behind, isBlank d = true := by
  obtain ⟨digits, htrims, hwrites⟩ := h
  obtain ⟨before, after, haround, hbefore, hafter⟩ := htrims.around
  rw [htext, List.append_assoc] at haround
  rcases List.append_eq_append_iff.1 haround with ⟨rest, rfl, -⟩ | ⟨rest, rfl, hrest⟩
  · exact .inl fun d hd => hbefore d (List.mem_append_left rest hd)
  · rcases List.append_eq_append_iff.1 hrest with ⟨inside, -, rfl⟩ | ⟨inside, hdigits, hinside⟩
    · exact .inr fun d hd => hafter d (List.mem_append_right inside (List.mem_cons_of_mem c hd))
    · cases inside with
      | nil =>
        rw [List.nil_append] at hinside
        exact .inr fun d hd => hafter d (hinside ▸ List.mem_cons_of_mem c hd)
      | cons c' inside =>
        -- the blank would be one of the digits
        obtain ⟨rfl, -⟩ := List.cons.inj hinside
        have hdigit := hwrites.isDigit c (by simp [hdigits])
        rw [isBlank_of_isDigit hdigit] at hc
        cases hc

end Denotes

end Text

/-! ## Ids -/

namespace ProcessId

theorem ofNat?_eq_some_iff {n : Nat} {p : ProcessId} :
    ofNat? n = some p ↔ n = p.raw.toNat ∧ 0 < n := by
  have hlt : p.raw.toNat < 4294967296 := p.raw.toNat_lt
  unfold ofNat? maxRaw
  constructor
  · intro h
    split at h
    · next hn =>
      simp only [Bool.and_eq_true, decide_eq_true_eq] at hn
      rcases Option.some.inj h with rfl
      -- no number of an id is too large for the 32 bits that hold it
      refine ⟨?_, hn.1⟩
      show n = (UInt32.ofNat n).toNat
      rw [UInt32.toNat_ofNat_of_lt' (by simp [UInt32.size]; omega)]
    · cases h
  · rintro ⟨rfl, hpos⟩
    rw [if_pos (by simp; omega), UInt32.ofNat_toNat]

/-- Digits are the id of the number that they write, if it is the number of an id. -/
theorem parse?_ofList {cs : List Char} (hne : cs ≠ []) (h : ∀ c ∈ cs, Text.isDigit c = true) :
    parse? (String.ofList cs) = ofNat? (Text.value cs) := by
  have hdecimal := Text.decimal?_eq_some_iff.2 (Text.writes_value hne h)
  rw [parse?, String.toList_ofList, parseChars?, Text.trim_of_isDigit h, hdecimal]
  rfl

theorem isDigit_of_mem_chars {p : ProcessId} {c : Char} (h : c ∈ p.chars) :
    Text.isDigit c = true :=
  Text.isDigit_of_mem_decimal h

theorem chars_ne_nil (p : ProcessId) : p.chars ≠ [] := Nat.toDigits_ne_nil

/-- The text of an id reads as the id of its number. -/
theorem parse?_text (p : ProcessId) : parse? p.text = ofNat? p.raw.toNat := by
  rw [text, parse?_ofList p.chars_ne_nil fun c hc => isDigit_of_mem_chars hc, chars,
    Text.value_decimal]

/-- The text of an id reads as that id; only zero, which is no id, does not. -/
theorem parse?_text_iff {p : ProcessId} : parse? p.text = some p ↔ p.raw ≠ 0 := by
  rw [parse?_text, ofNat?_eq_some_iff, Nat.pos_iff_ne_zero, ne_eq, ne_eq, ← UInt32.toNat_inj]
  simp

theorem parse_eq_ok_iff {s : String} {p : ProcessId} : parse s = .ok p ↔ parse? s = some p := by
  unfold parse
  cases parse? s <;> simp

theorem parse_eq_error_iff {s : String} {e : InputError} :
    parse s = .error e ↔ parse? s = none ∧ e = .invalidPid s := by
  unfold parse
  cases parse? s <;> simp [eq_comm]

/-! ## Texts that are ids -/

theorem parse?_eq_some_iff_denotes {s : String} {p : ProcessId} :
    parse? s = some p ↔ Text.Denotes s p.raw.toNat ∧ 0 < p.raw.toNat := by
  rw [parse?_eq_some_iff]
  constructor
  · rintro ⟨n, hn, hp⟩
    rw [Text.decimal?_eq_some_iff] at hn
    rw [ofNat?_eq_some_iff] at hp
    rcases hp with ⟨rfl, hpos⟩
    exact ⟨⟨_, Text.trims_trim _, hn⟩, hpos⟩
  · rintro ⟨⟨digits, htrims, hwrites⟩, hpos⟩
    refine ⟨p.raw.toNat, ?_, ofNat?_eq_some_iff.2 ⟨rfl, hpos⟩⟩
    rw [htrims.trim_eq]
    exact Text.decimal?_eq_some_iff.2 hwrites

theorem exists_raw_eq {n : Nat} (h : n ≤ 4294967295) : ∃ p : ProcessId, p.raw.toNat = n := by
  refine ⟨⟨UInt32.ofNat n⟩, UInt32.toNat_ofNat_of_lt' ?_⟩
  simp only [UInt32.size]
  omega

theorem raw_le (p : ProcessId) : p.raw.toNat ≤ 4294967295 := Nat.le_of_lt_succ p.raw.toNat_lt

/-- A text is refused, and reported as it is, unless it denotes the number of an id. -/
theorem parse_refuses_iff {s : String} : parse s = .error (.invalidPid s) ↔
    ∀ n, Text.Denotes s n → n = 0 ∨ 4294967295 < n := by
  rw [parse_eq_error_iff, Option.eq_none_iff_forall_ne_some]
  constructor
  · rintro ⟨hnone, -⟩ n hn
    by_contra hbounds
    obtain ⟨p, rfl⟩ := exists_raw_eq (n := n) (by omega)
    exact hnone p (parse?_eq_some_iff_denotes.2 ⟨hn, by omega⟩)
  · intro h
    refine ⟨fun p hp => ?_, rfl⟩
    obtain ⟨hdenotes, hpos⟩ := parse?_eq_some_iff_denotes.1 hp
    have hle := p.raw_le
    rcases h _ hdenotes with hzero | hlarge
    · omega
    · omega

/-- A text is an id exactly if, the blanks around it apart, it is ASCII digits alone that write a
number of 32 bits other than zero; zeros may stand in front. Any other text is refused, and reported
as it is: one with a character that is neither a blank nor a digit, say a sign or a digit of another
script, or with a blank between others. -/
theorem parse_reads_numbers (s : String) :
    (∀ n, (∃ p, parse s = .ok p ∧ p.raw.toNat = n) ↔
      Text.Denotes s n ∧ 1 ≤ n ∧ n ≤ 4294967295) ∧
    (parse s = .error (.invalidPid s) ↔ ∀ n, Text.Denotes s n → n = 0 ∨ 4294967295 < n) ∧
    (∀ c ∈ s.toList, Text.isBlank c = false → c < '0' ∨ '9' < c →
      parse s = .error (.invalidPid s)) ∧
    ∀ front c behind, s.toList = front ++ c :: behind → Text.isBlank c = true →
      (∃ d ∈ front, Text.isBlank d = false) → (∃ d ∈ behind, Text.isBlank d = false) →
      parse s = .error (.invalidPid s) := by
  refine ⟨fun n => ⟨?_, ?_⟩, parse_refuses_iff, ?_, ?_⟩
  · rintro ⟨p, hp, rfl⟩
    obtain ⟨hdenotes, hpos⟩ := parse?_eq_some_iff_denotes.1 (parse_eq_ok_iff.1 hp)
    exact ⟨hdenotes, hpos, p.raw_le⟩
  · rintro ⟨hdenotes, hpos, hle⟩
    obtain ⟨p, rfl⟩ := exists_raw_eq hle
    exact ⟨p, parse_eq_ok_iff.2 (parse?_eq_some_iff_denotes.2 ⟨hdenotes, hpos⟩), rfl⟩
  · intro c hc hblank hother
    refine parse_refuses_iff.2 fun n hn => absurd (hn.isDigit_of_not_blank hc hblank) ?_
    intro hdigit
    have hbounds := Text.toNat_of_isDigit hdigit
    rw [Char.lt_def, Char.lt_def, UInt32.lt_iff_toNat_lt, UInt32.lt_iff_toNat_lt] at hother
    change c.toNat < 48 ∨ 57 < c.toNat at hother
    omega
  · rintro front c behind htext hc ⟨d, hd, hdblank⟩ ⟨e, he, heblank⟩
    refine parse_refuses_iff.2 fun n hn => ?_
    rcases hn.blanks_beside_blank htext hc with hfront | hbehind
    · rw [hfront d hd] at hdblank
      cases hdblank
    · rw [hbehind e he] at heblank
      cases heblank

/-- Zeros in front and blanks around are read over, a sign or a blank within is not. -/
theorem parse_reads_numbers_padded :
    Text.Denotes "\u3000007\n" 7 ∧ (∃ p, parse "\u3000007\n" = .ok p ∧ p.raw.toNat = 7) ∧
    parse "+7" = .error (.invalidPid "+7") ∧ parse "4 2" = .error (.invalidPid "4 2") := by
  have hdenotes : Text.Denotes "\u3000007\n" 7 := by
    refine ⟨['0', '0', '7'], Text.trim_eq_iff.1 (by decide), ?_⟩
    have hzeros : Text.Writes ['0', '0'] 0 :=
      .further (d := 0) (.one (d := 0) (by decide)) (by decide)
    exact .further (d := 7) hzeros (by decide)
  obtain ⟨hread, -⟩ := parse_reads_numbers "\u3000007\n"
  obtain ⟨-, -, hsigned, -⟩ := parse_reads_numbers "+7"
  obtain ⟨-, -, -, hparted⟩ := parse_reads_numbers "4 2"
  refine ⟨hdenotes, (hread 7).2 ⟨hdenotes, by decide, by decide⟩, ?_, ?_⟩
  · exact hsigned '+' (by decide) (by decide) (by decide)
  · exact hparted ['4'] ' ' ['2'] (by decide) (by decide) ⟨'4', by decide⟩ ⟨'2', by decide⟩

end ProcessId

end SelfTrace
