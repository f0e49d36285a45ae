import Mathlib.Data.List.TakeWhile
import SelfTrace.Proofs.JsonReadings
import SelfTrace.Proofs.WrittenIds

/-!
# Whole numbers in JSON text

Which texts are read as a whole number: its digits, as they are written, and nothing else. A sign, a
zero in front, a point or an exponent makes another number of a text, or none.

* `numeral_takes_iff` — what is in front of a text that is read as a whole number of 64 bits;
* `readUnsigned_takes_iff` — the same for whole numbers up to a bound, behind blanks;
* `readDocument_eq_ok_iff` — a document is what is read, with nothing but blanks behind it.
-/

namespace SelfTrace.Json

variable {α β : Type}

/-! ## Taking apart what was read -/

/-- What is read in two parts is taken off the text in two parts. -/
theorem bind_takes_iff {read : Reader α} {next : α → Reader β} {text rest : List Char} {b : β} :
    Takes (read >>= next) text b rest ↔
      ∃ a middle, Takes read text a middle ∧ Takes (next a) middle b rest := by
  constructor
  · intro h
    rw [Takes, bind_run] at h
    cases hread : read text with
    | error p =>
      rw [hread] at h
      cases h
    | ok r =>
      rw [hread] at h
      exact ⟨r.1, r.2, hread, h⟩
  · rintro ⟨a, middle, hread, hnext⟩
    exact hread.bind hnext

theorem peek?_bind_takes_iff {next : Option Char → Reader β} {text rest : List Char} {b : β} :
    Takes (peek? >>= next) text b rest ↔ Takes (next text.head?) text b rest := by
  rw [Takes, (peek?_takes text).bind_eq]
  rfl

theorem throw_bind_not_takes {p : Problem} {next : α → Reader β} {text rest : List Char} {b : β} :
    ¬Takes ((throw p : Reader α) >>= next) text b rest := by
  intro h
  cases h

/-! ## Numbers that are not whole -/

/-- The number is not read as a whole one of 64 bits. -/
def NotWhole (a : Numeral) : Prop := ∀ n, a ≠ .unsigned n

theorem real_ensures (minus : Bool) (significand : Nat) (exponent : Int) :
    Ensures (real minus significand exponent) NotWhole := by
  unfold real
  dsimp only
  split
  · exact .pure fun n h => by cases h
  · exact .throw _

theorem exponentPart_ensures (minus : Bool) (significand : Nat) (start : Int) :
    Ensures (exponentPart minus significand start) NotWhole := by
  -- what stands behind the letter ends in a number that is not whole, on every way
  unfold exponentPart
  refine .after fun _ => ?_
  extract_lets zero signed
  have hzero : ∀ u, Ensures (zero u) NotWhole := fun u => .pure fun n h => by cases h
  have hsigned : ∀ down, Ensures (signed down) NotWhole := by
    intro down
    unfold signed
    refine .after fun c => ?_
    extract_lets exponent
    have hexponent : ∀ u, Ensures (exponent u) NotWhole := by
      intro u
      unfold exponent
      refine .after fun ds => ?_
      split
      · split
        · exact .after hzero
        · exact hzero ()
      · exact real_ensures _ _ _
    split
    · exact .after hexponent
    · split
      · exact .after hexponent
      · exact hexponent ()
  refine .after fun c => ?_
  split
  · exact .after fun _ => .after hsigned
  · exact .after fun _ => .after hsigned
  · exact .after hsigned

theorem exponentOrEnd_ensures (minus : Bool) (significand : Nat) (exponent : Int) :
    Ensures (exponentOrEnd minus significand exponent) NotWhole := by
  unfold exponentOrEnd
  refine .after fun c => ?_
  split
  · exact exponentPart_ensures _ _ _
  · exact exponentPart_ensures _ _ _
  · exact real_ensures _ _ _

theorem decimalPart_ensures (minus : Bool) (significand : Nat) (start : Int) :
    Ensures (decimalPart minus significand start) NotWhole := by
  unfold decimalPart
  refine .after fun _ => .after fun ds => ?_
  extract_lets ending
  have hending : ∀ u, Ensures (ending u) NotWhole := fun u => exponentOrEnd_ensures _ _ _
  split
  · refine .after fun c => ?_
    split
    · exact .after hending
    · exact .after hending
  · exact hending ()

/-! ## Whole numbers -/

/-- Digits that all fit were taken as the number that they write. -/
theorem absorb_all {significand total taken : Nat} {cs : List Char} (h : significand ≤ maxUnsigned)
    (hall : absorb significand cs = (total, taken, [])) :
    total = Nat.ofDigitChars 10 cs significand ∧ total ≤ maxUnsigned := by
  induction cs generalizing significand taken with
  | nil =>
    rw [absorb, Prod.mk.injEq] at hall
    rw [← hall.1]
    exact ⟨rfl, h⟩
  | cons c cs ih =>
    have hgrown : 10 * significand + (c.toNat - '0'.toNat) = significand * 10 + (c.toNat - 48) := by
      rw [Nat.mul_comm]
      rfl
    rw [Nat.ofDigitChars_cons, hgrown]
    rw [absorb] at hall
    dsimp only at hall
    split at hall
    · cases hall
    · next hfits =>
      rw [Prod.mk.injEq, Prod.mk.injEq] at hall
      obtain ⟨htotal, -, hrest⟩ := hall
      have hcs : absorb (significand * 10 + (c.toNat - 48)) cs =
          (total, (absorb (significand * 10 + (c.toNat - 48)) cs).2.1, []) := by
        rw [← htotal, ← hrest]
      exact ih (Nat.le_of_not_lt hfits) hcs

/-- The digits in front of a text, and what comes behind them. -/
theorem digits_takes_cases {text ds rest : List Char} (h : Takes digits text ds rest) :
    text = ds ++ rest ∧ (∀ c ∈ ds, Text.isDigit c = true) ∧
      ∀ c, rest.head? = some c → Text.isDigit c = false := by
  have hread : digits text =
      .ok (text.takeWhile Text.isDigit, text.dropWhile Text.isDigit) := rfl
  rw [Takes, hread, Except.ok.injEq, Prod.mk.injEq] at h
  obtain ⟨rfl, rfl⟩ := h
  refine ⟨List.takeWhile_append_dropWhile.symm, ?_, ?_⟩
  · intro c hc
    exact List.all_eq_true.1 List.all_takeWhile c hc
  · intro c hc
    have hnot := List.head?_dropWhile_not Text.isDigit text
    rw [hc] at hnot
    simpa using hnot

theorem next_takes_cases {text rest : List Char} {c : Char} (h : Takes next text c rest) :
    text = c :: rest := by
  cases text with
  | nil => cases h
  | cons d text =>
    rw [Takes, next_takes d text, Except.ok.injEq, Prod.mk.injEq] at h
    rw [h.1, h.2]

/-- A whole number is read off its digits, and nothing follows them that would make another number
of it. -/
theorem numeralBody_takes_cases {minus : Bool} {text rest : List Char} {n : UInt64}
    (h : Takes (numeralBody minus) text (.unsigned n) rest) :
    minus = false ∧ text = Text.decimal n.toNat ++ rest ∧ EndsNumber rest := by
  unfold numeralBody at h
  obtain ⟨c, after, hnext, h⟩ := bind_takes_iff.1 h
  rw [next_takes_cases hnext]
  extract_lets ending collecting checking at h
  -- the digits must all fit, and what follows them is looked at before the number is done
  have hending : ∀ ds middle, Takes (ending ds) middle (.unsigned n) rest →
      minus = false ∧ n.toNat = Text.value (c :: ds) ∧ middle = rest ∧
        ∀ d, rest.head? = some d → d ≠ '.' ∧ d ≠ 'e' ∧ d ≠ 'E' := by
    intro ds middle hds
    unfold ending at hds
    split at hds
    next total taken left habsorb =>
    split at hds
    · next hempty =>
      rw [List.isEmpty_iff.1 hempty] at habsorb
      obtain ⟨hvalue, hfits⟩ := absorb_all (Nat.zero_le maxUnsigned) habsorb
      rw [peek?_bind_takes_iff] at hds
      split at hds
      · exact absurd rfl (decimalPart_ensures _ _ _ _ _ _ hds n)
      · exact absurd rfl (exponentPart_ensures _ _ _ _ _ _ hds n)
      · exact absurd rfl (exponentPart_ensures _ _ _ _ _ _ hds n)
      · next hpoint he hE =>
        split at hds
        · next hminus =>
          cases hds
          refine ⟨by simpa using hminus, ?_, rfl, fun d hd => ⟨?_, ?_, ?_⟩⟩
          · exact (toNat_ofNat_of_le hfits).trans hvalue
          · rintro rfl
            exact hpoint hd
          · rintro rfl
            exact he hd
          · rintro rfl
            exact hE hd
        · split at hds
          · exact absurd rfl (real_ensures _ _ _ _ _ _ hds n)
          · cases hds
    · rw [peek?_bind_takes_iff] at hds
      split at hds
      · exact absurd rfl (decimalPart_ensures _ _ _ _ _ _ hds n)
      · exact absurd rfl (exponentOrEnd_ensures _ _ _ _ _ _ hds n)
  split at h
  · exact absurd h throw_bind_not_takes
  next hdigit =>
  have hc : Text.isDigit c = true := by simpa using hdigit
  unfold checking at h
  split at h
  · next hzero =>
    -- a zero in front is the whole number
    obtain rfl : c = '0' := by simpa using hzero
    have hcollected : Takes (collecting ()) after (.unsigned n) rest ∧
        ∀ d, after.head? = some d → Text.isDigit d = false := by
      rw [peek?_bind_takes_iff] at h
      split at h
      · next d hd =>
        split at h
        · exact absurd h throw_bind_not_takes
        · next hd' =>
          refine ⟨h, fun d' hd'' => ?_⟩
          obtain rfl : d = d' := Option.some.inj (hd.symm.trans hd'')
          simpa using hd'
      · next hnone =>
        refine ⟨h, fun d hd => ?_⟩
        rw [hnone] at hd
        cases hd
    obtain ⟨htaken, hfollow⟩ := hcollected
    obtain ⟨hminus, hn, rfl, hend⟩ := hending [] after htaken
    have hzero : n.toNat = 0 := hn
    refine ⟨hminus, ?_, fun d hd => ⟨hfollow d hd, hend d hd⟩⟩
    rw [hzero]
    rfl
  · next hzero =>
    unfold collecting at h
    rw [if_neg hzero] at h
    obtain ⟨ds, middle, hds, hended⟩ := bind_takes_iff.1 h
    obtain ⟨rfl, hdigits, hfollow⟩ := digits_takes_cases hds
    obtain ⟨hminus, hn, rfl, hend⟩ := hending ds middle hended
    refine ⟨hminus, ?_, fun d hd => ⟨hfollow d hd, hend d hd⟩⟩
    have hne : c ≠ '0' := fun hc => hzero (beq_iff_eq.2 hc)
    have hall : ∀ d ∈ c :: ds, Text.isDigit d = true := List.forall_mem_cons.2 ⟨hc, hdigits⟩
    rw [hn, ← Text.eq_decimal_value hne hall]
    rfl

/-- A text is read as a whole number of 64 bits exactly if it begins with the digits of the number,
and nothing follows them that would make another number of it. -/
theorem numeral_takes_iff {text rest : List Char} {n : UInt64} :
    Takes numeral text (.unsigned n) rest ↔
      text = Text.decimal n.toNat ++ rest ∧ EndsNumber rest := by
  constructor
  · intro h
    unfold numeral at h
    rw [peek?_bind_takes_iff] at h
    split at h
    · -- behind a sign
      obtain ⟨_, middle, -, hbody⟩ := bind_takes_iff.1 h
      have hminus := (numeralBody_takes_cases hbody).1
      cases hminus
    · exact (numeralBody_takes_cases h).2
  · rintro ⟨rfl, hrest⟩
    have htakes := numeral_takes (Nat.le_of_lt_succ n.toNat_lt) hrest
    rwa [UInt64.ofNat_toNat] at htakes

/-! ## Numbers behind blanks -/

/-- Blanks in front are passed over. -/
theorem token_append {front : List Char} (h : ∀ c ∈ front, isSpace c = true) (text : List Char) :
    token (front ++ text) = token text := by
  have htoken? : token? (front ++ text) = token? text := by
    show Except.ok (((front ++ text).dropWhile isSpace).head?,
      (front ++ text).dropWhile isSpace) = _
    rw [List.dropWhile_append_of_pos h]
    rfl
  unfold token
  rw [bind_run, bind_run, htoken?]

theorem token_takes_cases {text rest : List Char} {c : Char} (h : Takes token text c rest) :
    ∃ front, text = front ++ rest ∧ ∀ d ∈ front, isSpace d = true := by
  obtain ⟨o, middle, hpeek, hfound⟩ := bind_takes_iff.1 h
  have hmiddle : text.dropWhile isSpace = middle := by
    cases hpeek
    rfl
  split at hfound
  · cases hfound
    refine ⟨text.takeWhile isSpace, ?_, fun d hd => List.all_eq_true.1 List.all_takeWhile d hd⟩
    rw [← hmiddle, List.takeWhile_append_dropWhile]
  · cases hfound

/-- A text is read as a whole number up to a bound exactly if it begins with the digits of such a
number, blanks in front apart, and nothing follows them that would make another number of it. -/
theorem readUnsigned_takes_iff {bound n : Nat} (hbound : bound ≤ maxUnsigned) (expected : String)
    {text rest : List Char} : Takes (readUnsigned bound expected) text n rest ↔
      n ≤ bound ∧ EndsNumber rest ∧
        ∃ front, text = front ++ Text.decimal n ++ rest ∧ ∀ c ∈ front, isSpace c = true := by
  constructor
  · intro h
    unfold readUnsigned at h
    obtain ⟨c, middle, htoken, hvalue⟩ := bind_takes_iff.1 h
    obtain ⟨front, rfl, hfront⟩ := token_takes_cases htoken
    split at hvalue
    · obtain ⟨a, after, hnumeral, hbounded⟩ := bind_takes_iff.1 hvalue
      split at hbounded
      · next m =>
        obtain ⟨rfl, hend⟩ := numeral_takes_iff.1 hnumeral
        split at hbounded
        · next hle =>
          cases hbounded
          exact ⟨hle, hend, front, (List.append_assoc _ _ _).symm, hfront⟩
        · cases hbounded
      · cases hbounded
      · cases hbounded
    · exact (refuse_ensures expected (fun _ => False) _ _ _ hvalue).elim
  · rintro ⟨hle, hend, front, rfl, hfront⟩
    have htakes := readUnsigned_takes hle hbound expected hend
    rw [chars_number] at htakes
    unfold readUnsigned at htakes ⊢
    rw [Takes, bind_run, List.append_assoc, token_append hfront]
    exact htakes

/-! ## Documents -/

/-- A text is these characters, with the blanks of JSON around them. -/
def Spaced (text : String) (core : List Char) : Prop :=
  ∃ front behind, text.toList = front ++ core ++ behind ∧ (∀ c ∈ front, isSpace c = true) ∧
    ∀ c ∈ behind, isSpace c = true

theorem readDocument_eq_ok_iff {read : Reader α} {text : String} {a : α} :
    readDocument read text = .ok a ↔
      ∃ rest, Takes read text.toList a rest ∧ ∀ c ∈ rest, isSpace c = true := by
  have hblank : ∀ rest : List Char,
      (rest.dropWhile isSpace).isEmpty = true ↔ ∀ c ∈ rest, isSpace c = true := by
    intro rest
    rw [List.isEmpty_iff, List.dropWhile_eq_nil_iff]
  unfold readDocument Takes
  cases read text.toList with
  | error p => simp
  | ok r =>
    obtain ⟨b, rest⟩ := r
    dsimp only
    split
    · next hempty =>
      rw [hblank] at hempty
      constructor
      · intro h
        cases h
        exact ⟨rest, rfl, hempty⟩
      · rintro ⟨_, h, -⟩
        cases h
        rfl
    · next hfull =>
      rw [hblank] at hfull
      constructor
      · intro h
        cases h
      · rintro ⟨_, h, hrest⟩
        cases h
        exact absurd hrest hfull

/-- Blanks end a number. -/
theorem endsNumber_of_isSpace {rest : List Char} (h : ∀ c ∈ rest, isSpace c = true) :
    EndsNumber rest := by
  intro c hc
  have hspace := h c (List.mem_of_mem_head? hc)
  simp only [isSpace, Bool.or_eq_true, beq_iff_eq] at hspace
  rcases hspace with ((rfl | rfl) | rfl) | rfl <;> decide

end SelfTrace.Json
