import Mathlib.Data.List.Basic
import Mathlib.Tactic.IntervalCases
import SelfTrace.Json.Basic
import SelfTrace.Json.Decoder

/-!
# Values read back from JSON text

What `Json.chars` writes is read as what was written, whatever text follows. A reader that takes a
value off the front of a text is put together from readers that take its parts.

* `Takes` — a reader takes a value off the front of a text;
* `stringBody_takes` — a quoted string reads as the string, with all its escapes;
* `readUnsigned_takes` — a whole number reads as the number, unless a longer one goes on;
* `readRecord_takes` — the members of an object are put into a record one after the other.
-/

namespace SelfTrace.Json

variable {α β σ : Type}

/-! ## Taking values off a text -/

/-- The reader takes a value off the front of a text and leaves the rest. -/
def Takes (read : Reader α) (text : List Char) (a : α) (rest : List Char) : Prop :=
  read text = .ok (a, rest)

theorem bind_run (read : Reader α) (next : α → Reader β) (text : List Char) :
    (read >>= next) text = read text >>= fun r => next r.1 r.2 := rfl

theorem Takes.bind_eq {read : Reader α} {text middle : List Char} {a : α}
    (h : Takes read text a middle) (next : α → Reader β) :
    (read >>= next) text = next a middle := by
  rw [bind_run, h]
  rfl

theorem Takes.bind {read : Reader α} {next : α → Reader β} {text middle rest : List Char} {a : α}
    {b : β} (h : Takes read text a middle) (hnext : Takes (next a) middle b rest) :
    Takes (read >>= next) text b rest := (h.bind_eq next).trans hnext

theorem Takes.pure (a : α) (text : List Char) : Takes (Pure.pure a) text a text := rfl

theorem Takes.map {read : Reader α} {text rest : List Char} {a : α} (h : Takes read text a rest)
    (f : α → β) : Takes (do return f (← read)) text (f a) rest := h.bind (.pure _ _)

theorem get_takes (text : List Char) : Takes get text text text := rfl

theorem peek?_takes (text : List Char) : Takes peek? text text.head? text := rfl

theorem advance_takes (c : Char) (rest : List Char) : Takes advance (c :: rest) () rest := rfl

theorem next_takes (c : Char) (rest : List Char) : Takes next (c :: rest) c rest := rfl

theorem token?_takes {c : Char} (h : isSpace c = false) (rest : List Char) :
    Takes token? (c :: rest) (some c) (c :: rest) := by
  have hdrop : (c :: rest).dropWhile isSpace = c :: rest := by simp [h]
  have htoken : token? (c :: rest) =
      .ok (((c :: rest).dropWhile isSpace).head?, (c :: rest).dropWhile isSpace) := rfl
  rw [Takes, htoken, hdrop]
  rfl

theorem token_takes {c : Char} (h : isSpace c = false) (rest : List Char) :
    Takes token (c :: rest) c (c :: rest) := (token?_takes h rest).bind (.pure _ _)

theorem word_takes (letters rest : List Char) : Takes (word letters) (letters ++ rest) () rest := by
  induction letters with
  | nil => exact .pure _ _
  | cons c letters ih =>
    refine (next_takes c (letters ++ rest)).bind ?_
    rw [if_pos (by simp)]
    exact ih

/-! ## Strings -/

/-- The digits of a control character's number, filled up to four. -/
def controlDigits (n : Nat) : List Char :=
  List.replicate (4 - (Text.hex n).length) '0' ++ Text.hex n

/-- Four digits are read whatever follows them. -/
theorem fourHex_append {digits : List Char} (h : digits.length = 4) (rest : List Char) :
    fourHex (digits ++ rest) = (fourHex digits).map fun r => (r.1, rest) := by
  have htake : (digits ++ rest).take 4 = digits.take 4 := by
    rw [List.take_append_of_le_length (Nat.le_of_eq h.symm)]
  have hdrop : (digits ++ rest).drop 4 = rest := by
    rw [← h, List.drop_left]
  unfold fourHex
  dsimp only
  rw [htake, hdrop]
  split
  · rfl
  · split
    · rfl
    · rfl

theorem fourHex_controlDigits {n : Nat} (h : n < 0x20) (rest : List Char) :
    fourHex (controlDigits n ++ rest) = .ok (n, rest) := by
  have hdigits : (controlDigits n).length = 4 ∧ fourHex (controlDigits n) = .ok (n, []) := by
    interval_cases n <;> exact ⟨rfl, rfl⟩
  rw [fourHex_append hdigits.1, hdigits.2]
  rfl

/-- A character escaped by its number is read. -/
theorem unicodeEscape_controlDigits {c : Char} (h : c.toNat < 0x20) (rest : List Char) :
    unicodeEscape (controlDigits c.toNat ++ rest) = .ok (c, rest) := by
  rw [unicodeEscape, fourHex_controlDigits h]
  change (if _ then _ else _) = _
  rw [if_neg (by simp; omega), if_pos (by simp; omega), Char.ofNat_toNat]

section Tail

variable (fuel : Nat) (text : List Char)

theorem stringTail_simpleEscape {e c : Char} (he : e ≠ 'u') (h : simpleEscape? e = some c) :
    stringTail (fuel + 1) ('\\' :: e :: text) =
      (stringTail fuel text).map fun r => (c :: r.1, r.2) := by
  rw [stringTail]
  rw [if_neg (by decide), if_pos (by decide)]
  dsimp only
  rw [if_neg (by simpa using he), h]
  cases stringTail fuel text <;> rfl

theorem stringTail_unicodeEscape {c : Char} (h : c.toNat < 0x20) :
    stringTail (fuel + 1) ('\\' :: 'u' :: (controlDigits c.toNat ++ text)) =
      (stringTail fuel text).map fun r => (c :: r.1, r.2) := by
  rw [stringTail]
  rw [if_neg (by decide), if_pos (by decide)]
  dsimp only
  rw [if_pos (by decide), unicodeEscape_controlDigits h]
  change (stringTail fuel text >>= _) = _
  cases stringTail fuel text <;> rfl

theorem stringTail_plain {c : Char} (hquote : c ≠ '"') (hslash : c ≠ '\\') (h : ¬ c.toNat < 0x20) :
    stringTail (fuel + 1) (c :: text) =
      (stringTail fuel text).map fun r => (c :: r.1, r.2) := by
  rw [stringTail.eq_def]
  dsimp only
  rw [if_neg (by simpa using hquote), if_neg (by simpa using hslash), if_neg h]
  cases stringTail fuel text <;> rfl

/-- A character that was written is read, however it was written. -/
theorem stringTail_escapedChar (c : Char) :
    stringTail (fuel + 1) (escapedChar c ++ text) =
      (stringTail fuel text).map fun r => (c :: r.1, r.2) := by
  have simple : ∀ {d e : Char}, (c == d) = true → e ≠ 'u' → simpleEscape? e = some d →
      stringTail (fuel + 1) ('\\' :: e :: text) =
        (stringTail fuel text).map fun r => (c :: r.1, r.2) := by
    intro d e hcd he hd
    rw [eq_of_beq hcd]
    exact stringTail_simpleEscape fuel text he hd
  -- one case for each way of writing a character, in the order in which the writer tries them
  unfold escapedChar
  split
  · next h => exact simple h (by decide) rfl
  split
  · next h => exact simple h (by decide) rfl
  split
  · next h => exact simple h (by decide) rfl
  split
  · next h => exact simple h (by decide) rfl
  split
  · next h => exact simple h (by decide) rfl
  split
  · next h => exact simple h (by decide) rfl
  split
  · next h => exact simple h (by decide) rfl
  split
  · next h =>
    dsimp only
    rw [List.append_assoc, List.append_assoc, List.cons_append, List.cons_append, List.nil_append,
      ← List.append_assoc]
    exact stringTail_unicodeEscape fuel text h
  · next hquote hslash _ _ _ _ _ h =>
    exact stringTail_plain fuel text (by simpa using hquote) (by simpa using hslash) h

end Tail

theorem length_flatMap_escapedChar (cs : List Char) :
    cs.length ≤ (cs.flatMap escapedChar).length := by
  have hpos : ∀ c : Char, 1 ≤ (escapedChar c).length := by
    intro c
    unfold escapedChar
    dsimp only
    split_ifs <;> simp
  induction cs with
  | nil => exact Nat.zero_le 0
  | cons c cs ih =>
    rw [List.flatMap_cons, List.length_append, List.length_cons]
    exact Nat.add_comm cs.length 1 ▸ Nat.add_le_add (hpos c) ih

theorem stringTail_chars (cs rest : List Char) {fuel : Nat} (h : cs.length < fuel) :
    stringTail fuel (cs.flatMap escapedChar ++ '"' :: rest) = .ok (cs, rest) := by
  induction cs generalizing fuel with
  | nil =>
    obtain ⟨fuel, rfl⟩ := Nat.exists_eq_succ_of_ne_zero (Nat.ne_of_gt h)
    rw [stringTail.eq_def]
    rfl
  | cons c cs ih =>
    obtain ⟨fuel, rfl⟩ := Nat.exists_eq_succ_of_ne_zero (Nat.ne_zero_of_lt h)
    rw [List.flatMap_cons, List.append_assoc, stringTail_escapedChar,
      ih (Nat.lt_of_succ_lt_succ h)]
    rfl

/-- A quoted string reads as the string, with all its escapes. -/
theorem stringBody_takes (s : String) (rest : List Char) :
    Takes stringBody (s.toList.flatMap escapedChar ++ '"' :: rest) s rest := by
  have hfuel : s.toList.length < (s.toList.flatMap escapedChar ++ '"' :: rest).length + 1 := by
    have hlength := length_flatMap_escapedChar s.toList
    rw [List.length_append]
    omega
  rw [Takes, stringBody, stringTail_chars s.toList rest hfuel]
  change Except.ok (String.ofList s.toList, rest) = _
  rw [String.ofList_toList]

theorem quote_append (s : String) (rest : List Char) :
    quote s ++ rest = '"' :: (s.toList.flatMap escapedChar ++ '"' :: rest) := by
  simp [quote]

theorem readText_takes (expected s : String) (rest : List Char) :
    Takes (readText expected) (quote s ++ rest) s rest := by
  rw [quote_append]
  refine (token_takes (by decide) _).bind ?_
  exact (advance_takes _ _).bind (stringBody_takes s rest)

/-- A string is read as what another reader makes of it. -/
theorem readParsed_takes {parse : String → Except String α} {s : String} {a : α}
    (h : parse s = .ok a) (rest : List Char) :
    Takes (readParsed parse) (quote s ++ rest) a rest := by
  refine (readText_takes "a string" s rest).bind ?_
  rw [h]
  exact .pure a rest

/-! ## Truth values and values that may be missing -/

theorem readBool_takes (b : Bool) (rest : List Char) :
    Takes readBool (chars (.bool b) ++ rest) b rest := by
  cases b with
  | true =>
    refine (token_takes (by decide) _).bind ?_
    refine (advance_takes _ _).bind ?_
    exact (word_takes ['r', 'u', 'e'] rest).bind (.pure true rest)
  | false =>
    refine (token_takes (by decide) _).bind ?_
    refine (advance_takes _ _).bind ?_
    exact (word_takes ['a', 'l', 's', 'e'] rest).bind (.pure false rest)

theorem readOption_takes_null (read : Reader α) (rest : List Char) :
    Takes (readOption read) (chars .null ++ rest) none rest := by
  refine (token?_takes (by decide) _).bind ?_
  refine (advance_takes _ _).bind ?_
  exact (word_takes ['u', 'l', 'l'] rest).bind (.pure none rest)

theorem readOption_takes_string {read : Reader α} {s : String} {a : α} {rest : List Char}
    (h : Takes read (quote s ++ rest) a rest) :
    Takes (readOption read) (quote s ++ rest) (some a) rest := by
  rw [quote_append] at h ⊢
  refine (token?_takes (by decide) _).bind ?_
  exact h.map some

/-! ## Whole numbers -/

/-- No number goes on with this text. -/
def EndsNumber (rest : List Char) : Prop :=
  ∀ c, rest.head? = some c → Text.isDigit c = false ∧ c ≠ '.' ∧ c ≠ 'e' ∧ c ≠ 'E'

theorem EndsNumber.cons {c : Char} (hdigit : Text.isDigit c = false) (hpoint : c ≠ '.')
    (he : c ≠ 'e') (hE : c ≠ 'E') (rest : List Char) : EndsNumber (c :: rest) := by
  intro d hd
  obtain rfl : c = d := by simpa using hd
  exact ⟨hdigit, hpoint, he, hE⟩

/-- A whole number of 64 bits is held as it is. -/
theorem toNat_ofNat_of_le {n : Nat} (h : n ≤ maxUnsigned) : (UInt64.ofNat n).toNat = n :=
  UInt64.toNat_ofNat_of_lt' (Nat.lt_succ_of_le h)

theorem le_ofDigitChars (s : Nat) (cs : List Char) : s ≤ Nat.ofDigitChars 10 cs s := by
  induction cs generalizing s with
  | nil => exact Nat.le_refl s
  | cons c cs ih =>
    rw [Nat.ofDigitChars_cons]
    exact Nat.le_trans (by omega) (ih _)

/-- Digits whose number fits are all taken. -/
theorem absorb_eq {significand : Nat} {cs : List Char}
    (h : Nat.ofDigitChars 10 cs significand ≤ maxUnsigned) :
    absorb significand cs = (Nat.ofDigitChars 10 cs significand, cs.length, []) := by
  induction cs generalizing significand with
  | nil => rfl
  | cons c cs ih =>
    have hgrown : 10 * significand + (c.toNat - '0'.toNat) = significand * 10 + (c.toNat - 48) := by
      rw [Nat.mul_comm]
      rfl
    rw [Nat.ofDigitChars_cons, hgrown] at h
    have hfits := Nat.le_trans (le_ofDigitChars _ cs) h
    rw [absorb, Nat.ofDigitChars_cons, hgrown]
    dsimp only
    rw [if_neg (Nat.not_lt.2 hfits), ih h]
    rfl

theorem digits_takes {cs rest : List Char} (hcs : ∀ c ∈ cs, Text.isDigit c = true)
    (hrest : EndsNumber rest) : Takes digits (cs ++ rest) cs rest := by
  have hend : rest.takeWhile Text.isDigit = [] ∧ rest.dropWhile Text.isDigit = rest := by
    cases rest with
    | nil => exact ⟨rfl, rfl⟩
    | cons c rest =>
      have hc := (hrest c rfl).1
      simp [hc]
  have hread : digits (cs ++ rest) =
      .ok ((cs ++ rest).takeWhile Text.isDigit, (cs ++ rest).dropWhile Text.isDigit) := rfl
  rw [Takes, hread, List.takeWhile_append_of_pos hcs, List.dropWhile_append_of_pos hcs, hend.1,
    hend.2, List.append_nil]

/-- Only the number zero begins with a zero. -/
theorem exists_decimal_eq_cons (n : Nat) :
    ∃ c ds, Text.decimal n = c :: ds ∧ (c = '0' → ds = []) := by
  induction n using Nat.strongRecOn with
  | ind n ih =>
    by_cases hn : n < 10
    · exact ⟨n.digitChar, [], Nat.toDigits_of_lt_base hn, fun _ => rfl⟩
    · obtain ⟨c, ds, hdecimal, hzero⟩ := ih (n / 10) (by omega)
      refine ⟨c, ds ++ [(n % 10).digitChar], ?_, ?_⟩
      · rw [Text.decimal, Nat.toDigits_of_base_le (by decide) (by omega)]
        exact congrArg (· ++ [(n % 10).digitChar]) hdecimal
      · intro hc
        have hvalue := Text.value_decimal (n / 10)
        rw [hdecimal, hzero hc, hc] at hvalue
        have : n / 10 = 0 := hvalue.symm
        omega

theorem isDigit_of_decimal_eq_cons {n : Nat} {c : Char} {ds : List Char}
    (h : Text.decimal n = c :: ds) : Text.isDigit c = true :=
  Text.isDigit_of_mem_decimal (h.symm ▸ List.mem_cons_self)

theorem isSpace_of_isDigit {c : Char} (h : Text.isDigit c = true) : isSpace c = false := by
  refine Bool.eq_false_iff.2 fun hspace => ?_
  simp only [isSpace, Bool.or_eq_true, beq_iff_eq] at hspace
  obtain ((rfl | rfl) | rfl) | rfl := hspace <;> exact absurd h (by decide)

theorem numeralBody_takes {n : Nat} (h : n ≤ maxUnsigned) {rest : List Char}
    (hrest : EndsNumber rest) :
    Takes (numeralBody false) (Text.decimal n ++ rest) (.unsigned (UInt64.ofNat n)) rest := by
  obtain ⟨c, ds, hdecimal, hzero⟩ := exists_decimal_eq_cons n
  have hdigits : ∀ d ∈ c :: ds, Text.isDigit d = true := fun d hd =>
    Text.isDigit_of_mem_decimal (hdecimal ▸ hd)
  have hn : Nat.ofDigitChars 10 (c :: ds) 0 = n := by
    rw [← hdecimal]
    exact Text.value_decimal n
  have habsorb : absorb 0 (c :: ds) = (n, (c :: ds).length, []) := by
    rw [absorb_eq (by rw [hn]; exact h), hn]
  rw [hdecimal]
  refine (next_takes c (ds ++ rest)).bind ?_
  -- the reader ends the number once its digits are collected, which it does once it has checked
  -- that nothing follows a leading zero; each of the three goes on to the one before
  extract_lets ending collecting checking
  have hending : Takes (ending ds) rest (.unsigned (UInt64.ofNat n)) rest := by
    unfold ending
    rw [habsorb]
    refine (peek?_takes rest).bind ?_
    split
    · next hpoint => exact absurd rfl (hrest _ hpoint).2.1
    · next he => exact absurd rfl (hrest _ he).2.2.1
    · next hE => exact absurd rfl (hrest _ hE).2.2.2
    · exact .pure _ rest
  have hcollecting : Takes (collecting ()) (ds ++ rest) (.unsigned (UInt64.ofNat n)) rest := by
    unfold collecting
    by_cases hc : c = '0'
    · obtain rfl := hzero hc
      rw [if_pos (by simpa using hc)]
      exact (Takes.pure [] rest).bind hending
    · rw [if_neg (by simpa using hc)]
      exact (digits_takes (fun d hd => hdigits d (List.mem_cons_of_mem c hd)) hrest).bind hending
  rw [hdigits c List.mem_cons_self]
  change Takes (checking ()) _ _ _
  unfold checking
  by_cases hc : c = '0'
  · -- a leading zero is the whole number, so that what follows is no digit
    obtain rfl := hzero hc
    rw [if_pos (by simpa using hc)]
    refine (peek?_takes ([] ++ rest)).bind ?_
    split
    · next d hd =>
      rw [if_neg (by rw [(hrest d hd).1]; decide)]
      exact hcollecting
    · exact hcollecting
  · rw [if_neg (by simpa using hc)]
    exact hcollecting

theorem numeral_takes {n : Nat} (h : n ≤ maxUnsigned) {rest : List Char} (hrest : EndsNumber rest) :
    Takes numeral (Text.decimal n ++ rest) (.unsigned (UInt64.ofNat n)) rest := by
  refine (peek?_takes _).bind ?_
  split
  · next hminus =>
    obtain ⟨c, ds, hdecimal, -⟩ := exists_decimal_eq_cons n
    have hc := isDigit_of_decimal_eq_cons hdecimal
    rw [hdecimal] at hminus
    obtain rfl : c = '-' := by simpa using hminus
    exact absurd hc (by decide)
  · exact numeralBody_takes h hrest

/-- The text of a whole number is its digits. -/
theorem chars_number (n : Nat) : chars (.number n) = Text.decimal n := by
  rw [chars, Text.signedText, if_neg (by omega), Int.natAbs_natCast, Text.decimalText,
    String.toList_ofList]

/-- A whole number reads as the number, unless a longer one goes on. -/
theorem readUnsigned_takes {n bound : Nat} (h : n ≤ bound) (hbound : bound ≤ maxUnsigned)
    (expected : String) {rest : List Char} (hrest : EndsNumber rest) :
    Takes (readUnsigned bound expected) (chars (.number n) ++ rest) n rest := by
  have hn : (UInt64.ofNat n).toNat = n := toNat_ofNat_of_le (Nat.le_trans h hbound)
  obtain ⟨c, ds, hdecimal, -⟩ := exists_decimal_eq_cons n
  have hc := isDigit_of_decimal_eq_cons hdecimal
  have hspace := isSpace_of_isDigit hc
  have hnumeral := numeral_takes (Nat.le_trans h hbound) hrest
  rw [chars_number]
  rw [hdecimal] at hnumeral ⊢
  refine (token_takes hspace _).bind ?_
  rw [if_pos (by rw [hc, Bool.or_true])]
  refine hnumeral.bind ?_
  dsimp only
  rw [hn, if_pos h]
  exact .pure n rest

/-! ## Records -/

/-- The member is read by a field of its name, whatever follows it: the field puts the value into
the record. -/
def TakesMember (fields : List (Field σ)) (m : String × Json) (put : σ → σ) : Prop :=
  ∃ field, fields.find? (·.name == m.1) = some field ∧
    ∀ record rest, EndsNumber rest →
      Takes (field.read record) (chars m.2 ++ rest) (put record) rest

theorem colon_takes (rest : List Char) : Takes colon (':' :: rest) () rest := by
  refine (token_takes (by decide) _).bind ?_
  exact advance_takes _ _

/-- Behind the first member of an object comes its end or a comma and the others. -/
theorem exists_memberChars_append (k : String) (v : Json) (ms : List (String × Json))
    (rest : List Char) :
    ∃ after, memberChars ((k, v) :: ms) ++ '\x7d' :: rest = quote k ++ ':' :: (chars v ++ after) ∧
      EndsNumber after ∧
      (ms = [] ∧ after = '\x7d' :: rest ∨
        ms ≠ [] ∧ after = ',' :: (memberChars ms ++ '\x7d' :: rest)) := by
  cases ms with
  | nil =>
    refine ⟨'\x7d' :: rest, ?_, ?_, .inl ⟨rfl, rfl⟩⟩
    · rw [memberChars, List.append_assoc, List.cons_append]
    · exact .cons (by decide) (by decide) (by decide) (by decide) rest
  | cons m ms =>
    refine ⟨',' :: (memberChars (m :: ms) ++ '\x7d' :: rest), ?_, ?_, .inr ⟨by simp, rfl⟩⟩
    · simp [memberChars]
    · exact .cons (by decide) (by decide) (by decide) (by decide) _

theorem length_memberChars (ms : List (String × Json)) : ms.length ≤ (memberChars ms).length := by
  induction ms with
  | nil => exact Nat.zero_le _
  | cons m ms ih =>
    obtain ⟨k, v⟩ := m
    cases ms with
    | nil => simp [memberChars, quote]
    | cons n ms =>
      simp only [memberChars, List.length_append, List.length_cons] at ih ⊢
      omega

/-- A member whose name is new is read by the field of its name; then comes the end of the object or
a further member. -/
theorem readMembers_eq {fields : List (Field σ)} {field : Field σ} {k : String}
    (hfield : fields.find? (·.name == k) = some field) {seen : List String} (hseen : k ∉ seen)
    (fuel : Nat) (record : σ) (text : List Char) :
    readMembers fields (fuel + 1) seen record (quote k ++ ':' :: text) =
      (field.read record >>= fun record => do
        match ← token with
        | '\x7d' => advance; return record
        | ',' => advance; readMembers fields fuel (k :: seen) record
        | _ => throw .malformed) text := by
  have hunseen : ¬ seen.contains k = true := by simpa using hseen
  rw [quote_append]
  refine ((token_takes (by decide) _).bind_eq _).trans ?_
  refine ((advance_takes _ _).bind_eq _).trans ?_
  refine ((stringBody_takes k _).bind_eq _).trans ?_
  extract_lets
  rw [hfield]
  dsimp only
  rw [if_neg hunseen]
  exact (colon_takes _).bind_eq _

/-- The names of members that are new, and differ, are new behind the first member, too. -/
theorem unseen_tail {m : String × Json} {ms : List (String × Json)} {seen : List String}
    (hnodup : ((m :: ms).map (·.1)).Nodup) (hseen : ∀ n ∈ m :: ms, n.1 ∉ seen) :
    ∀ n ∈ ms, n.1 ∉ m.1 :: seen := by
  intro n hn hmem
  rcases List.mem_cons.1 hmem with heq | hmem
  · exact (List.nodup_cons.1 hnodup).1 (List.mem_map.2 ⟨n, hn, heq⟩)
  · exact hseen n (List.mem_cons_of_mem m hn) hmem

/-- The members of an object are put into the record one after the other. `seen` are names that none
of them has. -/
theorem readMembers_takes {fields : List (Field σ)} {put : String × Json → σ → σ}
    {members : List (String × Json)} (hmembers : ∀ m ∈ members, TakesMember fields m (put m))
    (hnodup : (members.map (·.1)).Nodup) (hne : members ≠ []) {fuel : Nat}
    (hfuel : members.length ≤ fuel) {seen : List String} (hseen : ∀ m ∈ members, m.1 ∉ seen)
    (record : σ) (rest : List Char) :
    Takes (readMembers fields fuel seen record) (memberChars members ++ '\x7d' :: rest)
      (members.foldl (fun r m => put m r) record) rest := by
  induction members generalizing fuel seen record with
  | nil => exact absurd rfl hne
  | cons m ms ih =>
    obtain ⟨k, v⟩ := m
    obtain ⟨field, hfield, hread⟩ := hmembers _ List.mem_cons_self
    obtain ⟨fuel, rfl⟩ := Nat.exists_eq_succ_of_ne_zero (Nat.ne_zero_of_lt hfuel)
    obtain ⟨after, htext, hafter, hend⟩ := exists_memberChars_append k v ms rest
    rw [Takes, htext, readMembers_eq hfield (hseen _ List.mem_cons_self)]
    refine (hread record after hafter).bind ?_
    obtain ⟨rfl, rfl⟩ | ⟨hms, rfl⟩ := hend
    · refine (token_takes (by decide) _).bind ?_
      exact (advance_takes _ _).bind (.pure _ rest)
    · refine (token_takes (by decide) _).bind ?_
      refine (advance_takes _ _).bind ?_
      exact ih (fun m hm => hmembers m (List.mem_cons_of_mem _ hm)) (List.nodup_cons.1 hnodup).2 hms
        (Nat.le_of_succ_le_succ hfuel) (unseen_tail hnodup hseen) (put (k, v) record)

theorem chars_object_append (members : List (String × Json)) (rest : List Char) :
    chars (.object members) ++ rest = '\x7b' :: (memberChars members ++ '\x7d' :: rest) := by
  simp [chars]

/-- An object with members is read member by member. -/
theorem readRecord_eq {members : List (String × Json)} (hne : members ≠ []) (expected : String)
    (fields : List (Field σ)) (record : σ) (rest : List Char) :
    ∃ fuel, members.length ≤ fuel ∧
      readRecord expected fields record (chars (.object members) ++ rest) =
        readMembers fields fuel [] record (memberChars members ++ '\x7d' :: rest) := by
  obtain ⟨m, ms, rfl⟩ := List.exists_cons_of_ne_nil hne
  refine ⟨(memberChars (m :: ms) ++ '\x7d' :: rest).length + 1, ?_, ?_⟩
  · have hlength := length_memberChars (m :: ms)
    rw [List.length_append]
    omega
  · rw [chars_object_append]
    refine ((token_takes (by decide) _).bind_eq _).trans ?_
    refine ((advance_takes _ _).bind_eq _).trans ?_
    obtain ⟨after, hafter, -⟩ := exists_memberChars_append m.1 m.2 ms rest
    rw [hafter, quote_append]
    refine ((token_takes (by decide) _).bind_eq _).trans ?_
    exact (get_takes _).bind_eq _

/-- An object of members that are read by their fields, in any order, reads as the record with the
values of the members put in. -/
theorem readRecord_takes {fields : List (Field σ)} (put : String × Json → σ → σ)
    {members : List (String × Json)} (hmembers : ∀ m ∈ members, TakesMember fields m (put m))
    (hnodup : (members.map (·.1)).Nodup) (expected : String) (record : σ) (rest : List Char) :
    Takes (readRecord expected fields record) (chars (.object members) ++ rest)
      (members.foldl (fun r m => put m r) record) rest := by
  cases members with
  | nil =>
    rw [chars_object_append]
    refine (token_takes (by decide) _).bind ?_
    refine (advance_takes _ _).bind ?_
    refine (token_takes (by decide) _).bind ?_
    exact (advance_takes _ _).bind (.pure record rest)
  | cons m ms =>
    obtain ⟨fuel, hfuel, hread⟩ :=
      readRecord_eq (List.cons_ne_nil m ms) expected fields record rest
    rw [Takes, hread]
    exact readMembers_takes hmembers hnodup (List.cons_ne_nil m ms) hfuel
      (fun _ _ => List.not_mem_nil) record rest

/-- A text that a reader takes as a whole is the document of that value. -/
theorem readDocument_eq {read : Reader α} {j : Json} {a : α} (h : Takes read (chars j) a []) :
    readDocument read j.text = .ok a := by
  rw [readDocument, text, String.toList_ofList, h]
  rfl

end SelfTrace.Json
