import Mathlib.Algebra.Group.Nat.Defs
import Mathlib.Data.List.Nodup
import Mathlib.Logic.Relation
import SelfTrace.Introspection.Token
import SelfTrace.Proofs.MarkerNames

/-!
# Tokens of one process

A call of the token maker reads the clock and then takes the next number; any number of calls can
be under way at once. `Calls.Step` says what the calls of one process do, one small action after
another, and the clock may read anything at any time.

* `Text.hexNumber?_hex` — the hexadecimal text of a number reads back as that number;
* `Token.read?_text` — a token tells the time and the number it was made of;
* `Calls.Numbered` — the calls have taken their numbers one after another, whatever the clock read;
* `tokens_of_calls` — tokens of fewer than 2^64 calls differ, can be read, and can be published.
-/

namespace SelfTrace

/-! ## Hexadecimal text -/

namespace Text

/-- The number that hexadecimal digits write, if all characters are such digits. -/
def hexNumber? (cs : List Char) : Option Nat :=
  cs.foldlM (fun n c => (hexDigit? c).map (16 * n + ·)) 0

theorem hex_eq (n : Nat) :
    hex n = if n < 16 then [n.digitChar] else hex (n / 16) ++ [(n % 16).digitChar] :=
  Nat.toDigits_eq_if (by decide)

theorem hexDigit?_digitChar : ∀ d < 16, hexDigit? d.digitChar = some d := by decide

theorem isSome_hexDigit?_of_mem_hex {n : Nat} {c : Char} (h : c ∈ hex n) :
    (hexDigit? c).isSome := by
  induction n using Nat.strongRecOn with
  | ind n ih =>
    rw [hex_eq] at h
    split at h
    · next hlt =>
      rw [List.mem_singleton] at h
      rw [h, hexDigit?_digitChar n hlt]
      rfl
    · next hlt =>
      rcases List.mem_append.1 h with hfront | hlast
      · exact ih (n / 16) (by omega) hfront
      · rw [List.mem_singleton] at hlast
        rw [hlast, hexDigit?_digitChar (n % 16) (by omega)]
        rfl

/-- A character that is no hexadecimal digit is not in the text of a number. -/
theorem not_mem_hex {n : Nat} {c : Char} (h : hexDigit? c = none) : c ∉ hex n := by
  intro hmem
  have hsome := isSome_hexDigit?_of_mem_hex hmem
  rw [h] at hsome
  cases hsome

/-- The hexadecimal text of a number reads back as that number. -/
theorem hexNumber?_hex (n : Nat) : hexNumber? (hex n) = some n := by
  -- as digits are written: the last one behind those of what is left of the number
  induction n using Nat.strongRecOn with
  | ind n ih =>
    rw [hex_eq]
    split
    · next hlt => simp [hexNumber?, hexDigit?_digitChar n hlt]
    · next hlt =>
      have hfront : (hex (n / 16)).foldlM (fun n c => (hexDigit? c).map (16 * n + ·)) 0 =
          some (n / 16) := ih (n / 16) (by omega)
      rw [hexNumber?, List.foldlM_append, hfront]
      simp [hexDigit?_digitChar (n % 16) (by omega)]
      omega

end Text

/-! ## One token -/

namespace Token

/-- The time and the number that a token tells, in front of its first `-` and behind it. -/
def read? (token : String) : Option (Nat × Nat) := do
  let cs := token.toList
  let nanos ← Text.hexNumber? (cs.takeWhile (· != '-'))
  let seq ← Text.hexNumber? ((cs.dropWhile (· != '-')).drop 1)
  return (nanos, seq)

theorem toList_text (nanos : Nat) (seq : UInt64) :
    (text nanos seq).toList = Text.hex nanos ++ '-' :: Text.hex seq.toNat := by
  rw [text, chars, String.toList_ofList]

/-- A token tells the time and the number it was made of. -/
theorem read?_text (nanos : Nat) (seq : UInt64) :
    read? (text nanos seq) = some (nanos, seq.toNat) := by
  have hhyphen : '-' ∉ Text.hex nanos := Text.not_mem_hex (by decide)
  rw [read?, toList_text, Text.takeWhile_ne_append hhyphen, Text.dropWhile_ne_append hhyphen,
    List.drop_one, List.tail_cons, Text.hexNumber?_hex, Text.hexNumber?_hex]
  rfl

/-- Tokens are the same only if both their times and their numbers are. -/
theorem text_inj {nanos nanos' : Nat} {seq seq' : UInt64} :
    text nanos seq = text nanos' seq' ↔ nanos = nanos' ∧ seq = seq' := by
  constructor
  · -- the same text reads back as both pairs
    intro h
    have hread := congrArg read? h
    rw [read?_text, read?_text] at hread
    injection hread with hpair
    injection hpair with hnanos hseq
    exact ⟨hnanos, UInt64.toNat_inj.1 hseq⟩
  · rintro ⟨rfl, rfl⟩
    rfl

theorem slash_not_mem_text (nanos : Nat) (seq : UInt64) : '/' ∉ (text nanos seq).toList := by
  rw [toList_text]
  simp only [List.mem_append, List.mem_cons, not_or]
  exact ⟨Text.not_mem_hex (by decide), by decide, Text.not_mem_hex (by decide)⟩

end Token

/-! ## Publishing a token -/

namespace MarkerDirectory

variable {d : MarkerDirectory} {key value : String} {s : Scene Published}

/-- Where a property can be expressed, only the files can be in the way of its publication. -/
theorem publish_os (h : expressible key value = true) {e : IntrospectError}
    (he : ((d.publish key value).runOn s).1 = .error e) : ∃ cause, e = .os cause := by
  unfold publish at he
  rw [h] at he
  simp only [Bool.not_true, Bool.false_eq_true, if_false] at he
  rw [Act.runOn_bind] at he
  -- whatever was withdrawn, only the directories and the file are still to be made
  generalize ((retract key).runOn s).2 = t at he
  rcases hmake : t.files.makeAllDirs d.dir with ⟨made, cause | _⟩
  · rw [Act.runOn_bind, Act.runOn_alter hmake] at he
    injection he with he
    exact ⟨cause, he.symm⟩
  · rw [Act.runOn_bind, Act.runOn_alter hmake] at he
    dsimp only at he
    cases hwrite : made.write (Path.join d.dir (Text.octets (markerName key value))) [] with
    | error cause =>
      rw [Act.runOn_bind, Act.runOn_change_error hwrite] at he
      injection he with he
      exact ⟨cause, he.symm⟩
    | ok written =>
      rw [Act.runOn_bind, Act.runOn_change_ok hwrite] at he
      cases he

/-- A value that can be told from the name of its marker, and that no directory refuses as one
that cannot be expressed, whatever has been published before. -/
structure Admissible (key value : String) : Prop where
  named : expressible key value = true
  publishes : ∀ (d : MarkerDirectory) (s : Scene Published) (reason : String),
    ((d.publish key value).runOn s).1 ≠ .error (.unsupported reason)
  told : splitMarker? (markerName key value).toList = some (key.toList, value.toList)

theorem Admissible.of_expressible (h : expressible key value = true) : Admissible key value where
  named := h
  publishes := by
    intro d s reason hrefused
    obtain ⟨cause, hcause⟩ := publish_os h hrefused
    cases hcause
  told := splitMarker?_markerName (expressible_iff.1 h).2.1

/-- Tokens are values of the marker's key. -/
theorem admissible_text (nanos : Nat) (seq : UInt64) :
    Admissible markerKey (Token.text nanos seq) :=
  have hslash : '/' ∉ markerKey.toList := by decide
  have hequals : '=' ∉ markerKey.toList := by decide
  .of_expressible (expressible_iff.2 ⟨hslash, hequals, Token.slash_not_mem_text nanos seq⟩)

end MarkerDirectory

/-! ## The calls of a process -/

/-- A call that has come to its end: what it read, the number it took and the token it made. -/
structure Call where
  reading : Int
  number : UInt64
  token : String

/-- The calls of one process: the number that is next, what the calls under way have read, and the
calls that have ended, in the order of their numbers. A reading is in nanoseconds from the epoch of
the clock, negative before it. -/
structure Calls where
  next : UInt64
  underWay : List Int := []
  ended : List Call := []

namespace Calls

variable {start : UInt64} {c c' : Calls}

/-- What a call has read, as a source that has one reading: before the epoch it counts as zero. -/
def source (next : UInt64) (reading : Int) : TokenSource := ⟨next, [reading.toNat]⟩

/-- One small action. Which of the calls under way takes the next number is left open, and so is
what the clock reads. -/
inductive Step : Calls → Calls → Prop where
  | reads (c : Calls) (now : Int) : Step c { c with underWay := now :: c.underWay }
  | takes (c : Calls) (front back : List Int) (reading : Int)
      (h : c.underWay = front ++ reading :: back) :
      Step c {
        next := (source c.next reading).next.2.issued
        underWay := front ++ back
        ended := c.ended ++ [⟨reading, c.next, (source c.next reading).next.1⟩] }

/-- Any number of small actions. -/
abbrev Steps : Calls → Calls → Prop := Relation.ReflTransGen Step

/-- The action that issues a token is one call that no other call interrupts. -/
theorem steps_freshToken {σ : Type} (s : Scene σ) (c : Calls) (h : c.next = s.tokens.issued) :
    Steps c {
      next := (Act.freshToken.runOn s).2.tokens.issued
      underWay := c.underWay
      ended := c.ended ++
        [⟨s.tokens.readings.headD 0, s.tokens.issued, (Act.freshToken.runOn s).1⟩] } := by
  obtain ⟨next, underWay, ended⟩ := c
  subst h
  have hreads := Step.reads ⟨s.tokens.issued, underWay, ended⟩ (s.tokens.readings.headD 0)
  have htakes := Step.takes ⟨s.tokens.issued, s.tokens.readings.headD 0 :: underWay, ended⟩
    [] underWay (s.tokens.readings.headD 0) rfl
  exact (Relation.ReflTransGen.single hreads).tail htakes

/-- The calls that have ended took consecutive numbers, from a first one on, and each made its token
of its own number and its own reading. -/
structure Numbered (start : UInt64) (c : Calls) : Prop where
  next : c.next = start + UInt64.ofNat c.ended.length
  numbers : c.ended.map (·.number) =
    (List.range c.ended.length).map fun i => start + UInt64.ofNat i
  tokens : ∀ call ∈ c.ended, call.token = Token.text call.reading.toNat call.number

theorem Numbered.fresh (start : UInt64) : Numbered start { next := start } where
  next := by simp
  numbers := rfl
  tokens call h := by cases h

theorem Numbered.step (h : Numbered start c) (hstep : Step c c') : Numbered start c' := by
  cases hstep with
  | reads now => exact ⟨h.next, h.numbers, h.tokens⟩
  | takes front back reading hunder =>
    refine ⟨?_, ?_, ?_⟩
    · show c.next + 1 = _
      rw [h.next, List.length_append, UInt64.ofNat_add, UInt64.add_assoc]
      rfl
    · rw [List.map_append, h.numbers, List.length_append, List.length_singleton, List.range_succ,
        List.map_append, List.map_singleton, List.map_singleton, h.next]
    · intro call hmem
      rcases List.mem_append.1 hmem with hold | hnew
      · exact h.tokens call hold
      · rw [List.mem_singleton.1 hnew]
        rfl

/-- Numbers and tokens are in order after any actions. -/
theorem numbered_of_steps (h : Steps { next := start } c) : Numbered start c := by
  induction h with
  | refl => exact .fresh start
  | tail _ hlast ih => exact ih.step hlast

/-- Fewer than 2^64 consecutive numbers do not meet. -/
theorem Numbered.numbers_differ (h : Numbered start c) (hfew : c.ended.length < 2 ^ 64) :
    c.ended.Pairwise fun a b => a.number ≠ b.number := by
  have hnodup : (c.ended.map (·.number)).Nodup := by
    rw [h.numbers]
    -- the sum with the first number wraps around, but undoes no difference below 2^64
    refine List.nodup_range.map_on ?_
    intro i hi j hj heq
    rw [List.mem_range] at hi hj
    have hsame : UInt64.ofNat i = UInt64.ofNat j := (UInt64.add_right_inj start).1 heq
    have htoNat := congrArg UInt64.toNat hsame
    rwa [UInt64.toNat_ofNat', UInt64.toNat_ofNat', Nat.mod_eq_of_lt (by omega),
      Nat.mod_eq_of_lt (by omega)] at htoNat
  exact List.pairwise_map.1 hnodup

end Calls

/-- Whatever the clock reads and however the calls of a process take turns: of fewer than 2^64
calls, any two have made different tokens. Each token tells the time that was read, zero before the
epoch, and the number that was taken, and is a value that the marker's key can be published with. -/
theorem tokens_of_calls {start : UInt64} {c : Calls} (h : Calls.Steps { next := start } c)
    (hfew : c.ended.length < 2 ^ 64) :
    c.ended.Pairwise (fun a b => a.token ≠ b.token) ∧
    ∀ call ∈ c.ended,
      Token.read? call.token = some (call.reading.toNat, call.number.toNat) ∧
      MarkerDirectory.Admissible markerKey call.token := by
  have hnumbered := Calls.numbered_of_steps h
  constructor
  · -- the numbers alone make the difference; nothing is known of the readings
    refine (hnumbered.numbers_differ hfew).imp_of_mem ?_
    intro a b ha hb hnumber htoken
    rw [hnumbered.tokens a ha, hnumbered.tokens b hb, Token.text_inj] at htoken
    exact hnumber htoken.2
  · intro call hmem
    rw [hnumbered.tokens call hmem]
    exact ⟨Token.read?_text _ _, MarkerDirectory.admissible_text _ _⟩

/-- Two calls that both read the same time before the epoch until one of them took its number, and
a later one, for which the clock has gone further back. -/
def threeCalls : Calls where
  next := 258
  ended := [⟨-5, 255, "0-ff"⟩, ⟨-5, 256, "0-100"⟩, ⟨-70, 257, "0-101"⟩]

theorem tokens_of_threeCalls :
    Calls.Steps { next := 255 } threeCalls ∧ threeCalls.ended.length < 2 ^ 64 ∧
    threeCalls.ended.Pairwise (fun a b => a.token ≠ b.token) ∧
    ∀ call ∈ threeCalls.ended,
      Token.read? call.token = some (call.reading.toNat, call.number.toNat) ∧
      MarkerDirectory.Admissible markerKey call.token := by
  have hread : Calls.Steps { next := 255 } ⟨255, [-5, -5], []⟩ :=
    (Relation.ReflTransGen.single (.reads _ (-5))).tail (.reads _ (-5))
  have htaken : Calls.Steps { next := 255 } ⟨257, [], [⟨-5, 255, "0-ff"⟩, ⟨-5, 256, "0-100"⟩]⟩ :=
    (hread.tail (.takes _ [-5] [] (-5) rfl)).tail (.takes _ [] [] (-5) rfl)
  have hall : Calls.Steps { next := 255 } threeCalls :=
    (htaken.tail (.reads _ (-70))).tail (.takes _ [] [] (-70) rfl)
  have hfew : threeCalls.ended.length < 2 ^ 64 := by decide
  exact ⟨hall, hfew, tokens_of_calls hall hfew⟩

end SelfTrace
