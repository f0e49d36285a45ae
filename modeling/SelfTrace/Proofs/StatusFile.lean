import Mathlib.Data.List.TakeWhile
import SelfTrace.Proofs.Octets
import SelfTrace.Proofs.WrittenIds
import SelfTrace.Resolver.Probe

/-!
# The number in front of a status file

The probe by a status file reads its first ten octets, no more, and takes the digits that they start
with for an id.

* `LeadingDigits` — the longest run of digits that octets start with;
* `Probe.leadingId_eq_ok_iff` — the id that octets start with;
* `procStat_reads_front` — what the probe answers for every content of the file.
-/

namespace SelfTrace

/-! ## Digits in front -/

/-- The octet of an ASCII digit. -/
def DigitOctet (b : UInt8) : Prop := 48 ≤ b.toNat ∧ b.toNat ≤ 57

/-- The number that digits write. -/
def numberOf (digits : Bytes) : Nat := digits.foldl (fun n b => 10 * n + (b.toNat - 48)) 0

/-- Octets start with these digits, and no digit follows them. -/
structure LeadingDigits (octets digits : Bytes) : Prop where
  all : ∀ b ∈ digits, DigitOctet b
  longest : ∃ rest, octets = digits ++ rest ∧ ∀ b, rest.head? = some b → ¬DigitOctet b

theorem isDigitOctet_iff (b : UInt8) : Probe.isDigitOctet b = true ↔ DigitOctet b := by
  simp [Probe.isDigitOctet, DigitOctet, UInt8.le_iff_toNat_le]

/-- Every sequence of octets starts with one longest run of digits. -/
theorem leadingDigits_iff {octets digits : Bytes} :
    LeadingDigits octets digits ↔ digits = octets.takeWhile Probe.isDigitOctet := by
  constructor
  · rintro ⟨hdigits, rest, rfl, hrest⟩
    have hinside : ∀ b ∈ digits, Probe.isDigitOctet b = true :=
      fun b hb => (isDigitOctet_iff b).2 (hdigits b hb)
    have hstop : rest.takeWhile Probe.isDigitOctet = [] := by
      cases rest with
      | nil => rfl
      | cons b rest =>
        have hb : ¬Probe.isDigitOctet b = true := by
          rw [isDigitOctet_iff]
          exact hrest b rfl
        rw [List.takeWhile_cons_of_neg hb]
    rw [List.takeWhile_append_of_pos hinside, hstop, List.append_nil]
  · rintro rfl
    refine ⟨?_, octets.dropWhile Probe.isDigitOctet, List.takeWhile_append_dropWhile.symm, ?_⟩
    · intro b hb
      exact (isDigitOctet_iff b).1 (List.mem_takeWhile_imp hb)
    · intro b hb
      have hnot := List.head?_dropWhile_not Probe.isDigitOctet octets
      rw [hb] at hnot
      rw [← isDigitOctet_iff]
      simpa using hnot

/-! ## Digits as text -/

namespace Text

/-- Digits are written by one octet each. -/
theorem encode_of_isDigit {cs : List Char} (h : ∀ c ∈ cs, isDigit c = true) :
    encode cs = cs.map fun c => UInt8.ofNat c.toNat := by
  induction cs with
  | nil => rfl
  | cons c cs ih =>
    have hc := toNat_of_isDigit (h c List.mem_cons_self)
    have hrest := ih fun c' hc' => h c' (List.mem_cons_of_mem c hc')
    rw [encode] at hrest
    rcases utf8EncodeChar_cases c with ⟨-, hone⟩ | ⟨hlarge, -⟩ | ⟨hlarge, -⟩ | ⟨hlarge, -⟩
    · rw [encode, List.flatMap_cons, hone, hrest]
      rfl
    all_goals omega

/-- Digits write the same number as text and as octets. -/
theorem numberOf_encode {cs : List Char} (h : ∀ c ∈ cs, isDigit c = true) :
    numberOf (encode cs) = value cs := by
  rw [encode_of_isDigit h, numberOf, value, Nat.ofDigitChars, List.foldl_map]
  refine List.foldl_ext _ _ 0 ?_
  intro n c hc
  have hbounds := toNat_of_isDigit (h c hc)
  rw [UInt8.toNat_ofNat_of_lt' (by omega : c.toNat < 256)]
  rfl

/-- The digits of some octets. -/
def digitChars (digits : Bytes) : List Char := digits.map fun b => Char.ofNat b.toNat

theorem toNat_ofNat_of_digit {b : UInt8} (h : DigitOctet b) :
    (Char.ofNat b.toNat).toNat = b.toNat := by
  have hvalid : b.toNat.isValidChar := by
    unfold DigitOctet at h
    exact .inl (by omega)
  rw [Char.ofNat, dif_pos hvalid]
  rfl

theorem isDigit_of_mem_digitChars {digits : Bytes} (h : ∀ b ∈ digits, DigitOctet b) {c : Char}
    (hc : c ∈ digitChars digits) : isDigit c = true := by
  rcases List.mem_map.1 hc with ⟨b, hb, rfl⟩
  have hnat := toNat_ofNat_of_digit (h b hb)
  rcases h b hb with ⟨hlow, hhigh⟩
  rw [← hnat] at hlow hhigh
  simp only [isDigit, Char.isDigit, Bool.and_eq_true, decide_eq_true_eq]
  exact ⟨hlow, hhigh⟩

/-- Octets of digits are those of a text of digits. -/
theorem encode_digitChars {digits : Bytes} (h : ∀ b ∈ digits, DigitOctet b) :
    encode (digitChars digits) = digits := by
  rw [encode_of_isDigit fun c hc => isDigit_of_mem_digitChars h hc, digitChars, List.map_map]
  conv_rhs => rw [← List.map_id digits]
  refine List.map_congr_left ?_
  intro b hb
  show UInt8.ofNat (Char.ofNat b.toNat).toNat = b
  rw [toNat_ofNat_of_digit (h b hb), UInt8.ofNat_toNat]

theorem lossyText_digits {digits : Bytes} (h : ∀ b ∈ digits, DigitOctet b) :
    lossyText digits = String.ofList (digitChars digits) := by
  have hscan := scan_encode (digitChars digits)
  rw [encode_digitChars h] at hscan
  rw [lossyText, decodeLossy, hscan, List.map_map]
  congr 1
  exact List.map_id _

end Text

/-! ## The id in front -/

namespace Probe

/-- What octets start with is an id exactly if it is digits, at least one, that write the number of
an id. -/
theorem leadingId_eq_ok_iff {front : Bytes} {p : ProcessId} :
    leadingId front = .ok p ↔ ∃ digits, LeadingDigits front digits ∧ digits ≠ [] ∧
      numberOf digits = p.raw.toNat ∧ 0 < numberOf digits := by
  -- the run of digits is opened by what it is, not by how it is taken
  have hlead : LeadingDigits front (front.takeWhile isDigitOctet) := leadingDigits_iff.2 rfl
  unfold leadingId
  generalize front.takeWhile isDigitOctet = ds at hlead
  have hunique : ∀ digits, LeadingDigits front digits → digits = ds := by
    intro digits hdigits
    rw [leadingDigits_iff.1 hdigits, leadingDigits_iff.1 hlead]
  have hparse : ds ≠ [] →
      ProcessId.parse? (Text.lossyText ds) = ProcessId.ofNat? (numberOf ds) := by
    intro hne
    have hchars : Text.digitChars ds ≠ [] := by simpa [Text.digitChars] using hne
    have hdigits := fun c hc => Text.isDigit_of_mem_digitChars hlead.all (c := c) hc
    rw [Text.lossyText_digits hlead.all, ProcessId.parse?_ofList hchars hdigits,
      ← Text.numberOf_encode hdigits, Text.encode_digitChars hlead.all]
  constructor
  · intro h
    dsimp only at h
    split at h
    · cases h
    · next hempty =>
      have hne : ds ≠ [] := by simpa using hempty
      split at h
      · next pid hpid =>
        rcases Except.ok.inj h with rfl
        rw [ProcessId.parse_eq_ok_iff, hparse hne, ProcessId.ofNat?_eq_some_iff] at hpid
        exact ⟨ds, hlead, hne, hpid⟩
      · cases h
  · rintro ⟨digits, hdigits, hne, hnumber, hpos⟩
    rcases hunique digits hdigits with rfl
    have hpid : ProcessId.parse (Text.lossyText digits) = .ok p := by
      rw [ProcessId.parse_eq_ok_iff, hparse hne, ProcessId.ofNat?_eq_some_iff]
      exact ⟨hnumber, hpos⟩
    dsimp only
    rw [if_neg (by simpa using hne), hpid]

/-- What octets start with is an id or malformed. -/
theorem leadingId_cases (front : Bytes) :
    (∃ p, leadingId front = .ok p) ∨ ∃ reason, leadingId front = .error (.malformed reason) := by
  unfold leadingId
  dsimp only
  split
  · exact .inr ⟨_, rfl⟩
  · split
    · exact .inl ⟨_, rfl⟩
    · exact .inr ⟨_, rfl⟩

/-- The octets of an id's text are read as the id, whatever comes behind them but a digit, for all
digits of an id are within what is read. -/
theorem leadingId_text {p : ProcessId} (hp : 0 < p.raw.toNat) {rest : Bytes}
    (hrest : ∀ b, rest.head? = some b → ¬DigitOctet b) :
    leadingId ((Text.octets p.text ++ rest).take statBudget) = .ok p := by
  have hchars : Text.octets p.text = Text.encode p.chars := by
    rw [Text.octets, ProcessId.text, String.toList_ofList]
  have hdigits := fun c hc => ProcessId.isDigit_of_mem_chars (p := p) (c := c) hc
  have hmap := Text.encode_of_isDigit hdigits
  -- an id has ten digits at most, and ten octets are read
  have hlength : (Text.encode p.chars).length ≤ statBudget := by
    have hlt : p.raw.toNat < 10 ^ 10 := Nat.lt_trans p.raw.toNat_lt (by decide)
    rw [hmap, List.length_map]
    exact (Nat.length_toDigits_le_iff (by decide) (by decide)).2 hlt
  have hnumber : numberOf (Text.encode p.chars) = p.raw.toNat := by
    rw [Text.numberOf_encode hdigits]
    exact Text.value_decimal _
  rw [hchars, List.take_append, List.take_of_length_le hlength, leadingId_eq_ok_iff]
  refine ⟨Text.encode p.chars, ⟨?_, _, rfl, ?_⟩, ?_, hnumber, by omega⟩
  · rw [hmap]
    intro b hb
    rcases List.mem_map.1 hb with ⟨c, hc, rfl⟩
    have hbounds := Text.toNat_of_isDigit (hdigits c hc)
    rw [DigitOctet, UInt8.toNat_ofNat_of_lt' (by omega : c.toNat < 256)]
    exact hbounds
  · -- what is cut off the rest does not change how it starts
    intro b hb
    refine hrest b ?_
    cases rest with
    | nil => simp at hb
    | cons b' rest =>
      cases hleft : statBudget - (Text.encode p.chars).length with
      | zero => simp [hleft] at hb
      | succ left => simpa [hleft] using hb
  · rw [hmap]
    simpa using p.chars_ne_nil

end Probe

/-- What the probe answers is told by the first ten octets of the file. It is an id exactly if they
start with digits, at least one, whose longest run writes the number of the id; every other content
is malformed. So the text of an id in front of the file is read as the id, unless more digits follow
it. -/
theorem procStat_reads_front {σ : Type} {path : Path} {s : Scene σ} {content : Bytes}
    (h : s.files.read path = .ok content) :
    let after := (Probe.procStat path).run.runOn s
    after.2 = s ∧
    (∀ (other : Path) (t : Scene σ) (content' : Bytes), t.files.read other = .ok content' →
      content'.take 10 = content.take 10 → ((Probe.procStat other).run.runOn t).1 = after.1) ∧
    (∀ p, after.1 = .ok p ↔ ∃ digits, LeadingDigits (content.take 10) digits ∧ digits ≠ [] ∧
      numberOf digits = p.raw.toNat ∧ 1 ≤ numberOf digits ∧ numberOf digits ≤ 4294967295) ∧
    ((∀ p, after.1 ≠ .ok p) → ∃ reason, after.1 = .error (.malformed reason)) ∧
    (∀ (p : ProcessId) (rest : Bytes), 1 ≤ p.raw.toNat → content = Text.octets p.text ++ rest →
      (∀ b, rest.head? = some b → ¬DigitOctet b) → after.1 = .ok p) := by
  intro after
  -- the front of the file alone tells the answer, at any path and in any scene
  have hrun : ∀ {other : Path} {t : Scene σ} {content' : Bytes}, t.files.read other = .ok content' →
      (Probe.procStat other).run.runOn t = (Probe.leadingId (content'.take 10), t) := by
    intro other t content' hread
    have hfront : t.files.readFront other Probe.statBudget = .ok (content'.take 10) := by
      rw [Files.Tree.readFront, hread]
      rfl
    rw [Probe.procStat, Act.runOn_bind, Act.runOn_look, hfront]
    rfl
  have hafter : after = (Probe.leadingId (content.take 10), s) := hrun h
  rw [hafter]
  refine ⟨rfl, ?_, ?_, ?_, ?_⟩
  · intro other t content' hread hsame
    rw [hrun hread, hsame]
  · intro p
    rw [Probe.leadingId_eq_ok_iff]
    have hlt : p.raw.toNat < 4294967296 := p.raw.toNat_lt
    constructor
    · rintro ⟨digits, hdigits, hne, hnumber, hpos⟩
      refine ⟨digits, hdigits, hne, hnumber, hpos, ?_⟩
      omega
    · rintro ⟨digits, hdigits, hne, hnumber, hpos, -⟩
      exact ⟨digits, hdigits, hne, hnumber, hpos⟩
  · intro hnone
    rcases Probe.leadingId_cases (content.take 10) with ⟨p, hp⟩ | hmalformed
    · exact absurd hp (hnone p)
    · exact hmalformed
  · rintro p rest hp hcontent hrest
    have hid := Probe.leadingId_text hp hrest
    rw [Probe.statBudget, ← hcontent] at hid
    dsimp only
    rw [hid]

/-- A run of digits that is longer than what is read is cut, and its zeros in front count as
digits. -/
theorem procStat_reads_front_cut :
    let content := Text.octets "00000000421 (x) S"
    let files : Files.Tree := { entries := [⟨[Text.octets "stat"], .file content, 0o444, 0⟩] }
    files.read (Text.octets "/stat") = .ok content ∧
      ((Probe.procStat (Text.octets "/stat")).run.runOn ({ state := (), files } : Scene Unit)).1 =
        .ok ⟨42⟩ := by
  have hread : ({ entries := [⟨[Text.octets "stat"], .file (Text.octets "00000000421 (x) S"), 0o444,
      0⟩] } : Files.Tree).read (Text.octets "/stat") = .ok (Text.octets "00000000421 (x) S") := by
    decide +kernel
  have hdigits : LeadingDigits ((Text.octets "00000000421 (x) S").take 10)
      (Text.octets "0000000042") :=
    leadingDigits_iff.2 (by decide +kernel)
  intro content files
  refine ⟨hread, ((procStat_reads_front hread).2.2.1 ⟨42⟩).2 ⟨_, hdigits, ?_, ?_⟩⟩
  · decide +kernel
  · decide +kernel

end SelfTrace
