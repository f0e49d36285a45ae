import SelfTrace.Proofs.JsonNumerals

/-!
# Where ids come from

An id is made of a number, read from a text or read from a JSON document. Numbers and texts never
give zero, the id of no process. A document gives it: it is taken for any number of 32 bits. Such an
id is read back from its JSON text, as all are, but not from its plain text.

* `reader_takes_iff` — the JSON text that is read as an id: its digits, as they are written;
* `Source` — what an id is obtained from;
* `obtained_ids` — which ids are obtained, and which of their texts read as the id again.
-/

namespace SelfTrace.ProcessId

/-! ## Numbers and documents -/

theorem ofRaw?_eq_some_iff {raw : UInt32} {p : ProcessId} :
    ofRaw? raw = some p ↔ raw = p.raw ∧ raw ≠ 0 := by
  unfold ofRaw?
  constructor
  · intro h
    split at h
    · cases h
    · next hne =>
      cases h
      exact ⟨rfl, hne⟩
  · rintro ⟨rfl, hne⟩
    rw [if_neg hne]

/-- JSON text is read as an id exactly if it begins with the digits of the id, blanks in front
apart, and nothing follows them that would make another number of it. -/
theorem reader_takes_iff {text rest : List Char} {p : ProcessId} :
    Json.Takes reader text p rest ↔ Json.EndsNumber rest ∧
      ∃ front, text = front ++ p.chars ++ rest ∧ ∀ c ∈ front, Json.isSpace c = true := by
  have hbound : maxRaw ≤ Json.maxUnsigned := by decide
  unfold reader
  rw [Json.bind_takes_iff]
  constructor
  · rintro ⟨n, middle, hread, hp⟩
    cases hp
    obtain ⟨hle, hend, front, htext, hfront⟩ := (Json.readUnsigned_takes_iff hbound _).1 hread
    have hraw : (UInt32.ofNat n).toNat = n := UInt32.toNat_ofNat_of_lt' (Nat.lt_succ_of_le hle)
    refine ⟨hend, front, ?_, hfront⟩
    rw [chars, hraw]
    exact htext
  · rintro ⟨hend, hfront⟩
    refine ⟨p.raw.toNat, rest,
      (Json.readUnsigned_takes_iff hbound _).2 ⟨p.raw_le, hend, hfront⟩, ?_⟩
    rw [UInt32.ofNat_toNat]
    exact .pure p rest

/-- The documents that are read as an id are its digits, with blanks around them. -/
theorem readDocument_eq_ok_iff {document : String} {p : ProcessId} :
    Json.readDocument reader document = .ok p ↔ Json.Spaced document p.chars := by
  rw [Json.readDocument_eq_ok_iff]
  constructor
  · rintro ⟨behind, htakes, hbehind⟩
    obtain ⟨-, front, htext, hfront⟩ := reader_takes_iff.1 htakes
    exact ⟨front, behind, htext, hfront, hbehind⟩
  · rintro ⟨front, behind, htext, hfront, hbehind⟩
    refine ⟨behind, reader_takes_iff.2 ?_, hbehind⟩
    exact ⟨Json.endsNumber_of_isSpace hbehind, front, htext, hfront⟩

theorem readDocument_toJson (p : ProcessId) : Json.readDocument reader p.toJson.text = .ok p := by
  refine readDocument_eq_ok_iff.2 ⟨[], [], ?_, List.forall_mem_nil _, List.forall_mem_nil _⟩
  rw [toJson, Json.text, String.toList_ofList, Json.chars_number, chars, List.nil_append,
    List.append_nil]

/-! ## Sources -/

/-- What an id is obtained from. -/
inductive Source where
  | number (raw : UInt32)
  | text (s : String)
  | json (document : String)

/-- The id is obtained from the source. -/
def ObtainedFrom (p : ProcessId) : Source → Prop
  | .number raw => ofRaw? raw = some p
  | .text s => parse s = .ok p
  | .json document => Json.readDocument reader document = .ok p

theorem chars_eq_zero_iff {p : ProcessId} : p.chars = ['0'] ↔ p.raw = 0 := by
  constructor
  · intro h
    have hvalue := Text.value_decimal p.raw.toNat
    rw [← chars, h] at hvalue
    exact UInt32.toNat_inj.1 hvalue.symm
  · intro h
    rw [chars, h]
    rfl

/-- Zero is obtained from a document that is the digit zero, blanks around it apart, and from
nothing else. Every id but zero is read back from its text, and zero is refused; from its JSON text
each is read back. -/
theorem obtained_ids {p : ProcessId} {source : Source} (h : p.ObtainedFrom source) :
    (p.raw = 0 ↔ ∃ document, source = .json document ∧ Json.Spaced document ['0']) ∧
    (p.raw ≠ 0 → parse p.text = .ok p) ∧
    (p.raw = 0 → parse p.text = .error (.invalidPid p.text)) ∧
    Json.readDocument reader p.toJson.text = .ok p := by
  refine ⟨?_, fun hp => parse_eq_ok_iff.2 (parse?_text_iff.2 hp), ?_, readDocument_toJson p⟩
  · cases source with
    | number raw =>
      obtain ⟨rfl, hne⟩ := ofRaw?_eq_some_iff.1 h
      simp [hne]
    | text s =>
      obtain ⟨-, hpos⟩ := parse?_eq_some_iff_denotes.1 (parse_eq_ok_iff.1 h)
      have hne : p.raw ≠ 0 := by
        rintro hp
        rw [hp] at hpos
        exact absurd hpos (by decide)
      simp [hne]
    | json document =>
      have hspaced := readDocument_eq_ok_iff.1 h
      -- JSON text alone can be that of zero
      constructor
      · intro hp
        rw [chars_eq_zero_iff.2 hp] at hspaced
        exact ⟨document, rfl, hspaced⟩
      · rintro ⟨document, hsource, hzero⟩
        cases hsource
        rw [← chars_eq_zero_iff.2 (rfl : (⟨0⟩ : ProcessId).raw = 0)] at hzero
        have hread := h.symm.trans (readDocument_eq_ok_iff.2 hzero)
        rw [Except.ok.inj hread]
  · intro hp
    rw [parse_eq_error_iff]
    refine ⟨?_, rfl⟩
    rw [parse?_text, hp]
    rfl

/-- An id obtained from a document with blanks around it. -/
theorem obtained_ids_spaced :
    (⟨7⟩ : ProcessId).ObtainedFrom (.json " 7\n") ∧
    parse (text ⟨7⟩) = .ok ⟨7⟩ ∧ Json.readDocument reader (toJson ⟨7⟩).text = .ok ⟨7⟩ := by
  have h : (⟨7⟩ : ProcessId).ObtainedFrom (.json " 7\n") :=
    readDocument_eq_ok_iff.2 ⟨[' '], ['\n'], by decide, List.forall_mem_singleton.2 rfl,
      List.forall_mem_singleton.2 rfl⟩
  obtain ⟨-, hparse, -, hjson⟩ := obtained_ids h
  exact ⟨h, hparse (by decide), hjson⟩

/-- The digit zero is a document of an id that is zero and that its text does not give back. -/
theorem zero_obtained_from_json :
    ¬∀ (p : ProcessId) (source : Source), p.ObtainedFrom source →
      p.raw ≠ 0 ∧ parse p.text = .ok p ∧ Json.readDocument reader p.toJson.text = .ok p := by
  intro h
  have hzero : (⟨0⟩ : ProcessId).ObtainedFrom (.json "0") :=
    readDocument_eq_ok_iff.2 ⟨[], [], by decide, List.forall_mem_nil _, List.forall_mem_nil _⟩
  exact (h ⟨0⟩ (.json "0") hzero).1 rfl

end SelfTrace.ProcessId
