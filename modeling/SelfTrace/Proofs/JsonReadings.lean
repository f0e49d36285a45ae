import SelfTrace.Proofs.JsonValues

/-!
# What readers of JSON text answer

Two statements about readers besides `Takes`: what all values have in common that a reader answers
for any text, and that it refuses a text.

* `Ensures` — every value that is read has a property;
* `readRecord_ensures` — a record read from any text has what all its fields keep;
* `Fails` — a text is refused;
* `readRecord_fails` — an object is refused for the first member that is.
-/

namespace SelfTrace.Json

variable {α β σ : Type}

/-! ## What every value has that is read -/

/-- Every value that the reader takes off some text has the property. -/
def Ensures (read : Reader α) (P : α → Prop) : Prop :=
  ∀ text a rest, Takes read text a rest → P a

namespace Ensures

variable {read : Reader α} {next : α → Reader β} {P : α → Prop} {Q : β → Prop}

theorem anything (read : Reader α) : Ensures read fun _ => True := fun _ _ _ _ => trivial

theorem bind (h : Ensures read P) (hnext : ∀ a, P a → Ensures (next a) Q) :
    Ensures (read >>= next) Q := by
  intro text b rest hread
  rw [Takes, bind_run] at hread
  cases hfirst : read text with
  | error p =>
    rw [hfirst] at hread
    cases hread
  | ok r =>
    rw [hfirst] at hread
    exact hnext r.1 (h text r.1 r.2 hfirst) r.2 b rest hread

/-- What is read first does not matter. -/
theorem after (hnext : ∀ a, Ensures (next a) Q) : Ensures (read >>= next) Q :=
  (anything read).bind fun a _ => hnext a

theorem pure {a : α} (h : P a) : Ensures (Pure.pure a) P := by
  intro text b rest hread
  cases hread
  exact h

theorem throw (p : Problem) : Ensures (throw p : Reader α) P := by
  intro text b rest hread
  cases hread

end Ensures

theorem refuse_ensures (expected : String) (P : α → Prop) : Ensures (refuse expected) P := by
  unfold refuse
  refine .after fun c => ?_
  -- whatever comes next is named, and then refused
  extract_lets refused
  have hrefused : ∀ found, Ensures (refused found) P := fun found => .throw _
  split
  · exact .after fun _ => .after fun _ => .after hrefused
  · exact .after fun _ => .after fun _ => .after hrefused
  · exact .after fun _ => .after fun _ => .after hrefused
  · exact .after fun _ => .after fun _ => .after hrefused
  · exact .after hrefused
  · exact .after hrefused
  · split
    · exact .after fun _ => .after hrefused
    · exact .after hrefused
  · exact .after hrefused

/-- What is read as another reader understands it was understood by that reader. -/
theorem readParsed_ensures (parse : String → Except String α) :
    Ensures (readParsed parse) fun a => ∃ s, parse s = .ok a := by
  refine .after fun s => ?_
  split
  · next a ha => exact .pure ⟨s, ha⟩
  · exact .throw _

section Records

variable {fields : List (Field σ)} {P : σ → Prop}

/-- No field of the record spoils the property. -/
def KeptBy (fields : List (Field σ)) (P : σ → Prop) : Prop :=
  ∀ field ∈ fields, ∀ record, P record → Ensures (field.read record) P

theorem readMembers_ensures (hkept : KeptBy fields P) (fuel : Nat) (seen : List String)
    {record : σ} (hrecord : P record) : Ensures (readMembers fields fuel seen record) P := by
  induction fuel generalizing seen record with
  | zero => exact .throw _
  | succ fuel ih =>
    -- from one member to the next: its name, its value, what stands behind it
    unfold readMembers
    refine .after fun c => ?_
    extract_lets member
    have hmember : ∀ u, Ensures (member u) P := by
      intro u
      unfold member
      refine .after fun key => ?_
      extract_lets ending
      have hending : ∀ record, P record → Ensures (ending record) P := by
        intro record hrecord
        unfold ending
        refine .after fun c => ?_
        split
        · exact .after fun _ => .pure hrecord
        · exact .after fun _ => ih _ hrecord
        · exact .throw _
      split
      · next field hfield =>
        have hread := hkept field (List.mem_of_find?_eq_some hfield) record hrecord
        extract_lets value
        have hvalue : ∀ u, Ensures (value u) P := fun u => .after fun _ => hread.bind hending
        split
        · exact .after hvalue
        · exact hvalue ()
      · exact .after fun _ => .after fun _ => (Ensures.pure hrecord).bind hending
    split
    · exact .after hmember
    · exact .after hmember

theorem readItems_ensures (hkept : KeptBy fields P) {record : σ} (hrecord : P record) :
    Ensures (readItems fields record) P := by
  induction fields generalizing record with
  | nil => exact .pure hrecord
  | cons field fields ih =>
    have hread := hkept field List.mem_cons_self record hrecord
    have hrest : KeptBy fields P := fun f hf => hkept f (List.mem_cons_of_mem field hf)
    unfold readItems
    refine .after fun c => ?_
    split
    · exact .pure hrecord
    · refine .after fun _ => .after fun d => ?_
      extract_lets item
      have hitem : ∀ u, Ensures (item u) P := fun u => hread.bind fun _ => ih hrest
      split
      · exact .after hitem
      · exact hitem ()
    · exact .throw _

theorem readList_ensures (hkept : KeptBy fields P) {record : σ} (hrecord : P record) :
    Ensures (readList fields record) P := by
  unfold readList
  refine .after fun c => ?_
  extract_lets ending
  have hending : ∀ record, P record → Ensures (ending record) P := by
    intro record hrecord
    unfold ending
    refine .after fun c => ?_
    split
    · exact .after fun _ => .pure hrecord
    · exact .throw _
  split
  · exact (Ensures.pure hrecord).bind hending
  · exact (Ensures.pure hrecord).bind hending
  · next field fields _ =>
    have hread := hkept field List.mem_cons_self record hrecord
    have hrest : KeptBy fields P := fun f hf => hkept f (List.mem_cons_of_mem field hf)
    refine hread.bind fun _ hfirst => ?_
    exact (readItems_ensures hrest hfirst).bind hending

/-- A record that is read from any text has what it began with and no field spoils. -/
theorem readRecord_ensures (hkept : KeptBy fields P) (expected : String) {record : σ}
    (hrecord : P record) : Ensures (readRecord expected fields record) P := by
  unfold readRecord
  refine .after fun c => ?_
  split
  · exact .after fun _ => readList_ensures hkept hrecord
  · refine .after fun _ => ?_
    unfold readObject
    refine .after fun c => ?_
    split
    · exact .after fun _ => .pure hrecord
    · exact .after fun _ => readMembers_ensures hkept _ _ hrecord
  · exact refuse_ensures expected P

end Records

theorem Ensures.of_readDocument {read : Reader α} {P : α → Prop} (h : Ensures read P)
    {text : String} {a : α} (hread : readDocument read text = .ok a) : P a := by
  unfold readDocument at hread
  split at hread
  · cases hread
  · next b rest hb =>
    split at hread
    · cases hread
      exact h _ _ _ hb
    · cases hread

/-! ## Texts that are refused -/

/-- The reader refuses the text. -/
def Fails (read : Reader α) (text : List Char) (p : Problem) : Prop := read text = .error p

theorem Fails.bind {read : Reader α} {text : List Char} {p : Problem} (h : Fails read text p)
    (next : α → Reader β) : Fails (read >>= next) text p := by
  rw [Fails, bind_run, h]
  rfl

theorem Takes.bind_fails {read : Reader α} {next : α → Reader β} {text middle : List Char} {a : α}
    {p : Problem} (h : Takes read text a middle) (hnext : Fails (next a) middle p) :
    Fails (read >>= next) text p := (h.bind_eq next).trans hnext

/-- A string is refused in the words of the reader that is to understand it. -/
theorem readParsed_fails {parse : String → Except String α} {s message : String}
    (h : parse s = .error message) (rest : List Char) :
    Fails (readParsed parse) (quote s ++ rest) (.unfit message) := by
  refine (readText_takes "a string" s rest).bind_fails ?_
  rw [h]
  rfl

/-- The field of its name refuses the member, whatever follows it. -/
def FailsMember (fields : List (Field σ)) (m : String × Json) (p : Problem) : Prop :=
  ∃ field, fields.find? (·.name == m.1) = some field ∧
    ∀ record rest, EndsNumber rest → Fails (field.read record) (chars m.2 ++ rest) p

section Objects

variable {fields : List (Field σ)} {front behind : List (String × Json)} {m : String × Json}
  {p : Problem}

theorem readMembers_fails (hfront : ∀ n ∈ front, ∃ put, TakesMember fields n put)
    (hm : FailsMember fields m p) (hnodup : ((front ++ m :: behind).map (·.1)).Nodup) {fuel : Nat}
    (hfuel : (front ++ m :: behind).length ≤ fuel) {seen : List String}
    (hseen : ∀ n ∈ front ++ m :: behind, n.1 ∉ seen) (record : σ) (rest : List Char) :
    Fails (readMembers fields fuel seen record)
      (memberChars (front ++ m :: behind) ++ '\x7d' :: rest) p := by
  induction front generalizing fuel seen record with
  | nil =>
    obtain ⟨field, hfield, hread⟩ := hm
    obtain ⟨fuel, rfl⟩ := Nat.exists_eq_succ_of_ne_zero (Nat.ne_zero_of_lt hfuel)
    obtain ⟨after, htext, hafter, -⟩ := exists_memberChars_append m.1 m.2 behind rest
    rw [List.nil_append] at hseen ⊢
    rw [Fails, htext, readMembers_eq hfield (hseen m List.mem_cons_self)]
    exact (hread record after hafter).bind _
  | cons n front ih =>
    obtain ⟨put, field, hfield, hread⟩ := hfront n List.mem_cons_self
    obtain ⟨fuel, rfl⟩ := Nat.exists_eq_succ_of_ne_zero (Nat.ne_zero_of_lt hfuel)
    obtain ⟨after, htext, hafter, hend⟩ :=
      exists_memberChars_append n.1 n.2 (front ++ m :: behind) rest
    rw [List.cons_append] at hnodup hfuel hseen ⊢
    rw [Fails, htext, readMembers_eq hfield (hseen n List.mem_cons_self)]
    refine (hread record after hafter).bind_fails ?_
    obtain ⟨hnone, -⟩ | ⟨-, rfl⟩ := hend
    · simp at hnone
    · refine (token_takes (by decide) _).bind_fails ?_
      refine (advance_takes _ _).bind_fails ?_
      exact ih (fun n' hn' => hfront n' (List.mem_cons_of_mem n hn')) (List.nodup_cons.1 hnodup).2
        (Nat.le_of_succ_le_succ hfuel) (unseen_tail hnodup hseen) (put record)

/-- An object is refused for the first of its members that is, whatever comes behind it. -/
theorem readRecord_fails (hfront : ∀ n ∈ front, ∃ put, TakesMember fields n put)
    (hm : FailsMember fields m p) (hnodup : ((front ++ m :: behind).map (·.1)).Nodup)
    (expected : String) (record : σ) (rest : List Char) :
    Fails (readRecord expected fields record)
      (chars (.object (front ++ m :: behind)) ++ rest) p := by
  have hne : front ++ m :: behind ≠ [] := by simp
  obtain ⟨fuel, hfuel, hread⟩ := readRecord_eq hne expected fields record rest
  rw [Fails, hread]
  exact readMembers_fails hfront hm hnodup hfuel (fun _ _ => List.not_mem_nil) record rest

end Objects

theorem readDocument_fails {read : Reader α} {j : Json} {p : Problem}
    (h : Fails read (chars j) p) : readDocument read j.text = .error p := by
  rw [readDocument, text, String.toList_ofList, h]

end SelfTrace.Json
