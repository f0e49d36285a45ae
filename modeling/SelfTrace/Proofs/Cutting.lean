import SelfTrace.Proofs.Octets
import SelfTrace.Tool.Output

/-!
# Texts cut between characters

A text that is too long is cut at the last position that is not beyond the limit and splits no
character. Going down from the limit such a position is met, at zero at the latest.

* `isBoundary_encode_iff` — the positions that split no character are those behind a front of the
  text;
* `boundary?_eq_some` — the way down ends at the last of them;
* `truncate?_kept` — what is kept is the longest front that fits.
-/

namespace SelfTrace.Output

open Text

/-! ## Octets of characters -/

theorem length_encode_cons (c : Char) (cs : List Char) :
    (encode (c :: cs)).length = c.utf8Size + (encode cs).length := by
  rw [encode, List.flatMap_cons, List.length_append, String.length_utf8EncodeChar]
  rfl

theorem startsChar_iff {n : Nat} (h : n < 256) :
    startsChar (UInt8.ofNat n) = true ↔ n < 128 ∨ 192 ≤ n := by
  simp only [startsChar, Bool.or_eq_true, decide_eq_true_eq, UInt8.lt_iff_toNat_lt,
    UInt8.le_iff_toNat_le, UInt8.toNat_ofNat_of_lt' h]
  rfl

/-- An octet that carries six bits starts no character. -/
theorem startsChar_further (n : Nat) : startsChar (UInt8.ofNat (n % 64 + 128)) = false := by
  rw [← Bool.not_eq_true, startsChar_iff (by omega)]
  omega

/-- The first octet of a character, and no other, starts one. -/
theorem utf8EncodeChar_starts (c : Char) :
    ∃ first rest, String.utf8EncodeChar c = first :: rest ∧ startsChar first = true ∧
      ∀ b ∈ rest, startsChar b = false := by
  rcases utf8EncodeChar_cases c with ⟨h, henc⟩ | ⟨h, henc⟩ | ⟨h, henc⟩ | ⟨h, henc⟩
  · exact ⟨_, _, henc, (startsChar_iff (by omega)).2 (by omega), by simp⟩
  · refine ⟨_, _, henc, (startsChar_iff (by omega)).2 (by omega), ?_⟩
    exact List.forall_mem_singleton.2 (startsChar_further _)
  · refine ⟨_, _, henc, (startsChar_iff (by omega)).2 (by omega), ?_⟩
    exact List.forall_mem_cons.2
      ⟨startsChar_further _, List.forall_mem_singleton.2 (startsChar_further _)⟩
  · refine ⟨_, _, henc, (startsChar_iff (by omega)).2 (by omega), ?_⟩
    exact List.forall_mem_cons.2 ⟨startsChar_further _, List.forall_mem_cons.2
      ⟨startsChar_further _, List.forall_mem_singleton.2 (startsChar_further _)⟩⟩

/-! ## Boundaries -/

theorem isBoundary_zero (bs : Bytes) : isBoundary bs 0 = true := rfl

/-- No position inside of the first character is a boundary. -/
theorem isBoundary_inside {c : Char} {pos : Nat} (hpos : 0 < pos) (hinside : pos < c.utf8Size)
    (bs : Bytes) : isBoundary (String.utf8EncodeChar c ++ bs) pos = false := by
  obtain ⟨first, rest, hoctets, -, hrest⟩ := utf8EncodeChar_starts c
  have hlength : rest.length + 1 = c.utf8Size := by
    rw [← String.length_utf8EncodeChar, hoctets, List.length_cons]
  obtain ⟨pos, rfl⟩ := Nat.exists_eq_succ_of_ne_zero (Nat.ne_of_gt hpos)
  have hlt : pos < rest.length := by omega
  have hget : (first :: rest ++ bs)[pos + 1]? = some rest[pos] := by
    rw [List.cons_append, List.getElem?_cons_succ, List.getElem?_append_left hlt,
      List.getElem?_eq_getElem hlt]
  rw [hoctets, isBoundary, Nat.succ_eq_add_one, hget]
  simp [hrest _ (List.getElem_mem hlt)]

/-- Behind the first character the boundaries are those of the rest. -/
theorem isBoundary_behind {c : Char} {pos : Nat} (hpos : c.utf8Size ≤ pos) (cs : List Char) :
    isBoundary (String.utf8EncodeChar c ++ encode cs) pos =
      isBoundary (encode cs) (pos - c.utf8Size) := by
  obtain ⟨k, rfl⟩ := Nat.exists_eq_add_of_le hpos
  have hsize := c.utf8Size_pos
  have hget : (String.utf8EncodeChar c ++ encode cs)[c.utf8Size + k]? = (encode cs)[k]? := by
    rw [List.getElem?_append_right (by simp), String.length_utf8EncodeChar, Nat.add_sub_cancel_left]
  have hend : (c.utf8Size + k == (String.utf8EncodeChar c ++ encode cs).length) =
      (k == (encode cs).length) := by
    rw [List.length_append, String.length_utf8EncodeChar, Bool.eq_iff_iff, beq_iff_eq, beq_iff_eq,
      Nat.add_left_cancel_iff]
  rw [isBoundary, isBoundary, hget, hend, Nat.add_sub_cancel_left]
  cases k with
  | succ k => simp
  | zero =>
    -- right behind the character the next one starts, if there is one
    cases cs with
    | nil => simp [encode]
    | cons d cs =>
      obtain ⟨first, rest, hoctets, hfirst, -⟩ := utf8EncodeChar_starts d
      simp [encode, hoctets, hfirst]

/-- The positions that split no character are those behind a front of the text. -/
theorem isBoundary_encode_iff (cs : List Char) (pos : Nat) :
    isBoundary (encode cs) pos = true ↔ ∃ front, front <+: cs ∧ (encode front).length = pos := by
  induction cs generalizing pos with
  | nil =>
    cases pos with
    | zero => simp [isBoundary_zero, encode]
    | succ pos => simp [isBoundary, encode]
  | cons c cs ih =>
    have hcons : encode (c :: cs) = String.utf8EncodeChar c ++ encode cs := by
      rw [encode, List.flatMap_cons]
      rfl
    rw [hcons]
    constructor
    · intro h
      -- no boundary is inside the first character
      rcases Nat.lt_or_ge pos c.utf8Size with hinside | hbehind
      · rcases Nat.eq_zero_or_pos pos with rfl | hpos
        · exact ⟨[], List.nil_prefix, rfl⟩
        · rw [isBoundary_inside hpos hinside] at h
          cases h
      · rw [isBoundary_behind hbehind, ih] at h
        obtain ⟨front, hfront, hlength⟩ := h
        refine ⟨c :: front, (List.prefix_cons_inj c).2 hfront, ?_⟩
        rw [length_encode_cons, hlength]
        omega
    · rintro ⟨front, hfront, rfl⟩
      rcases List.prefix_cons_iff.1 hfront with rfl | ⟨tail, rfl, htail⟩
      · exact isBoundary_zero _
      · rw [length_encode_cons, isBoundary_behind (Nat.le_add_right _ _), ih]
        exact ⟨tail, htail, (Nat.add_sub_cancel_left _ _).symm⟩

/-- The way down ends at the last boundary that is not above its start. -/
theorem boundary?_eq_some (bs : Bytes) (max : Nat) :
    ∃ pos, boundary? bs max = some pos ∧ pos ≤ max ∧ isBoundary bs pos = true ∧
      ∀ other, isBoundary bs other = true → other ≤ max → other ≤ pos := by
  induction max with
  | zero => exact ⟨0, rfl, Nat.le_refl 0, rfl, fun _ _ h => h⟩
  | succ max ih =>
    rw [boundary?]
    by_cases hmax : isBoundary bs (max + 1) = true
    · rw [if_pos hmax]
      exact ⟨max + 1, rfl, Nat.le_refl _, hmax, fun _ _ h => h⟩
    · -- the limit itself splits a character, and the way goes on below it
      rw [if_neg hmax]
      obtain ⟨pos, hpos, hle, hboundary, hlast⟩ := ih
      refine ⟨pos, hpos, Nat.le_succ_of_le hle, hboundary, ?_⟩
      intro other hother hbelow
      have hne : other ≠ max + 1 := by
        rintro rfl
        exact hmax hother
      exact hlast other hother (by omega)

/-! ## Cutting -/

/-- What is kept of a text: the longest front that has at most `max` octets. -/
structure Kept (max : Nat) (text kept : List Char) : Prop where
  isFront : kept <+: text
  fits : (encode kept).length ≤ max
  longest : ∀ front, front <+: text → (encode front).length ≤ max → front <+: kept

/-- Of two fronts of a text the one with no more octets is a front of the other. -/
theorem prefix_of_length_encode_le {front other text : List Char} (hfront : front <+: text)
    (hother : other <+: text) (h : (encode front).length ≤ (encode other).length) :
    front <+: other := by
  rcases List.prefix_or_prefix_of_prefix hfront hother with hle | ⟨rest, rfl⟩
  · exact hle
  · -- what the longer one has more has no octets
    cases rest with
    | nil => simp
    | cons c rest =>
      have hpos := c.utf8Size_pos
      have hmore : (encode (other ++ c :: rest)).length =
          (encode other).length + (c.utf8Size + (encode rest).length) := by
        rw [← length_encode_cons, encode, List.flatMap_append, List.length_append]
        rfl
      omega

/-- The characters in front of a boundary. -/
theorem front?_eq_some {front text : List Char} (h : front <+: text) :
    front? text (encode front).length = some front := by
  induction front generalizing text with
  | nil =>
    show front? text 0 = some []
    rw [front?]
  | cons c front ih =>
    obtain ⟨rest, rfl⟩ := h
    have hpos := c.utf8Size_pos
    obtain ⟨k, hk⟩ : ∃ k, (encode (c :: front)).length = k + 1 :=
      Nat.exists_eq_succ_of_ne_zero (by rw [length_encode_cons]; omega)
    have hrest : k + 1 - c.utf8Size = (encode front).length := by
      rw [length_encode_cons] at hk
      omega
    have hle : c.utf8Size ≤ k + 1 := by
      rw [length_encode_cons] at hk
      omega
    rw [hk, List.cons_append, front?, if_pos hle, hrest, ih ⟨rest, rfl⟩]
    rfl

/-- A text can always be cut: the way down does not go below zero and splits no character. -/
theorem truncate?_kept (max : Nat) (text : List Char) :
    ∃ kept, truncate? max text = some kept ∧ Kept max text kept := by
  rw [truncate?]
  by_cases hlength : (encode text).length ≤ max
  · exact ⟨text, if_pos hlength, List.prefix_refl text, hlength, fun _ h _ => h⟩
  · obtain ⟨pos, hpos, hle, hboundary, hlast⟩ := boundary?_eq_some (encode text) max
    obtain ⟨kept, hkept, rfl⟩ := (isBoundary_encode_iff text pos).1 hboundary
    refine ⟨kept, ?_, hkept, hle, ?_⟩
    · rw [if_neg hlength, hpos, Option.bind_some, front?_eq_some hkept]
    · -- a front that fits ends at a boundary, which is not above the last one
      intro front hfront hfits
      have hfront' := (isBoundary_encode_iff text _).2 ⟨front, hfront, rfl⟩
      exact prefix_of_length_encode_le hfront hkept (hlast _ hfront' hfits)

end SelfTrace.Output
