import Mathlib.Data.List.Basic
import Mathlib.Tactic.IntervalCases
import SelfTrace.Text.Utf8

/-!
# Octets of texts read back

The octets of a character are read as that character, whatever follows them; so the octets of a text
are read as the text.

* `utf8EncodeChar_cases` — the octets of a character by its number;
* `scanFrom_utf8EncodeChar` — one character is read off the front;
* `scan_encode` — the pieces of a text's octets are its characters;
* `text?_octets` — the octets of a string read as the string.
-/

namespace SelfTrace.Text

/-! ## First octets -/

theorem begin?_one {n : Nat} (h : n < 128) :
    begin? (UInt8.ofNat n) = some (.inl (Char.ofNat n)) := by
  have hn : (UInt8.ofNat n).toNat = n := UInt8.toNat_ofNat_of_lt' (Nat.lt_trans h (by decide))
  have hlt : UInt8.ofNat n < 0x80 := by
    rw [UInt8.lt_iff_toNat_lt, hn]
    exact h
  rw [begin?, if_pos hlt, hn]

theorem begin?_two {n : Nat} (h : 2 ≤ n) (h' : n < 32) :
    begin? (UInt8.ofNat (n + 192)) = some (.inr ⟨[UInt8.ofNat (n + 192)], 1, 0x80, 0xBF, n⟩) := by
  interval_cases n <;> rfl

/-- The first of three octets bounds the second: no number is written longer than need be, and none
is a half of a pair. -/
theorem begin?_three {n : Nat} (h : n < 16) :
    begin? (UInt8.ofNat (n + 224)) = some (.inr ⟨[UInt8.ofNat (n + 224)], 2,
      if n = 0 then 0xA0 else 0x80, if n = 13 then 0x9F else 0xBF, n⟩) := by
  interval_cases n <;> rfl

/-- The first of four octets bounds the second: no number is written longer than need be, and none
is beyond the last character. -/
theorem begin?_four {n : Nat} (h : n < 5) :
    begin? (UInt8.ofNat (n + 240)) = some (.inr ⟨[UInt8.ofNat (n + 240)], 3,
      if n = 0 then 0x90 else 0x80, if n = 4 then 0x8F else 0xBF, n⟩) := by
  interval_cases n <;> rfl

theorem begin?_none {n : Nat} (h : 128 ≤ n ∧ n < 194 ∨ 245 ≤ n ∧ n < 256) :
    begin? (UInt8.ofNat n) = none := by
  rcases h with ⟨hlow, hhigh⟩ | ⟨hlow, hhigh⟩
  · interval_cases n <;> rfl
  · interval_cases n <;> rfl

/-! ## Further octets -/

/-- An octet that follows carries six bits. -/
theorem continue?_further {p : Begun} {n : Nat} (h : p.low.toNat ≤ n % 64 + 128)
    (h' : n % 64 + 128 ≤ p.high.toNat) :
    continue? p (UInt8.ofNat (n % 64 + 128)) =
      if p.owed ≤ 1 then some (.inl (Char.ofNat (p.bits * 64 + n % 64)))
      else some (.inr ⟨p.read ++ [UInt8.ofNat (n % 64 + 128)], p.owed - 1, 0x80, 0xBF,
        p.bits * 64 + n % 64⟩) := by
  have hn : (UInt8.ofNat (n % 64 + 128)).toNat = n % 64 + 128 := by
    rw [UInt8.toNat_ofNat']
    omega
  have hbounds : (p.low ≤ UInt8.ofNat (n % 64 + 128) &&
      UInt8.ofNat (n % 64 + 128) ≤ p.high) = true := by
    simp only [Bool.and_eq_true, decide_eq_true_eq, UInt8.le_iff_toNat_le, hn]
    exact ⟨h, h'⟩
  rw [continue?, if_pos hbounds, hn, Nat.add_sub_cancel]

/-- The last octet of a character. -/
theorem scanFrom_last {p : Begun} {n : Nat} {rest : Bytes} (howed : p.owed = 1)
    (h : p.low.toNat ≤ n % 64 + 128) (h' : n % 64 + 128 ≤ p.high.toNat) :
    scanFrom (some p) (UInt8.ofNat (n % 64 + 128) :: rest) =
      .char (Char.ofNat (p.bits * 64 + n % 64)) :: scanFrom none rest := by
  rw [scanFrom, continue?_further h h', if_pos (Nat.le_of_eq howed)]

/-- An octet between the first and the last of a character. -/
theorem scanFrom_inner {p : Begun} {n : Nat} {rest : Bytes} (howed : 1 < p.owed)
    (h : p.low.toNat ≤ n % 64 + 128) (h' : n % 64 + 128 ≤ p.high.toNat) :
    scanFrom (some p) (UInt8.ofNat (n % 64 + 128) :: rest) =
      scanFrom (some ⟨p.read ++ [UInt8.ofNat (n % 64 + 128)], p.owed - 1, 0x80, 0xBF,
        p.bits * 64 + n % 64⟩) rest := by
  rw [scanFrom, continue?_further h h', if_neg (Nat.not_le.2 howed)]

theorem further_bounds (n : Nat) :
    (0x80 : UInt8).toNat ≤ n % 64 + 128 ∧ n % 64 + 128 ≤ (0xBF : UInt8).toNat := by
  have hmod := Nat.mod_lt n (by decide : 64 > 0)
  exact ⟨Nat.le_add_left 128 _, by simp; omega⟩

/-! ## Characters -/

section Characters

variable {n : Nat} (rest : Bytes)

theorem scanFrom_one (h : n < 128) :
    scanFrom none (UInt8.ofNat n :: rest) = .char (Char.ofNat n) :: scanFrom none rest := by
  rw [scanFrom, begin?_one h]

theorem scanFrom_two (h : 128 ≤ n) (h' : n < 2048) :
    scanFrom none (UInt8.ofNat (n / 64 + 192) :: UInt8.ofNat (n % 64 + 128) :: rest) =
      .char (Char.ofNat n) :: scanFrom none rest := by
  have hlast := further_bounds n
  rw [scanFrom, begin?_two (by omega) (by omega)]
  dsimp only
  rw [scanFrom_last rfl hlast.1 hlast.2, Nat.div_add_mod']

theorem scanFrom_three (h : 2048 ≤ n) (h' : n < 65536) (hpair : n < 0xD800 ∨ 0xDFFF < n) :
    scanFrom none (UInt8.ofNat (n / 4096 + 224) :: UInt8.ofNat (n / 64 % 64 + 128) ::
        UInt8.ofNat (n % 64 + 128) :: rest) = .char (Char.ofNat n) :: scanFrom none rest := by
  have hsecond := further_bounds (n / 64)
  have hlast := further_bounds n
  have hlow : (if n / 4096 = 0 then 0xA0 else 0x80 : UInt8).toNat ≤ n / 64 % 64 + 128 := by
    split
    · simp
      omega
    · exact hsecond.1
  have hhigh : n / 64 % 64 + 128 ≤ (if n / 4096 = 13 then 0x9F else 0xBF : UInt8).toNat := by
    split
    · simp
      omega
    · exact hsecond.2
  have hchar : (n / 4096 * 64 + n / 64 % 64) * 64 + n % 64 = n := by omega
  rw [scanFrom, begin?_three (by omega)]
  dsimp only
  rw [scanFrom_inner (by simp) hlow hhigh, scanFrom_last rfl hlast.1 hlast.2, hchar]

theorem scanFrom_four (h : 65536 ≤ n) (h' : n < 0x110000) :
    scanFrom none (UInt8.ofNat (n / 262144 + 240) :: UInt8.ofNat (n / 4096 % 64 + 128) ::
        UInt8.ofNat (n / 64 % 64 + 128) :: UInt8.ofNat (n % 64 + 128) :: rest) =
      .char (Char.ofNat n) :: scanFrom none rest := by
  have hsecond := further_bounds (n / 4096)
  have hthird := further_bounds (n / 64)
  have hlast := further_bounds n
  have hlow : (if n / 262144 = 0 then 0x90 else 0x80 : UInt8).toNat ≤ n / 4096 % 64 + 128 := by
    split
    · simp
      omega
    · exact hsecond.1
  have hhigh : n / 4096 % 64 + 128 ≤ (if n / 262144 = 4 then 0x8F else 0xBF : UInt8).toNat := by
    split
    · simp
      omega
    · exact hsecond.2
  have hchar : ((n / 262144 * 64 + n / 4096 % 64) * 64 + n / 64 % 64) * 64 + n % 64 = n := by
    omega
  rw [scanFrom, begin?_four (by omega)]
  dsimp only
  rw [scanFrom_inner (by simp) hlow hhigh, scanFrom_inner (by simp) hthird.1 hthird.2,
    scanFrom_last rfl hlast.1 hlast.2, hchar]

end Characters

/-- The octets of a character by its number. -/
theorem utf8EncodeChar_cases (c : Char) :
    c.toNat < 128 ∧ String.utf8EncodeChar c = [UInt8.ofNat c.toNat] ∨
    (128 ≤ c.toNat ∧ c.toNat < 2048) ∧ String.utf8EncodeChar c =
      [UInt8.ofNat (c.toNat / 64 + 192), UInt8.ofNat (c.toNat % 64 + 128)] ∨
    (2048 ≤ c.toNat ∧ c.toNat < 65536 ∧ (c.toNat < 0xD800 ∨ 0xDFFF < c.toNat)) ∧
      String.utf8EncodeChar c = [UInt8.ofNat (c.toNat / 4096 + 224),
        UInt8.ofNat (c.toNat / 64 % 64 + 128), UInt8.ofNat (c.toNat % 64 + 128)] ∨
    (65536 ≤ c.toNat ∧ c.toNat < 0x110000) ∧ String.utf8EncodeChar c =
      [UInt8.ofNat (c.toNat / 262144 + 240), UInt8.ofNat (c.toNat / 4096 % 64 + 128),
        UInt8.ofNat (c.toNat / 64 % 64 + 128), UInt8.ofNat (c.toNat % 64 + 128)] := by
  have hvalid : c.toNat < 0xD800 ∨ 0xDFFF < c.toNat ∧ c.toNat < 0x110000 := c.valid
  unfold String.utf8EncodeChar
  dsimp only
  rw [show c.val.toNat = c.toNat from rfl]
  -- the quotient in front is small enough for the bits that are left to it
  split
  · next hone => exact .inl ⟨by omega, rfl⟩
  · next hone =>
    split
    · next htwo =>
      rw [Nat.mod_eq_of_lt (by omega : c.toNat / 64 < 32)]
      exact .inr (.inl ⟨by omega, rfl⟩)
    · next htwo =>
      split
      · next hthree =>
        rw [Nat.mod_eq_of_lt (by omega : c.toNat / 4096 < 16)]
        exact .inr (.inr (.inl ⟨by omega, rfl⟩))
      · next hthree =>
        rw [Nat.mod_eq_of_lt (by omega : c.toNat / 262144 < 8)]
        exact .inr (.inr (.inr ⟨by omega, rfl⟩))

/-- The octets of a character are read as the character. -/
theorem scanFrom_utf8EncodeChar (c : Char) (rest : Bytes) :
    scanFrom none (String.utf8EncodeChar c ++ rest) = .char c :: scanFrom none rest := by
  have hchar : Piece.char c = .char (Char.ofNat c.toNat) := by rw [Char.ofNat_toNat]
  rcases utf8EncodeChar_cases c with ⟨hone, h⟩ | ⟨⟨hlow, hhigh⟩, h⟩ | ⟨⟨hlow, hhigh, hpair⟩, h⟩ |
    ⟨⟨hlow, hhigh⟩, h⟩
  · rw [h, hchar]
    exact scanFrom_one rest hone
  · rw [h, hchar]
    exact scanFrom_two rest hlow hhigh
  · rw [h, hchar]
    exact scanFrom_three rest hlow hhigh hpair
  · rw [h, hchar]
    exact scanFrom_four rest hlow hhigh

/-! ## Texts -/

/-- The pieces of a text's octets are its characters. -/
theorem scan_encode (cs : List Char) : scan (encode cs) = cs.map .char := by
  induction cs with
  | nil => rfl
  | cons c cs ih =>
    rw [encode, scan] at ih
    rw [encode, scan, List.flatMap_cons, scanFrom_utf8EncodeChar, ih, List.map_cons]

theorem decode?_encode (cs : List Char) : decode? (encode cs) = some cs := by
  rw [decode?, scan_encode]
  induction cs with
  | nil => rfl
  | cons c cs ih =>
    rw [List.map_cons, List.mapM_cons, ih]
    rfl

/-- The octets of a string read as the string. -/
theorem text?_octets (s : String) : text? (octets s) = some s := by
  rw [text?, octets, decode?_encode, Option.map_some, String.ofList_toList]

end SelfTrace.Text
