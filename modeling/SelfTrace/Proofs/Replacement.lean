import SelfTrace.Proofs.Octets

/-!
# Octets that are no text

What forgiving reading makes of any octets: the characters that they hold, and one U+FFFD in place
of each longest run of octets that begins a character and does not complete it, or of an octet that
begins none.

* `Decoded` — octets read as a text, told by the octets of characters alone;
* `Open` — a character begun, told by the characters that begin so;
* `decode?_eq_some_iff` — octets that are a text, and nothing else;
* `decoded_iff` — octets are read as one text, and `decodeLossy` finds it.
-/

namespace SelfTrace.Text

/-! ## What octets stand for -/

/-- A character starts with these octets. -/
def Begins (bs : Bytes) : Prop := ∃ c, bs <+: String.utf8EncodeChar c

/-- Octets that are no character and are read as one, with what is behind them: as many as begin a
character that they do not complete, or one that begins none. -/
inductive Broken : Bytes → Bytes → Prop
  | begun {c : Char} {bs rest : Bytes} (hne : bs ≠ []) (hbegun : bs <+: String.utf8EncodeChar c)
      (hpart : bs ≠ String.utf8EncodeChar c)
      (hlongest : ∀ b, rest.head? = some b → ¬Begins (bs ++ [b])) : Broken bs rest
  | stray {b : UInt8} {rest : Bytes} (h : ¬Begins [b]) : Broken [b] rest

/-- Octets read as a text, U+FFFD in place of what is no character. -/
inductive Decoded : Bytes → List Char → Prop
  | nil : Decoded [] []
  | char {bs : Bytes} {cs : List Char} (c : Char) (h : Decoded bs cs) :
      Decoded (String.utf8EncodeChar c ++ bs) (c :: cs)
  | broken {bs rest : Bytes} {cs : List Char} (hbroken : Broken bs rest) (h : Decoded rest cs) :
      Decoded (bs ++ rest) ('\uFFFD' :: cs)

/-! ## Numbers of characters -/

/-- The numbers of the characters of a number of octets. -/
def Sized (size n : Nat) : Prop :=
  size = 1 ∧ n < 128 ∨ size = 2 ∧ 128 ≤ n ∧ n < 2048 ∨
    size = 3 ∧ 2048 ≤ n ∧ n < 65536 ∧ (n < 0xD800 ∨ 0xDFFF < n) ∨
    size = 4 ∧ 65536 ≤ n ∧ n < 0x110000

theorem sized (c : Char) : Sized c.utf8Size c.toNat := by
  rw [← String.length_utf8EncodeChar, Sized]
  rcases utf8EncodeChar_cases c with ⟨h, henc⟩ | ⟨h, henc⟩ | ⟨h, henc⟩ | ⟨h, henc⟩
  · exact .inl ⟨congrArg List.length henc, h⟩
  · exact .inr (.inl ⟨congrArg List.length henc, h⟩)
  · exact .inr (.inr (.inl ⟨congrArg List.length henc, h⟩))
  · exact .inr (.inr (.inr ⟨congrArg List.length henc, h⟩))

theorem exists_char {size n : Nat} (h : Sized size n) :
    ∃ c : Char, c.toNat = n ∧ c.utf8Size = size := by
  have hvalid : n.isValidChar := by
    unfold Sized at h
    unfold Nat.isValidChar
    omega
  have hn : (Char.ofNat n).toNat = n := by
    rw [Char.ofNat, dif_pos hvalid]
    rfl
  refine ⟨Char.ofNat n, hn, ?_⟩
  have hsized := sized (Char.ofNat n)
  rw [hn] at hsized
  unfold Sized at h hsized
  omega

/-- An octet behind the first carries six bits of the number. -/
theorem getElem?_utf8EncodeChar (c : Char) {i : Nat} (hi : 0 < i) (hlt : i < c.utf8Size) :
    (String.utf8EncodeChar c)[i]? =
      some (UInt8.ofNat (c.toNat / 64 ^ (c.utf8Size - 1 - i) % 64 + 128)) := by
  rw [← String.length_utf8EncodeChar] at hlt ⊢
  rcases utf8EncodeChar_cases c with ⟨-, henc⟩ | ⟨-, henc⟩ | ⟨-, henc⟩ | ⟨-, henc⟩
  all_goals
    rw [henc] at hlt ⊢
    simp only [List.length_cons, List.length_nil] at hlt ⊢
  · omega
  · obtain rfl : i = 1 := by omega
    simp
  · obtain rfl | rfl : i = 1 ∨ i = 2 := by omega
    all_goals simp
  · obtain rfl | rfl | rfl : i = 1 ∨ i = 2 ∨ i = 3 := by omega
    all_goals simp

/-! ## Characters begun -/

/-- A character begun tells which characters its octets begin, and its bounds which octets can be
next. -/
structure Open (p : Begun) : Prop where
  ne_nil : p.read ≠ []
  owed : 0 < p.owed
  prefix_iff : ∀ c, p.read <+: String.utf8EncodeChar c ↔
    c.utf8Size = p.read.length + p.owed ∧ c.toNat / 64 ^ p.owed = p.bits
  bounds : p.low ≤ p.high
  next_iff : ∀ b, (p.low ≤ b && b ≤ p.high) = true ↔ Begins (p.read ++ [b])

theorem concat_prefix_iff {α : Type} {l m : List α} {a : α} :
    l ++ [a] <+: m ↔ l <+: m ∧ m[l.length]? = some a := by
  constructor
  · rintro ⟨rest, rfl⟩
    exact ⟨⟨a :: rest, by simp⟩, by simp⟩
  · rintro ⟨⟨rest, rfl⟩, h⟩
    rw [List.getElem?_append_right (Nat.le_refl _), Nat.sub_self] at h
    cases rest with
    | nil => cases h
    | cons b rest =>
      obtain rfl : b = a := by simpa using h
      exact ⟨rest, by simp⟩

/-- The characters that begin with some octets and one more, where those that begin with the octets
are told by their leading bits. -/
theorem concat_prefix_utf8EncodeChar_iff {read : Bytes} {owed bits : Nat} (hne : read ≠ [])
    (howed : 0 < owed) {c : Char}
    (hread : read <+: String.utf8EncodeChar c ↔
      c.utf8Size = read.length + owed ∧ c.toNat / 64 ^ owed = bits) (b : UInt8) :
    read ++ [b] <+: String.utf8EncodeChar c ↔
      c.utf8Size = read.length + owed ∧ (128 ≤ b.toNat ∧ b.toNat < 192) ∧
        c.toNat / 64 ^ (owed - 1) = bits * 64 + (b.toNat - 128) := by
  have hpos : 0 < read.length := List.length_pos_of_ne_nil hne
  have hdiv : c.toNat / 64 ^ owed = c.toNat / 64 ^ (owed - 1) / 64 := by
    obtain ⟨k, rfl⟩ := Nat.exists_eq_succ_of_ne_zero (Nat.ne_of_gt howed)
    rw [Nat.succ_eq_add_one, Nat.add_sub_cancel, Nat.pow_succ, Nat.div_div_eq_div_mul]
  rw [concat_prefix_iff, hread, and_assoc]
  refine and_congr_right fun hsize => ?_
  have hoctet := getElem?_utf8EncodeChar c hpos (by omega)
  have hexponent : c.utf8Size - 1 - read.length = owed - 1 := by omega
  rw [hoctet, hexponent, hdiv, Option.some_inj]
  -- the octet has the last six of the bits that the octets up to it give
  generalize c.toNat / 64 ^ (owed - 1) = x
  have hx := UInt8.toNat_ofNat_of_lt' (by omega : x % 64 + 128 < 256)
  rw [← UInt8.toNat_inj, hx]
  omega

/-- Numbers with the same bits in front are numbers of characters of one length. -/
theorem sized_of_block {size k n n' : Nat} (h : Sized size n) (hlt : k + 2 ≤ size)
    (hsame : n' / 64 ^ k = n / 64 ^ k) : Sized size n' := by
  unfold Sized at h ⊢
  have hk : k = 0 ∨ k = 1 ∨ k = 2 := by omega
  rcases hk with rfl | rfl | rfl
  · omega
  · omega
  · omega

theorem block_div (x k : Nat) {six : Nat} (h : six < 64) :
    (x * 64 + six) * 64 ^ k / 64 ^ k = x * 64 + six ∧
      (x * 64 + six) * 64 ^ k / 64 ^ (k + 1) = x := by
  have hdiv := Nat.mul_div_cancel (x * 64 + six) (Nat.pow_pos (n := k) (by decide : 0 < 64))
  refine ⟨hdiv, ?_⟩
  rw [Nat.pow_succ, ← Nat.div_div_eq_div_mul, hdiv]
  omega

/-- A character is begun if the bounds are those of the octets that can be next, each with the six
bits that it adds to the number. -/
theorem open_of_bounds {read : Bytes} {low high : UInt8} {owed bits : Nat} (hne : read ≠ [])
    (howed : 0 < owed)
    (hread : ∀ c : Char, read <+: String.utf8EncodeChar c ↔
      c.utf8Size = read.length + owed ∧ c.toNat / 64 ^ owed = bits)
    (hbounds : 128 ≤ low.toNat ∧ low.toNat ≤ high.toNat)
    (hnext : ∀ six, low.toNat ≤ six + 128 ∧ six + 128 ≤ high.toNat ↔
      six < 64 ∧ Sized (read.length + owed) ((bits * 64 + six) * 64 ^ (owed - 1))) :
    Open ⟨read, owed, low, high, bits⟩ where
  ne_nil := hne
  owed := howed
  prefix_iff := hread
  bounds := UInt8.le_iff_toNat_le.2 hbounds.2
  next_iff := by
    intro b
    have hpos : 0 < read.length := List.length_pos_of_ne_nil hne
    have hconcat := fun c => concat_prefix_utf8EncodeChar_iff hne howed (hread c) b
    have hsix := hnext (b.toNat - 128)
    simp only [Bool.and_eq_true, decide_eq_true_eq, UInt8.le_iff_toNat_le]
    constructor
    · rintro ⟨hle, hge⟩
      -- the least number with these bits in front is a character's
      obtain ⟨hlt, hsized⟩ := hsix.1 (by omega)
      obtain ⟨c, hc, hsize⟩ := exists_char hsized
      refine ⟨c, (hconcat c).2 ⟨hsize, by omega, ?_⟩⟩
      rw [hc]
      exact (block_div bits (owed - 1) hlt).1
    · rintro ⟨c, hc⟩
      obtain ⟨hsize, hoctet, hn⟩ := (hconcat c).1 hc
      have hlt : b.toNat - 128 < 64 := by omega
      have hsized := sized c
      rw [hsize] at hsized
      have hsame := (block_div bits (owed - 1) hlt).1.trans hn.symm
      have hbetween := hsix.2 ⟨hlt, sized_of_block hsized (by omega) hsame⟩
      omega

namespace Open

variable {p : Begun} {b : UInt8}

/-- The octets of a character begun are not all of it. -/
theorem part (hp : Open p) : ∃ c, p.read <+: String.utf8EncodeChar c ∧
    p.read ≠ String.utf8EncodeChar c := by
  have hlow : (p.low ≤ p.low && p.low ≤ p.high) = true := by simp [hp.bounds]
  obtain ⟨c, hc⟩ := (hp.next_iff p.low).1 hlow
  refine ⟨c, (concat_prefix_iff.1 hc).1, ?_⟩
  intro hall
  have hlength := hc.length_le
  rw [← hall, List.length_append, List.length_singleton] at hlength
  omega

theorem concat_iff (hp : Open p) (c : Char) :
    p.read ++ [b] <+: String.utf8EncodeChar c ↔
      c.utf8Size = p.read.length + p.owed ∧ (128 ≤ b.toNat ∧ b.toNat < 192) ∧
        c.toNat / 64 ^ (p.owed - 1) = p.bits * 64 + (b.toNat - 128) :=
  concat_prefix_utf8EncodeChar_iff hp.ne_nil hp.owed (hp.prefix_iff c) b

/-- The last octet completes the character that is read. -/
theorem last (hp : Open p) (hb : (p.low ≤ b && b ≤ p.high) = true) (howed : p.owed ≤ 1) :
    String.utf8EncodeChar (Char.ofNat (p.bits * 64 + (b.toNat - 0x80))) = p.read ++ [b] := by
  obtain ⟨c, hc⟩ := (hp.next_iff b).1 hb
  have hone : p.owed = 1 := Nat.le_antisymm howed hp.owed
  obtain ⟨hsize, -, hn⟩ := (hp.concat_iff c).1 hc
  rw [hone, Nat.sub_self, Nat.pow_zero, Nat.div_one] at hn
  rw [← hn, Char.ofNat_toNat]
  refine (hc.eq_of_length ?_).symm
  rw [String.length_utf8EncodeChar, List.length_append, List.length_singleton, hsize, hone]

/-- With an octet that is not the last the character stays begun. -/
theorem next (hp : Open p) (hb : (p.low ≤ b && b ≤ p.high) = true) (howed : 1 < p.owed) :
    Open ⟨p.read ++ [b], p.owed - 1, 0x80, 0xBF, p.bits * 64 + (b.toNat - 0x80)⟩ := by
  have hbegins := (hp.next_iff b).1 hb
  have hoctet : 128 ≤ b.toNat ∧ b.toNat < 192 := by
    obtain ⟨c, hc⟩ := hbegins
    exact ((hp.concat_iff c).1 hc).2.1
  have hpos : 0 < p.read.length := List.length_pos_of_ne_nil hp.ne_nil
  have hextended : ∀ c, p.read ++ [b] <+: String.utf8EncodeChar c ↔
      c.utf8Size = (p.read ++ [b]).length + (p.owed - 1) ∧
        c.toNat / 64 ^ (p.owed - 1) = p.bits * 64 + (b.toNat - 0x80) := by
    intro c
    rw [hp.concat_iff, and_iff_right hoctet, List.length_append, List.length_singleton]
    refine and_congr_left fun _ => ?_
    omega
  refine open_of_bounds (by simp) (Nat.sub_pos_of_lt howed) hextended (by decide) fun six => ?_
  -- what the further octet can be does not depend on the bits that are there
  obtain ⟨c, hc⟩ := hbegins
  obtain ⟨hsize, hn⟩ := (hextended c).1 hc
  have hlength : (p.read ++ [b]).length = p.read.length + 1 := by simp
  obtain ⟨k, hk⟩ : ∃ k, p.owed - 1 = k + 1 := Nat.exists_eq_succ_of_ne_zero (by omega)
  have hsized := sized c
  rw [hsize] at hsized
  have hbounds : (0x80 : UInt8).toNat ≤ six + 128 ∧ six + 128 ≤ (0xBF : UInt8).toNat ↔
      six < 64 := by
    simp
    omega
  rw [hbounds, ← hn, hk, Nat.add_sub_cancel, iff_self_and]
  intro hsix
  rw [hk] at hsized
  exact sized_of_block hsized (by omega) (block_div _ k hsix).2

end Open

/-! ## First octets -/

/-- What begins with one octet, by the length of the character. -/
theorem singleton_prefix_iff (b : UInt8) (c : Char) :
    [b] <+: String.utf8EncodeChar c ↔
      c.utf8Size = 1 ∧ b.toNat = c.toNat ∨ c.utf8Size = 2 ∧ b.toNat = c.toNat / 64 + 192 ∨
        c.utf8Size = 3 ∧ b.toNat = c.toNat / 4096 + 224 ∨
        c.utf8Size = 4 ∧ b.toNat = c.toNat / 262144 + 240 := by
  have hsize : c.utf8Size = (String.utf8EncodeChar c).length := by simp
  have hhead : ∀ {n : Nat} {rest : Bytes}, n < 256 →
      ([b] <+: UInt8.ofNat n :: rest ↔ b.toNat = n) := by
    intro n rest hn
    rw [List.cons_prefix_cons, and_iff_left List.nil_prefix, ← UInt8.toNat_inj,
      UInt8.toNat_ofNat_of_lt' hn]
  rw [hsize]
  rcases utf8EncodeChar_cases c with ⟨h, henc⟩ | ⟨h, henc⟩ | ⟨h, henc⟩ | ⟨h, henc⟩
  all_goals
    rw [henc, hhead (by omega)]
    simp

/-- What the first octet of a character is, and what is none. -/
theorem begin?_cases (b : UInt8) :
    b.toNat < 128 ∧ begin? b = some (.inl (Char.ofNat b.toNat)) ∨
    (∃ m, (2 ≤ m ∧ m < 32) ∧ b.toNat = m + 192 ∧
      begin? b = some (.inr ⟨[b], 1, 0x80, 0xBF, m⟩)) ∨
    (∃ m, m < 16 ∧ b.toNat = m + 224 ∧ begin? b = some (.inr ⟨[b], 2,
      if m = 0 then 0xA0 else 0x80, if m = 13 then 0x9F else 0xBF, m⟩)) ∨
    (∃ m, m < 5 ∧ b.toNat = m + 240 ∧ begin? b = some (.inr ⟨[b], 3,
      if m = 0 then 0x90 else 0x80, if m = 4 then 0x8F else 0xBF, m⟩)) ∨
    (128 ≤ b.toNat ∧ b.toNat < 194 ∨ 245 ≤ b.toNat) ∧ begin? b = none := by
  have hb : b = UInt8.ofNat b.toNat := UInt8.ofNat_toNat.symm
  have hlt : b.toNat < 256 := b.toNat_lt
  generalize b.toNat = n at hb hlt ⊢
  subst hb
  rcases Nat.lt_or_ge n 128 with hone | hone
  · exact .inl ⟨hone, begin?_one hone⟩
  rcases Nat.lt_or_ge n 194 with htwo | htwo
  · exact .inr (.inr (.inr (.inr ⟨.inl ⟨hone, htwo⟩, begin?_none (.inl ⟨hone, htwo⟩)⟩)))
  rcases Nat.lt_or_ge n 224 with hthree | hthree
  · obtain ⟨m, rfl⟩ := Nat.exists_eq_add_of_le' (by omega : 192 ≤ n)
    exact .inr (.inl ⟨m, by omega, rfl, begin?_two (by omega) (by omega)⟩)
  rcases Nat.lt_or_ge n 240 with hfour | hfour
  · obtain ⟨m, rfl⟩ := Nat.exists_eq_add_of_le' hthree
    exact .inr (.inr (.inl ⟨m, by omega, rfl, begin?_three (by omega)⟩))
  rcases Nat.lt_or_ge n 245 with hnone | hnone
  · obtain ⟨m, rfl⟩ := Nat.exists_eq_add_of_le' hfour
    exact .inr (.inr (.inr (.inl ⟨m, by omega, rfl, begin?_four (by omega)⟩)))
  · exact .inr (.inr (.inr (.inr ⟨.inr hnone, begin?_none (.inr ⟨hnone, hlt⟩)⟩)))

/-- The characters that the first octet of a character begins, by their leading bits. -/
theorem first_prefix_iff {b : UInt8} {owed m : Nat}
    (h : owed = 1 ∧ (2 ≤ m ∧ m < 32) ∧ b.toNat = m + 192 ∨ owed = 2 ∧ m < 16 ∧ b.toNat = m + 224 ∨
      owed = 3 ∧ m < 5 ∧ b.toNat = m + 240) (c : Char) :
    [b] <+: String.utf8EncodeChar c ↔ c.utf8Size = 1 + owed ∧ c.toNat / 64 ^ owed = m := by
  have hsized := sized c
  unfold Sized at hsized
  rw [singleton_prefix_iff]
  rcases h with ⟨rfl, hm, hb⟩ | ⟨rfl, hm, hb⟩ | ⟨rfl, hm, hb⟩
  · omega
  · omega
  · omega

/-- What the first octet of a character does: it is a character, begins longer ones or none. -/
theorem begin?_reads (b : UInt8) :
    (∃ c, begin? b = some (.inl c) ∧ String.utf8EncodeChar c = [b]) ∨
    (∃ p, begin? b = some (.inr p) ∧ p.read = [b] ∧ Open p) ∨
    begin? b = none ∧ ¬Begins [b] := by
  rcases begin?_cases b with ⟨hb, hbegin⟩ | ⟨m, hm, hb, hbegin⟩ | ⟨m, hm, hb, hbegin⟩ |
    ⟨m, hm, hb, hbegin⟩ | ⟨hb, hbegin⟩
  · have hsized : Sized 1 b.toNat := .inl ⟨rfl, hb⟩
    obtain ⟨c, hc, hsize⟩ := exists_char hsized
    rw [← hc, Char.ofNat_toNat] at hbegin
    refine .inl ⟨c, hbegin, (List.IsPrefix.eq_of_length ?_ ?_).symm⟩
    · rw [singleton_prefix_iff]
      exact .inl ⟨hsize, hc.symm⟩
    · rw [String.length_utf8EncodeChar, hsize]
      rfl
  · have hfirst := first_prefix_iff (.inl ⟨rfl, hm, hb⟩)
    refine .inr (.inl ⟨_, hbegin, rfl, open_of_bounds (by simp) (by decide) hfirst (by decide) ?_⟩)
    intro six
    unfold Sized
    simp
    omega
  · have hfirst := first_prefix_iff (.inr (.inl ⟨rfl, hm, hb⟩))
    refine .inr (.inl ⟨_, hbegin, rfl, open_of_bounds (by simp) (by decide) hfirst ?_ ?_⟩)
    · split <;> split <;> simp
      omega
    · intro six
      unfold Sized
      split <;> split <;> simp <;> omega
  · have hfirst := first_prefix_iff (.inr (.inr ⟨rfl, hm, hb⟩))
    refine .inr (.inl ⟨_, hbegin, rfl, open_of_bounds (by simp) (by decide) hfirst ?_ ?_⟩)
    · split <;> split <;> simp
      omega
    · intro six
      unfold Sized
      split <;> split <;> simp <;> omega
  · -- in none of the four sizes does a character begin with the octet
    refine .inr (.inr ⟨hbegin, ?_⟩)
    rintro ⟨c, hc⟩
    have hsized := sized c
    rw [singleton_prefix_iff] at hc
    unfold Sized at hsized
    omega

/-! ## Reading -/

/-- What an octet does to a character begun: it completes it, continues it or does not belong to
it. -/
theorem Open.continue?_cases {p : Begun} (hp : Open p) (b : UInt8) :
    (∃ c, continue? p b = some (.inl c) ∧ String.utf8EncodeChar c = p.read ++ [b]) ∨
    (∃ q, continue? p b = some (.inr q) ∧ q.read = p.read ++ [b] ∧ Open q) ∨
    continue? p b = none ∧ ¬Begins (p.read ++ [b]) := by
  unfold continue?
  by_cases hb : (p.low ≤ b && b ≤ p.high) = true
  · rw [if_pos hb]
    dsimp only
    by_cases howed : p.owed ≤ 1
    · rw [if_pos howed]
      exact .inl ⟨_, rfl, hp.last hb howed⟩
    · rw [if_neg howed]
      exact .inr (.inl ⟨_, rfl, rfl, hp.next hb (by omega)⟩)
  · rw [if_neg hb]
    exact .inr (.inr ⟨rfl, fun hbegins => hb ((hp.next_iff b).2 hbegins)⟩)

/-- The character that a piece is read as. -/
def Piece.shown (p : Piece) : Char := p.char?.getD '\uFFFD'

/-- Reading goes from one character or broken one to the next, from a character begun on, too. -/
theorem scanFrom_decoded (bs : Bytes) :
    Decoded bs ((scanFrom none bs).map Piece.shown) ∧
      ∀ p, Open p → Decoded (p.read ++ bs) ((scanFrom (some p) bs).map Piece.shown) := by
  induction bs with
  | nil =>
    refine ⟨.nil, fun p hp => ?_⟩
    obtain ⟨c, hbegun, hpart⟩ := hp.part
    exact .broken (.begun hp.ne_nil hbegun hpart (by simp)) .nil
  | cons b bs ih =>
    have hafresh : Decoded (b :: bs) ((scanFrom none (b :: bs)).map Piece.shown) := by
      rw [scanFrom]
      rcases begin?_reads b with ⟨c, hbegin, hchar⟩ | ⟨p, hbegin, hread, hp⟩ | ⟨hbegin, hnone⟩
      · have hwhole := Decoded.char c ih.1
        rw [hchar] at hwhole
        rwa [hbegin]
      · have hbegun := ih.2 p hp
        rw [hread] at hbegun
        rwa [hbegin]
      · rw [hbegin]
        exact .broken (.stray hnone) ih.1
    refine ⟨hafresh, fun p hp => ?_⟩
    rw [scanFrom]
    rcases hp.continue?_cases b with ⟨c, hnext, hchar⟩ | ⟨q, hnext, hread, hq⟩ | ⟨hnext, hend⟩
    · have hwhole := Decoded.char c ih.1
      rw [hchar, List.append_assoc] at hwhole
      rwa [hnext]
    · have hbegun := ih.2 q hq
      rw [hread, List.append_assoc] at hbegun
      rwa [hnext]
    · -- the octet is looked at afresh behind the octets that are no character
      obtain ⟨c, hbegun, hpart⟩ := hp.part
      rw [hnext]
      exact .broken (.begun hp.ne_nil hbegun hpart (by simp [hend])) hafresh

/-! ## Text alone -/

/-- The octets of a piece. -/
def Piece.octets : Piece → Bytes
  | .char c => String.utf8EncodeChar c
  | .junk bytes => bytes

/-- The pieces of some octets are these octets, from a character begun on, too. -/
theorem scanFrom_octets (bs : Bytes) :
    (scanFrom none bs).flatMap Piece.octets = bs ∧
      ∀ p, Open p → (scanFrom (some p) bs).flatMap Piece.octets = p.read ++ bs := by
  -- the two claims go together: what begins a character is still owed its octets
  induction bs with
  | nil =>
    refine ⟨rfl, fun p hp => ?_⟩
    rw [scanFrom, List.flatMap_singleton, List.append_nil]
    rfl
  | cons b bs ih =>
    have hafresh : (scanFrom none (b :: bs)).flatMap Piece.octets = b :: bs := by
      rw [scanFrom]
      rcases begin?_reads b with ⟨c, hbegin, hchar⟩ | ⟨p, hbegin, hread, hp⟩ | ⟨hbegin, -⟩
      · rw [hbegin]
        dsimp only
        rw [List.flatMap_cons, ih.1, Piece.octets, hchar]
        rfl
      · rw [hbegin]
        dsimp only
        rw [ih.2 p hp, hread]
        rfl
      · rw [hbegin]
        dsimp only
        rw [List.flatMap_cons, ih.1]
        rfl
    refine ⟨hafresh, fun p hp => ?_⟩
    rcases hp.continue?_cases b with ⟨c, hnext, hchar⟩ | ⟨q, hnext, hread, hq⟩ | ⟨hnext, -⟩
    · rw [scanFrom, hnext]
      dsimp only
      rw [List.flatMap_cons, ih.1, Piece.octets, hchar, List.append_assoc]
      rfl
    · rw [scanFrom, hnext]
      dsimp only
      rw [ih.2 q hq, hread, List.append_assoc]
      rfl
    · -- the octet is looked at afresh behind those of the character begun
      have hsplit : scanFrom (some p) (b :: bs) = .junk p.read :: scanFrom none (b :: bs) := by
        rw [scanFrom, scanFrom, hnext]
      rw [hsplit, List.flatMap_cons, hafresh]
      rfl

theorem eq_map_char {pieces : List Piece} {cs : List Char}
    (h : pieces.mapM Piece.char? = some cs) : pieces = cs.map .char := by
  induction pieces generalizing cs with
  | nil =>
    rcases Option.some.inj h with rfl
    rfl
  | cons p pieces ih =>
    rw [List.mapM_cons, Option.bind_eq_bind, Option.bind_eq_some_iff] at h
    rcases h with ⟨c, hc, h⟩
    rw [Option.bind_eq_bind, Option.bind_eq_some_iff] at h
    rcases h with ⟨rest, hrest, h⟩
    rcases Option.some.inj h with rfl
    cases p with
    | char c' =>
      rcases Option.some.inj hc with rfl
      rw [List.map_cons, ← ih hrest]
    | junk bytes => cases hc

/-- Strict reading finds a text exactly in the octets of the text. -/
theorem decode?_eq_some_iff {bs : Bytes} {cs : List Char} :
    decode? bs = some cs ↔ bs = encode cs := by
  constructor
  · intro h
    have hoctets := (scanFrom_octets bs).1
    rw [← scan, eq_map_char h, List.flatMap_map] at hoctets
    exact hoctets.symm
  · rintro rfl
    exact decode?_encode cs

theorem text?_eq_some_iff {bs : Bytes} {s : String} : text? bs = some s ↔ bs = octets s := by
  constructor
  · intro h
    obtain ⟨cs, hcs, rfl⟩ := Option.map_eq_some_iff.1 h
    rw [octets, String.toList_ofList]
    exact decode?_eq_some_iff.1 hcs
  · rintro rfl
    exact text?_octets s

/-! ## One reading -/

/-- No character's octets begin those of another. -/
theorem eq_of_prefix_utf8EncodeChar {c c' : Char}
    (h : String.utf8EncodeChar c <+: String.utf8EncodeChar c') : c = c' := by
  -- the first character that is read from the octets is both of them
  obtain ⟨rest, hrest⟩ := h
  have hc := scanFrom_utf8EncodeChar c rest
  rw [hrest] at hc
  have hc' := scanFrom_utf8EncodeChar c' []
  rw [List.append_nil, hc] at hc'
  exact Piece.char.inj (List.cons.inj hc').1

namespace Broken

variable {bs rest : Bytes}

theorem ne_nil (h : Broken bs rest) : bs ≠ [] := by
  cases h with
  | begun hne hbegun hpart hlongest => exact hne
  | stray h => simp

/-- What begins a character goes no further than the octets that are none. -/
theorem prefix_of_begins (h : Broken bs rest) {l : Bytes} (hl : l <+: bs ++ rest)
    (hbegins : Begins l) : l <+: bs := by
  have hstart : ∀ {front : Bytes}, front <+: l → Begins front := by
    rintro front hfront
    obtain ⟨c, hc⟩ := hbegins
    exact ⟨c, hfront.trans hc⟩
  cases h with
  | begun hne hbegun hpart hlongest =>
    rcases List.prefix_or_prefix_of_prefix hl (List.prefix_append bs rest) with hle | ⟨more, rfl⟩
    · exact hle
    · -- with one octet more they would still begin a character
      cases more with
      | nil => simp
      | cons b more =>
        obtain ⟨rest', rfl⟩ := (List.prefix_append_right_inj bs).1 hl
        exact absurd (hstart ⟨more, by simp⟩) (hlongest b rfl)
  | @stray b rest h =>
    cases l with
    | nil => exact List.nil_prefix
    | cons a l =>
      obtain ⟨rfl, -⟩ := List.cons_prefix_cons.1 hl
      exact absurd (hstart ⟨l, rfl⟩) h

/-- No character is where octets are none. -/
theorem not_char (h : Broken bs rest) (c : Char) :
    ¬String.utf8EncodeChar c <+: bs ++ rest := by
  intro hl
  have hle := h.prefix_of_begins hl ⟨c, List.prefix_refl _⟩
  cases h with
  | @begun c' _ _ hne hbegun hpart hlongest =>
    obtain rfl := eq_of_prefix_utf8EncodeChar (hle.trans hbegun)
    exact hpart (hbegun.eq_of_length_le hle.length_le)
  | @stray b rest h =>
    have hsize := c.utf8Size_pos
    have hall := hle.eq_of_length_le (by simp; omega)
    exact h ⟨c, hall ▸ List.prefix_refl _⟩

/-- Octets that are no character end at one place. -/
theorem unique {bs' rest' : Bytes} (h : Broken bs rest) (h' : Broken bs' rest')
    (heq : bs ++ rest = bs' ++ rest') : bs = bs' := by
  have hle : Begins bs → bs <+: bs' := fun hbegins =>
    h'.prefix_of_begins (heq ▸ List.prefix_append bs rest) hbegins
  have hge : Begins bs' → bs' <+: bs := fun hbegins =>
    h.prefix_of_begins (heq ▸ List.prefix_append bs' rest') hbegins
  have hpos := List.length_pos_of_ne_nil h.ne_nil
  have hpos' := List.length_pos_of_ne_nil h'.ne_nil
  cases h with
  | @begun c _ _ hne hbegun hpart hlongest =>
    have hle := hle ⟨c, hbegun⟩
    cases h' with
    | @begun c' _ _ hne' hbegun' hpart' hlongest' =>
      exact hle.eq_of_length_le (hge ⟨c', hbegun'⟩).length_le
    | stray h' => exact hle.eq_of_length_le hpos
  | @stray b rest h =>
    cases h' with
    | @begun c' _ _ hne' hbegun' hpart' hlongest' =>
      exact ((hge ⟨c', hbegun'⟩).eq_of_length_le hpos').symm
    | stray h' => rw [(List.cons.inj heq).1]

end Broken

namespace Decoded

variable {bs rest : Bytes} {cs : List Char}

theorem eq_nil (h : Decoded [] cs) : cs = [] := by
  generalize hbs : ([] : Bytes) = bs at h
  cases h with
  | nil => rfl
  | char c h =>
    have hlength := congrArg List.length hbs
    have hpos := c.utf8Size_pos
    rw [List.length_append, String.length_utf8EncodeChar, List.length_nil] at hlength
    omega
  | broken hbroken h => exact absurd (List.append_eq_nil_iff.1 hbs.symm).1 hbroken.ne_nil

theorem of_char {c : Char} (h : Decoded (String.utf8EncodeChar c ++ bs) cs) :
    ∃ cs', cs = c :: cs' ∧ Decoded bs cs' := by
  generalize hwhole : String.utf8EncodeChar c ++ bs = whole at h
  have hfront : String.utf8EncodeChar c <+: whole := ⟨bs, hwhole⟩
  cases h with
  | nil =>
    have hlength := hfront.length_le
    have hpos := c.utf8Size_pos
    rw [String.length_utf8EncodeChar, List.length_nil] at hlength
    omega
  | char c' h =>
    have hsame : c = c' := by
      rcases List.prefix_or_prefix_of_prefix hfront (List.prefix_append _ _) with hle | hge
      · exact eq_of_prefix_utf8EncodeChar hle
      · exact (eq_of_prefix_utf8EncodeChar hge).symm
    subst hsame
    rw [List.append_cancel_left hwhole]
    exact ⟨_, rfl, h⟩
  | broken hbroken h => exact absurd hfront (hbroken.not_char c)

theorem of_broken (hbroken : Broken bs rest) (h : Decoded (bs ++ rest) cs) :
    ∃ cs', cs = '\uFFFD' :: cs' ∧ Decoded rest cs' := by
  generalize hwhole : bs ++ rest = whole at h
  cases h with
  | nil => exact absurd (List.append_eq_nil_iff.1 hwhole).1 hbroken.ne_nil
  | char c h =>
    refine absurd ?_ (hbroken.not_char c)
    rw [hwhole]
    exact List.prefix_append _ _
  | broken hbroken' h =>
    obtain rfl := hbroken.unique hbroken' hwhole
    rw [List.append_cancel_left hwhole]
    exact ⟨_, rfl, h⟩

/-- Octets are read as one text. -/
theorem unique {cs' : List Char} (h : Decoded bs cs) (h' : Decoded bs cs') : cs = cs' := by
  induction h generalizing cs' with
  | nil => exact h'.eq_nil.symm
  | char c h ih =>
    obtain ⟨cs'', rfl, h''⟩ := h'.of_char
    rw [ih h'']
  | broken hbroken h ih =>
    obtain ⟨cs'', rfl, h''⟩ := h'.of_broken hbroken
    rw [ih h'']

end Decoded

/-- Forgiving reading finds the one text that octets are read as. -/
theorem decoded_iff (bs : Bytes) (cs : List Char) : Decoded bs cs ↔ cs = decodeLossy bs := by
  have hread : Decoded bs (decodeLossy bs) := (scanFrom_decoded bs).1
  constructor
  · intro h
    exact h.unique hread
  · rintro rfl
    exact hread

end SelfTrace.Text
