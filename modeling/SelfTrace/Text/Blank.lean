/-!
# Blank characters

White space as Unicode defines it, and trimming by it. Main statements:

* `trim_trim` — trimming twice is trimming once;
* `trim_eq_nil_iff` — a text trims to nothing exactly when all of it is blank.

The functions work on lists of characters; the `String` forms wrap them.
-/

namespace SelfTrace.Text

/-! ## Characters -/

/-- The characters with the Unicode property `White_Space`. -/
def isBlank (c : Char) : Bool :=
  let n := c.toNat
  (9 ≤ n && n ≤ 13) || n == 0x20 || n == 0x85 || n == 0xA0 || n == 0x1680 ||
  (0x2000 ≤ n && n ≤ 0x200A) || n == 0x2028 || n == 0x2029 || n == 0x202F ||
  n == 0x205F || n == 0x3000

/-! ## Trimming -/

/-- Drops blanks in front. -/
def trimStart (cs : List Char) : List Char := cs.dropWhile isBlank

/-- Drops blanks at the end. -/
def trimEnd (cs : List Char) : List Char := (cs.reverse.dropWhile isBlank).reverse

/-- Drops blanks on both sides. -/
def trim (cs : List Char) : List Char := trimEnd (trimStart cs)

/-- A text of blanks alone; the empty text is one. -/
def allBlank (cs : List Char) : Bool := cs.all isBlank

theorem trimStart_eq_nil_iff (cs : List Char) : trimStart cs = [] ↔ allBlank cs := by
  induction cs with
  | nil => simp [trimStart, allBlank]
  | cons c cs ih =>
    by_cases h : isBlank c
    · simp only [trimStart, allBlank, List.dropWhile_cons, h, List.all_cons, Bool.true_and,
        if_true] at ih ⊢
      exact ih
    · simp [trimStart, allBlank, h]

theorem trimEnd_eq_nil_iff (cs : List Char) : trimEnd cs = [] ↔ allBlank cs := by
  rw [trimEnd, List.reverse_eq_nil_iff]
  exact (trimStart_eq_nil_iff cs.reverse).trans (by rw [allBlank, allBlank, List.all_reverse])

/-- What is left after the blanks in front starts with none. -/
theorem trimStart_head (cs : List Char) (c : Char) (rest : List Char)
    (h : trimStart cs = c :: rest) : isBlank c = false := by
  induction cs with
  | nil => simp [trimStart] at h
  | cons d cs ih =>
    by_cases hd : isBlank d
    · exact ih (by simpa [trimStart, List.dropWhile_cons, hd] using h)
    · simp only [trimStart, List.dropWhile_cons, hd] at h
      simp at h
      simpa [h.1] using hd

theorem trim_eq_nil_iff (cs : List Char) : trim cs = [] ↔ allBlank cs := by
  unfold trim
  rw [trimEnd_eq_nil_iff]
  constructor
  · intro h
    rw [← trimStart_eq_nil_iff]
    cases hs : trimStart cs with
    | nil => rfl
    | cons c rest =>
      rw [hs] at h
      have hc := trimStart_head cs c rest hs
      simp [allBlank, hc] at h
  · intro h
    rw [(trimStart_eq_nil_iff cs).2 h]
    rfl

theorem dropWhile_idem (p : Char → Bool) (cs : List Char) :
    (cs.dropWhile p).dropWhile p = cs.dropWhile p := by
  induction cs with
  | nil => rfl
  | cons c cs ih => by_cases h : p c <;> simp [h, ih]

theorem trimEnd_trimEnd (cs : List Char) : trimEnd (trimEnd cs) = trimEnd cs := by
  simp [trimEnd, dropWhile_idem]

/-- Dropping blanks at the end keeps a first character that is no blank. -/
theorem trimEnd_cons (c : Char) (cs : List Char) (h : isBlank c = false) :
    trimEnd (c :: cs) = c :: trimEnd cs := by
  simp only [trimEnd, List.reverse_cons, List.dropWhile_append]
  split <;> simp_all

theorem trim_trim (cs : List Char) : trim (trim cs) = trim cs := by
  unfold trim
  cases hs : trimStart cs with
  | nil => rfl
  | cons c rest =>
    have hc := trimStart_head cs c rest hs
    rw [trimEnd_cons c rest hc]
    have : trimStart (c :: trimEnd rest) = c :: trimEnd rest := by simp [trimStart, hc]
    rw [this, trimEnd_cons c _ hc, trimEnd_trimEnd]

theorem trimStart_eq_self {cs : List Char} (h : ∀ c ∈ cs, isBlank c = false) :
    trimStart cs = cs := by
  cases cs with
  | nil => rfl
  | cons c cs => simp [trimStart, h c List.mem_cons_self]

/-- Nothing is trimmed off a text without blanks. -/
theorem trim_eq_self {cs : List Char} (h : ∀ c ∈ cs, isBlank c = false) : trim cs = cs := by
  have hreverse : ∀ c ∈ cs.reverse, isBlank c = false := by
    intro c hc
    exact h c (List.mem_reverse.1 hc)
  rw [trim, trimStart_eq_self h, trimEnd, ← trimStart, trimStart_eq_self hreverse,
    List.reverse_reverse]

/-! ## Strings -/

/-- The text without blanks on either side. -/
def trimmed (s : String) : String := String.ofList (trim s.toList)

/-- The text holds nothing but blanks. -/
def blank (s : String) : Bool := allBlank s.toList

/-- A value that counts: present and not blank. -/
def nonBlank? (s : Option String) : Option String := s.filter (!blank ·)

end SelfTrace.Text
