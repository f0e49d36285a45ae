/-!
# Texts in order

Texts are ordered by the numbers of their characters, which is also the order of their octets.
-/

namespace SelfTrace.Text

/-- The first list of texts does not come after the second in the order of a dictionary. -/
def notAfter (a b : List String) : Bool := !b.lex a fun x y => x < y

theorem notAfter_iff (a b : List String) : notAfter a b = true ↔ a.le b := by
  rw [notAfter, Bool.not_eq_true']
  exact List.lex_eq_false_iff_ge

theorem notAfter_total (a b : List String) : notAfter a b = true ∨ notAfter b a = true := by
  rw [notAfter_iff, notAfter_iff]
  exact List.le_total a b

theorem notAfter_trans {a b c : List String} (h : notAfter a b = true) (h' : notAfter b c = true) :
    notAfter a c = true := by
  rw [notAfter_iff] at h h' ⊢
  exact List.le_trans h h'

theorem notAfter_antisymm {a b : List String} (h : notAfter a b = true)
    (h' : notAfter b a = true) : a = b := by
  rw [notAfter_iff] at h h'
  exact List.le_antisymm h h'

end SelfTrace.Text
