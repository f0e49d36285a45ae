import Mathlib.Data.List.Basic
import SelfTrace.Introspection.MarkerDirectory

/-!
# Names of markers

The marker of a property that can be expressed is one name in the directory, and tells the property
again.

* `Text.octets_inj` — texts with the same octets are the same;
* `splitMarker?_markerName` — the name of a marker tells its property;
* `slash_not_mem_marker` — the name of a marker is one name.
-/

namespace SelfTrace

/-! ## Octets of texts -/

namespace Text

theorem octets_inj {s t : String} : octets s = octets t ↔ s = t := by
  constructor
  · intro h
    have hencoded : s.toList.utf8Encode = t.toList.utf8Encode := congrArg List.toByteArray h
    rw [String.utf8Encode_toList, String.utf8Encode_toList] at hencoded
    exact String.toByteArray_inj.1 hencoded
  · intro h
    rw [h]

/-- An octet below 128 is no part of a character but its own. -/
theorem toNat_of_mem_utf8EncodeChar {c : Char} {b : UInt8} (h : b ∈ String.utf8EncodeChar c)
    (hb : b.toNat < 128) : c.toNat = b.toNat := by
  have hval : c.val.toNat = c.toNat := rfl
  unfold String.utf8EncodeChar at h
  simp only [hval] at h
  split at h
  · rw [List.mem_singleton] at h
    rw [h, UInt8.toNat_ofNat']
    omega
  · -- in longer characters all octets have the highest bit
    exfalso
    split at h
    · simp only [List.mem_cons, List.not_mem_nil, or_false] at h
      rcases h with rfl | rfl
      all_goals
        rw [UInt8.toNat_ofNat'] at hb
        omega
    · split at h
      · simp only [List.mem_cons, List.not_mem_nil, or_false] at h
        rcases h with rfl | rfl | rfl
        all_goals
          rw [UInt8.toNat_ofNat'] at hb
          omega
      · simp only [List.mem_cons, List.not_mem_nil, or_false] at h
        rcases h with rfl | rfl | rfl | rfl
        all_goals
          rw [UInt8.toNat_ofNat'] at hb
          omega

/-- An octet below 128 is in a text exactly if its character is. -/
theorem mem_octets_iff {s : String} {c : Char} (hc : c.toNat < 128) :
    UInt8.ofNat c.toNat ∈ octets s ↔ c ∈ s.toList := by
  have hoctet : (UInt8.ofNat c.toNat).toNat = c.toNat := by
    rw [UInt8.toNat_ofNat']
    omega
  rw [octets, encode, List.mem_flatMap]
  constructor
  · intro h
    obtain ⟨c', hmem, hb⟩ := h
    have heq := toNat_of_mem_utf8EncodeChar hb (by omega)
    have hchar : c' = c := Char.toNat_inj.1 (heq.trans hoctet)
    rw [← hchar]
    exact hmem
  · intro h
    have hval : c.val.toNat = c.toNat := rfl
    refine ⟨c, h, ?_⟩
    unfold String.utf8EncodeChar
    simp only [hval]
    rw [if_pos (by omega)]
    exact List.mem_singleton_self _

/-! ## The first of some characters -/

theorem takeWhile_ne_append {c : Char} {front rest : List Char} (h : c ∉ front) :
    (front ++ c :: rest).takeWhile (· != c) = front := by
  have hfront : ∀ c' ∈ front, (c' != c) = true := by
    intro c' hc'
    have hne : c' ≠ c := by
      rintro rfl
      exact h hc'
    simpa using hne
  rw [List.takeWhile_append_of_pos hfront]
  simp

theorem dropWhile_ne_append {c : Char} {front rest : List Char} (h : c ∉ front) :
    (front ++ c :: rest).dropWhile (· != c) = c :: rest := by
  have happend := List.takeWhile_append_dropWhile (p := (· != c)) (l := front ++ c :: rest)
  rw [takeWhile_ne_append h] at happend
  exact List.append_cancel_left happend

end Text

/-! ## Markers -/

namespace MarkerDirectory

variable {key key' value value' : String}

/-- The octets of a marker's name. -/
def marker (key value : String) : Bytes := Text.octets (markerName key value)

theorem toList_markerName (key value : String) :
    (markerName key value).toList = key.toList ++ '=' :: value.toList := by
  simp [markerName]

/-- A name tells the property whose key is in front of its first `=`. -/
theorem splitMarker?_eq_some_iff {name k v : List Char} :
    splitMarker? name = some (k, v) ↔ name = k ++ '=' :: v ∧ '=' ∉ k := by
  unfold splitMarker?
  constructor
  · intro h
    split at h
    · next hmem =>
      rcases List.eq_append_cons_of_mem (List.contains_iff_mem.1 hmem) with
        ⟨front, rest, rfl, hfront⟩
      rw [Text.takeWhile_ne_append hfront, Text.dropWhile_ne_append hfront] at h
      rcases Option.some.inj h with ⟨rfl, rfl⟩
      exact ⟨rfl, hfront⟩
    · cases h
  · rintro ⟨rfl, hk⟩
    rw [if_pos (by simp), Text.takeWhile_ne_append hk, Text.dropWhile_ne_append hk]
    rfl

/-- The name of a marker tells its property. -/
theorem splitMarker?_markerName (h : '=' ∉ key.toList) :
    splitMarker? (markerName key value).toList = some (key.toList, value.toList) :=
  splitMarker?_eq_some_iff.2 ⟨toList_markerName key value, h⟩

theorem expressible_iff : expressible key value = true ↔
    '/' ∉ key.toList ∧ '=' ∉ key.toList ∧ '/' ∉ value.toList := by
  simp [expressible, and_assoc]

/-- Different properties have different markers. -/
theorem marker_inj (h : expressible key value = true) (h' : expressible key' value' = true) :
    marker key value = marker key' value' ↔ key = key' ∧ value = value' := by
  constructor
  · intro heq
    have hsplit : splitMarker? (markerName key value).toList = some (key.toList, value.toList) :=
      splitMarker?_markerName (expressible_iff.1 h).2.1
    rw [Text.octets_inj.1 heq, splitMarker?_markerName (expressible_iff.1 h').2.1] at hsplit
    injection hsplit with hsplit
    injection hsplit with hkey hvalue
    exact ⟨(String.toList_inj.1 hkey).symm, (String.toList_inj.1 hvalue).symm⟩
  · intro heq
    rw [heq.1, heq.2]

/-- The octet between key and value. -/
def equals : UInt8 := 0x3D

theorem equals_mem_marker (key value : String) :
    equals ∈ marker key value := by
  have hmem : '=' ∈ (markerName key value).toList := by
    rw [toList_markerName]
    simp
  exact (Text.mem_octets_iff (by decide)).2 hmem

/-- The name of a marker is no path from the root. -/
theorem isAbsolute_marker (h : '/' ∉ key.toList) :
    Path.isAbsolute (marker key value) = false := by
  have happend : marker key value = Text.octets key ++ equals :: Text.octets value := by
    rw [marker, Text.octets, toList_markerName, Text.encode, List.flatMap_append, List.flatMap_cons]
    rfl
  have hslash : Path.slash ∉ Text.octets key := by
    intro hmem
    have hkey : '/' ∈ key.toList := (Text.mem_octets_iff (by decide)).1 hmem
    exact h hkey
  rw [happend]
  cases hoctets : Text.octets key with
  | nil => rfl
  | cons b rest =>
    rw [hoctets, List.mem_cons, not_or] at hslash
    simp [Path.isAbsolute, Ne.symm hslash.1]

/-- The name of a marker is one name. -/
theorem slash_not_mem_marker (h : expressible key value = true) :
    Path.slash ∉ marker key value := by
  obtain ⟨hkey, -, hvalue⟩ := expressible_iff.1 h
  intro hmem
  have hslash : '/' ∈ (markerName key value).toList :=
    (Text.mem_octets_iff (by decide)).1 hmem
  rw [toList_markerName] at hslash
  simp [hkey, hvalue] at hslash

end MarkerDirectory

end SelfTrace
