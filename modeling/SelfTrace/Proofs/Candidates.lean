import SelfTrace.Introspection.MarkerDirectory
import SelfTrace.Proofs.Replacement
import SelfTrace.Proofs.WrittenIds

/-!
# Candidates

The processes of a user, by the entries of the directory of processes. Entries come in any order,
and some of them can not be read or examined any more.

* `StandsFor` — an entry that stands for a process of a user;
* `Lists` — ascending ids, one for each entry that stands for a process: `Lists.unique`, there is
  one such list for all orders of the entries;
* `exists_listing` — the entries are the names in the directory, each with its own owner;
* `candidates_listed` — the candidates are that list, and an entry that is lost takes only its own
  process away.
-/

namespace SelfTrace

open Files Files.Tree

/-! ## The order of ids -/

namespace ProcessId

theorem le_iff (p q : ProcessId) : p.le q = true ↔ p.raw.toNat ≤ q.raw.toNat := by
  rw [le, decide_eq_true_iff, UInt32.le_iff_toNat_le]

theorem le_trans (p q r : ProcessId) (hpq : p.le q = true) (hqr : q.le r = true) :
    p.le r = true := by
  rw [le_iff] at hpq hqr ⊢
  exact Nat.le_trans hpq hqr

theorem le_total (p q : ProcessId) : (p.le q || q.le p) = true := by
  rw [Bool.or_eq_true, le_iff, le_iff]
  exact Nat.le_total _ _

theorem eq_of_le {p q : ProcessId} (hpq : p.raw.toNat ≤ q.raw.toNat)
    (hqp : q.raw.toNat ≤ p.raw.toNat) : p = q := by
  have hraw : p.raw = q.raw := UInt32.toNat_inj.1 (Nat.le_antisymm hpq hqp)
  cases p
  cases q
  exact congrArg mk hraw

end ProcessId

namespace MarkerDirectory

/-! ## Entries that stand for processes -/

/-- An entry stands for a process of a user: its name is the octets of a text that is the id of the
process, and the entry itself belongs to the user. -/
def StandsFor (user : Nat) (entry : Except Failure Listed) (p : ProcessId) : Prop :=
  ∃ s, ProcessId.parse s = .ok p ∧ entry = .ok ⟨Text.octets s, .ok user⟩

/-- An entry that could not be read, or whose owner could not be found out any more. -/
inductive Unknown : Except Failure Listed → Prop
  | unread (e : Failure) : Unknown (.error e)
  | unexamined (name : Bytes) (e : Failure) : Unknown (.ok ⟨name, .error e⟩)

variable {user : Nat} {entry : Except Failure Listed} {p : ProcessId}

theorem processOf?_eq_some_iff : processOf? user entry = some p ↔ StandsFor user entry p := by
  constructor
  · intro h
    match entry, h with
    | .ok ⟨name, .ok owner⟩, h =>
      simp only [processOf?, Option.bind_eq_bind, Option.bind_eq_some_iff,
        Option.ite_none_right_eq_some, beq_iff_eq] at h
      obtain ⟨s, hs, pid, hpid, rfl, hp⟩ := h
      rw [Option.some.inj hp] at hpid
      exact ⟨s, ProcessId.parse_eq_ok_iff.2 hpid, by rw [Text.text?_eq_some_iff.1 hs]⟩
    | .ok ⟨name, .error e⟩, h =>
      simp [processOf?] at h
  · rintro ⟨s, hs, rfl⟩
    rw [ProcessId.parse_eq_ok_iff] at hs
    simp [processOf?, Text.text?_octets, hs]

instance : Decidable (StandsFor user entry p) := decidable_of_iff _ processOf?_eq_some_iff

namespace StandsFor

theorem unique {q : ProcessId} (hp : StandsFor user entry p) (hq : StandsFor user entry q) :
    p = q := by
  rw [← processOf?_eq_some_iff] at hp hq
  exact Option.some.inj (hp.symm.trans hq)

theorem not_unknown (h : StandsFor user entry p) : ¬Unknown entry := by
  obtain ⟨s, -, rfl⟩ := h
  rintro ⟨⟩

end StandsFor

/-! ## Lists of processes -/

/-- Ids in ascending order, each as often as there are entries that stand for it. -/
structure Lists (user : Nat) (listing : List (Except Failure Listed)) (ps : List ProcessId) :
    Prop where
  ascending : ps.Pairwise fun p q => p.raw.toNat ≤ q.raw.toNat
  counted : ∀ p, ps.count p = listing.countP fun entry => StandsFor user entry p

theorem processesOf_lists (user : Nat) (listing : List (Except Failure Listed)) :
    Lists user listing (processesOf user listing) where
  ascending :=
    (List.pairwise_mergeSort ProcessId.le_trans ProcessId.le_total _).imp fun h =>
      (ProcessId.le_iff _ _).1 h
  counted p := by
    rw [processesOf, (List.mergeSort_perm _ _).count_eq, List.count, List.countP_filterMap]
    refine List.countP_congr fun entry _ => ?_
    rw [decide_eq_true_iff, ← processOf?_eq_some_iff]
    cases processOf? user entry with
    | none => simp
    | some q => simp

namespace Lists

variable {front behind listing listing' : List (Except Failure Listed)} {ps ps' : List ProcessId}

/-- There is one list of processes for all orders of the entries. -/
theorem unique (h : Lists user listing ps) (h' : Lists user listing' ps')
    (hperm : listing.Perm listing') : ps = ps' := by
  have hps : ps.Perm ps' := by
    refine List.perm_iff_count.2 fun p => ?_
    rw [h.counted, h'.counted, hperm.countP_eq]
  exact hps.eq_of_pairwise (fun p q _ _ hpq hqp => ProcessId.eq_of_le hpq hqp) h.ascending
    h'.ascending

/-- Without an entry that stands for a process, the list lacks that process once. -/
theorem erase (h : Lists user (front ++ entry :: behind) ps) (hentry : StandsFor user entry p) :
    Lists user (front ++ behind) (ps.erase p) where
  ascending := h.ascending.sublist List.erase_sublist
  counted q := by
    rw [List.count_erase, h.counted, List.countP_append, List.countP_append, List.countP_cons]
    by_cases hpq : p = q
    · subst hpq
      simp [hentry]
    · have hother : ¬StandsFor user entry q := fun hq => hpq (hentry.unique hq)
      simp [hpq, hother]

/-- An entry that stands for no process does not matter. -/
theorem skip_iff (hentry : ∀ p, ¬StandsFor user entry p) :
    Lists user (front ++ entry :: behind) ps ↔ Lists user (front ++ behind) ps := by
  have hcount : ∀ p, (front ++ entry :: behind).countP (fun e => StandsFor user e p) =
      (front ++ behind).countP fun e => StandsFor user e p := by
    intro p
    rw [List.countP_append, List.countP_append, List.countP_cons, decide_eq_false (hentry p)]
    rfl
  exact ⟨fun h => ⟨h.ascending, fun p => (h.counted p).trans (hcount p)⟩,
    fun h => ⟨h.ascending, fun p => (h.counted p).trans (hcount p).symm⟩⟩

end Lists

/-! ## The directory of processes -/

theorem mem_namesIn_iff {t : Tree} {q : Place} {n : Bytes} :
    n ∈ t.namesIn q ↔ ∃ e, t.entry? (q ++ [n]) = some e := by
  rw [← Option.isSome_iff_exists, entry?, if_neg (by simp), List.find?_isSome, namesIn,
    List.mem_filterMap]
  refine exists_congr fun e => and_congr_right fun _ => ?_
  constructor
  · intro h
    split at h
    · next m hlast =>
      obtain ⟨hfront, hm⟩ := Option.ite_none_right_eq_some.1 h
      rw [beq_iff_eq] at hfront
      rcases Option.some.inj hm with rfl
      rw [beq_iff_eq, ← hfront]
      exact (List.dropLast_append_getLast? m hlast).symm
    · cases h
  · intro h
    rw [beq_iff_eq.1 h, List.getLast?_concat, List.dropLast_concat]
    exact if_pos (beq_self_eq_true q)

/-- The entries are the names in the directory, each with its own owner: where a link leads does not
matter. -/
theorem exists_listing {d : MarkerDirectory} {files : Tree} {root : Entry}
    (hroot : files.find true d.procRoot = .ok root) (hnode : root.node = .dir) :
    ∃ entries, d.listing files = .ok entries ∧
      ∀ entry, entry ∈ entries ↔ ∃ n e, files.entry? (root.place ++ [n]) = some e ∧
        entry = .ok ⟨n, .ok e.owner⟩ := by
  have hexamined : files.examineAll d.procRoot =
      .ok ((files.namesIn root.place).map fun n => (n, files.examine root.place n)) := by
    simp only [examineAll, hroot, hnode]
  rw [MarkerDirectory.listing, hexamined]
  refine ⟨_, rfl, fun entry => ?_⟩
  rw [List.map_map, List.mem_map]
  refine exists_congr fun n => ?_
  rw [mem_namesIn_iff]
  constructor
  · rintro ⟨⟨e, he⟩, rfl⟩
    exact ⟨e, he, by simp [examine, he, Except.map]⟩
  · rintro ⟨e, he, rfl⟩
    exact ⟨⟨e, he⟩, by simp [examine, he, Except.map]⟩

/-! ## The candidates -/

/-- The candidates are the processes of the user that the entries of the listing stand for, in
ascending order and the same for every order of the entries. An entry that is gone, or of which
nothing can be found out any more, takes away no process but its own. -/
theorem candidates_listed (d : MarkerDirectory) :
    (∀ s : Scene Published,
      d.candidates.runOn s = (candidatesIn d.user (d.listing s.files), s)) ∧
    (∀ files root, files.find true d.procRoot = .ok root → root.node = .dir →
      ∃ entries, d.listing files = .ok entries ∧
        ∀ entry, entry ∈ entries ↔ ∃ n e, files.entry? (root.place ++ [n]) = some e ∧
          entry = .ok ⟨n, .ok e.owner⟩) ∧
    ∀ entries, ∃ ps, candidatesIn d.user (.ok entries) = .ok ps ∧ Lists d.user entries ps ∧
      (∀ entries', entries.Perm entries' → candidatesIn d.user (.ok entries') = .ok ps) ∧
      ∀ front entry behind, entries = front ++ entry :: behind →
        ∃ ps', candidatesIn d.user (.ok (front ++ behind)) = .ok ps' ∧
          (∀ unknown, Unknown unknown →
            candidatesIn d.user (.ok (front ++ unknown :: behind)) = .ok ps') ∧
          (∀ p, StandsFor d.user entry p → ps' = ps.erase p) ∧
          ((∀ p, ¬StandsFor d.user entry p) → ps' = ps) := by
  refine ⟨fun s => rfl, fun files root => exists_listing, fun entries => ?_⟩
  -- ascending ids with given counts are one list, however it was made
  have hlists := processesOf_lists d.user
  refine ⟨processesOf d.user entries, rfl, hlists entries, ?_, ?_⟩
  · intro entries' hperm
    exact congrArg Except.ok ((hlists entries').unique (hlists entries) hperm.symm)
  · rintro front entry behind rfl
    refine ⟨processesOf d.user (front ++ behind), rfl, ?_, ?_, ?_⟩
    · intro unknown hunknown
      have hskip := (Lists.skip_iff fun p hp => hp.not_unknown hunknown).1
        (hlists (front ++ unknown :: behind))
      exact congrArg Except.ok (hskip.unique (hlists (front ++ behind)) (.refl _))
    · intro p hp
      exact (hlists (front ++ behind)).unique ((hlists _).erase hp) (.refl _)
    · intro hnone
      exact (hlists (front ++ behind)).unique ((Lists.skip_iff hnone).1 (hlists _)) (.refl _)

/-- An entry that can not be read and one of another user are passed over, and the lower id comes
first though it is listed behind. -/
theorem candidates_listed_unread :
    candidatesIn 1000 (.ok [.ok ⟨Text.octets "20", .ok 1000⟩, .error (.errno 5),
      .ok ⟨Text.octets " 9", .ok 1000⟩, .ok ⟨Text.octets "7", .ok 0⟩]) = .ok [⟨9⟩, ⟨20⟩] := by
  obtain ⟨-, -, hlisted⟩ := candidates_listed ⟨[], [], 1000⟩
  obtain ⟨ps, hps, -, -, hwithout⟩ := hlisted [.ok ⟨Text.octets "20", .ok 1000⟩,
    .error (.errno 5), .ok ⟨Text.octets " 9", .ok 1000⟩, .ok ⟨Text.octets "7", .ok 0⟩]
  obtain ⟨rest, hrest, -, -, hsame⟩ := hwithout [_] _ _ rfl
  have hps_rest : rest = ps := by
    refine hsame fun p => ?_
    rintro ⟨s, -, hs⟩
    cases hs
  obtain ⟨ps', hps', -, hperm, -⟩ := hlisted [.ok ⟨Text.octets "20", .ok 1000⟩,
    .ok ⟨Text.octets " 9", .ok 1000⟩, .ok ⟨Text.octets "7", .ok 0⟩]
  have hfound : [.ok ⟨Text.octets " 9", .ok 1000⟩, .ok ⟨Text.octets "20", .ok 1000⟩,
      .ok ⟨Text.octets "7", .ok 0⟩].filterMap (processOf? 1000) = [⟨9⟩, ⟨20⟩] := by
    decide
  have hsorted := hperm _ (.swap _ _ _)
  rw [candidatesIn, processesOf, hfound, List.mergeSort_of_pairwise (by decide)] at hsorted
  rw [hps, ← hps_rest, ← hrest, hsorted, ← hps']
  rfl

end MarkerDirectory

end SelfTrace
