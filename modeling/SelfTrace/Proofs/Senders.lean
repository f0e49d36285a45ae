import Mathlib.Algebra.BigOperators.Group.Finset.Piecewise
import Mathlib.Algebra.Order.BigOperators.Group.Finset
import SelfTrace.Agent.Agents
import SelfTrace.Proofs.Totals
import SelfTrace.Workload

/-!
# Senders side by side

The workload names its generator, starts its senders one after the other, waits for each of them and
reads the running sum. A sender runs from its start on, beside the workload and beside the other
senders: it adds one response time after the other and pauses now and then. What happens next is up
to nobody.

* `Step` — what can happen next in a run;
* `Sound` — what holds of a run at any time, kept by every step;
* `Step.left_lt` — every step leaves less to do, so that no run goes on for ever;
* `load_delivered` — what every run comes to, whatever the order of its steps.

That a run ends is shown of its steps alone: nothing is asked of the order in which they are taken.
-/

namespace SelfTrace.Workload

open Finset

variable {σ : Type}

/-! ## Runs -/

/-- The number of messages between two pauses of a sender. -/
def pauseEvery : Nat := 100

/-- A sender that was started: the number of its next message, and whether it pauses. -/
structure Sender where
  next : Nat := 0
  pausing : Bool := false
deriving DecidableEq, Repr

/-- How far the workload itself has come. -/
inductive Phase where
  | naming
  | starting
  /-- The number of senders that were waited for. -/
  | joining (joined : Nat)
  | ended (total : Int64)
deriving DecidableEq, Repr

/-- A run on its way. -/
structure Run (σ : Type) where
  scene : Scene σ
  phase : Phase := .naming
  senders : List Sender := []
  sum : Accumulator := .zero

/-- A workload: the handle that it reports to, the number of its senders and that of the messages of
each. -/
structure Job (σ : Type) where
  agents : Agents σ
  handle : String
  senders : Nat
  messages : Nat

namespace Job

/-- The scene after a report. -/
def told (j : Job σ) (f : Monitors → Monitors) (s : Scene σ) : Scene σ :=
  ((j.agents.report j.handle f).runOn s).2

/-- A sender that has sent all its messages. -/
def finished (j : Job σ) : Sender := ⟨j.messages, false⟩

end Job

/-- What can happen next in a run. -/
inductive Step (j : Job σ) (r : Run σ) : Run σ → Prop where
  | name (h : r.phase = .naming) :
      Step j r { r with
        phase := .starting
        scene := j.told (·.setGeneratorName generator) r.scene }
  | start (h : r.phase = .starting) (hmore : r.senders.length < j.senders) :
      Step j r { r with
        senders := r.senders ++ [({} : Sender)]
        scene := j.told Monitors.addTask r.scene }
  | started (h : r.phase = .starting) (hall : r.senders.length = j.senders) :
      Step j r { r with phase := .joining 0 }
  | join (k : Nat) (h : r.phase = .joining k) (hdone : r.senders[k]? = some j.finished) :
      Step j r { r with phase := .joining (k + 1) }
  | read (h : r.phase = .joining j.senders) :
      Step j r { r with phase := .ended r.sum.total }
  | add (i n : Nat) (h : r.senders[i]? = some ⟨n, false⟩) (hmore : n < j.messages) :
      Step j r { r with
        senders := r.senders.set i ⟨n + 1, n % pauseEvery == pauseEvery - 1⟩
        sum := r.sum.add (responseTime (UInt64.ofNat i) (UInt64.ofNat n)) }
  | wake (i n : Nat) (h : r.senders[i]? = some ⟨n, true⟩) :
      Step j r { r with senders := r.senders.set i ⟨n, false⟩ }

/-- A number of steps lead from one run to another. -/
inductive Steps (j : Job σ) (r : Run σ) : Nat → Run σ → Prop where
  | none : Steps j r 0 r
  | one {n : Nat} {r' r'' : Run σ} (h : Steps j r n r') (hstep : Step j r' r'') :
      Steps j r (n + 1) r''

/-! ## Response times -/

/-- A response time as a whole number. -/
def micros (sender message : Nat) : Int :=
  (responseTime (UInt64.ofNat sender) (UInt64.ofNat message)).toInt

theorem micros_eq {sender message : Nat} (h : 7 * sender + 13 * message < 2 ^ 63) :
    micros sender message = 100 + (7 * sender + 13 * message) % 50 := by
  have hnumber : Int64.ofNat sender * 7 + Int64.ofNat message * 13 =
      Int64.ofNat (7 * sender + 13 * message) := by
    rw [Int64.ofNat_add, Int64.ofNat_mul, Int64.ofNat_mul, Int64.mul_comm, Int64.mul_comm _ 13]
    rfl
  have hrest : (Int64.ofNat (7 * sender + 13 * message) % 50).toInt =
      ((7 * sender + 13 * message : Nat) : Int) % 50 := by
    rw [Int64.toInt_mod, Int64.toInt_ofNat_of_lt h]
    exact Int.tmod_eq_emod_of_nonneg (Int.natCast_nonneg _)
  rw [micros, responseTime, UInt64.toInt64_ofNat', UInt64.toInt64_ofNat', hnumber,
    Int64.toInt_add, hrest]
  have hhundred : (100 : Int64).toInt = 100 := rfl
  rw [hhundred, Int.bmod_eq_of_le_mul_two (by omega) (by omega)]
  push_cast
  rfl

theorem micros_bounds {sender message : Nat} (h : 7 * sender + 13 * message < 2 ^ 63) :
    100 ≤ micros sender message ∧ micros sender message ≤ 149 := by
  rw [micros_eq h]
  omega

/-- The response times of all messages, added up without bounds. -/
def Job.expected (j : Job σ) : Int :=
  ∑ sender ∈ range j.senders, ∑ message ∈ range j.messages, micros sender message

theorem Job.expected_bounds (j : Job σ) (h : 7 * j.senders + 13 * j.messages < 2 ^ 63) :
    100 * j.senders * j.messages ≤ j.expected ∧ j.expected ≤ 149 * j.senders * j.messages := by
  have hterm : ∀ sender ∈ range j.senders, ∀ message ∈ range j.messages,
      100 ≤ micros sender message ∧ micros sender message ≤ 149 := by
    intro sender hsender message hmessage
    rw [mem_range] at hsender hmessage
    exact micros_bounds (by omega)
  have hlower : ∀ sender ∈ range j.senders,
      j.messages • (100 : Int) ≤ ∑ message ∈ range j.messages, micros sender message := by
    intro sender hsender
    have hsum := card_nsmul_le_sum (range j.messages) (micros sender) 100
      fun message hmessage => (hterm sender hsender message hmessage).1
    rwa [card_range] at hsum
  have hupper : ∀ sender ∈ range j.senders,
      ∑ message ∈ range j.messages, micros sender message ≤ j.messages • (149 : Int) := by
    intro sender hsender
    have hsum := sum_le_card_nsmul (range j.messages) (micros sender) 149
      fun message hmessage => (hterm sender hsender message hmessage).2
    rwa [card_range] at hsum
  -- the senders' sums are bounded by their terms, and the whole by the senders' sums
  have hleast := card_nsmul_le_sum _ _ _ hlower
  have hmost := sum_le_card_nsmul _ _ _ hupper
  rw [card_range] at hleast hmost
  simp only [nsmul_eq_mul] at hleast hmost
  constructor
  · calc (100 * j.senders * j.messages : Int) = j.senders * (j.messages * 100) := by ring
      _ ≤ j.expected := hleast
  · calc j.expected ≤ j.senders * (j.messages * 149) := hmost
      _ = 149 * j.senders * j.messages := by ring

/-- The sum that is computed sender by sender is that of all response times, reduced. -/
theorem toInt_total (j : Job σ) :
    (total j.senders j.messages).toInt = j.expected.bmod (2 ^ 64) := by
  have hadds : .reset ∉ (additions j.senders j.messages).flatten.map Accumulator.Operation.add := by
    simp
  have hamounts : (((additions j.senders j.messages).flatten.map
      Accumulator.Operation.add).map Accumulator.Operation.amount).sum = j.expected := by
    rw [List.map_map, List.map_flatten, List.sum_flatten, List.map_map, additions, List.map_map]
    refine congrArg List.sum (List.map_congr_left ?_)
    intro sender _
    simp only [Function.comp_apply, taskAdditions, List.map_map]
    rfl
  rw [total, ← Accumulator.run_adds, Accumulator.toInt_run, Accumulator.sumOf_of_not_mem _ hadds,
    hamounts]
  congr 1
  exact Int.zero_add _

/-! ## Reports -/

theorem Job.told_told (j : Job σ) (f g : Monitors → Monitors) (s : Scene σ) :
    j.told g (j.told f s) = j.told (fun m => g (f m)) s := by
  unfold told Agents.report
  cases j.agents.agent? j.handle with
  | none => rfl
  | some a => simp [List.modify_modify_eq, Function.comp_def]

theorem reported_zero (m : Monitors) : reported m 0 = m.setGeneratorName generator := by
  simp [reported, Monitors.addTasks]

theorem reported_succ (m : Monitors) (n : Nat) : reported m (n + 1) = (reported m n).addTask := by
  simp [reported, Monitors.addTasks, Monitors.addTask, UInt64.add_assoc]

/-- The values that were reported show one task more for each sender. -/
theorem toNat_reported {m : Monitors} {n : Nat} (h : m.senderTasks.toNat + n < 2 ^ 64) :
    (reported m n).senderTasks.toNat = m.senderTasks.toNat + n := by
  show (m.senderTasks + UInt64.ofNat n).toNat = _
  rw [UInt64.toNat_add, UInt64.toNat_ofNat']
  omega

/-! ## What was added -/

/-- The number of messages that a sender has sent; none before it is started. -/
def sent (senders : List Sender) (i : Nat) : Nat := (senders[i]?.getD {}).next

/-- The response times that were added, without bounds. -/
def Job.added (j : Job σ) (senders : List Sender) : Int :=
  ∑ i ∈ range j.senders, ∑ message ∈ range (sent senders i), micros i message

variable {j : Job σ} {senders : List Sender} {i n : Nat}

theorem sent_start (senders : List Sender) : sent (senders ++ [({} : Sender)]) = sent senders := by
  funext i
  unfold sent
  rcases Nat.lt_trichotomy i senders.length with h | rfl | h
  · rw [List.getElem?_append_left h]
  · simp
  · rw [List.getElem?_eq_none (by simp; omega), List.getElem?_eq_none (Nat.le_of_lt h)]

theorem sent_set (h : i < senders.length) (x : Sender) (k : Nat) :
    sent (senders.set i x) k = if k = i then x.next else sent senders k := by
  unfold sent
  by_cases hk : k = i
  · subst hk
    simp [h]
  · rw [List.getElem?_set_ne (Ne.symm hk), if_neg hk]

theorem sent_eq {x : Sender} (h : senders[i]? = some x) : sent senders i = x.next := by
  rw [sent, h]
  rfl

/-- A sender that wakes up has added nothing. -/
theorem added_wake (h : senders[i]? = some ⟨n, true⟩) :
    j.added (senders.set i ⟨n, false⟩) = j.added senders := by
  have hlt := (List.getElem?_eq_some_iff.1 h).1
  have hsent : sent (senders.set i ⟨n, false⟩) = sent senders := by
    funext k
    rw [sent_set hlt]
    split
    next hk => rw [hk, sent_eq h]
    next => rfl
  rw [Job.added, Job.added, hsent]

/-- A sender that has sent a message has added its response time. -/
theorem added_add {p p' : Bool} (hi : i < j.senders) (h : senders[i]? = some ⟨n, p⟩) :
    j.added (senders.set i ⟨n + 1, p'⟩) = j.added senders + micros i n := by
  have hlt := (List.getElem?_eq_some_iff.1 h).1
  have hterm : ∀ k ∈ range j.senders,
      ∑ message ∈ range (sent (senders.set i ⟨n + 1, p'⟩) k), micros k message =
        ∑ message ∈ range (sent senders k), micros k message + if k = i then micros i n else 0 := by
    intro k _
    rw [sent_set hlt]
    by_cases hk : k = i
    · subst hk
      rw [if_pos rfl, if_pos rfl, sent_eq h, sum_range_succ]
    · rw [if_neg hk, if_neg hk, Int.add_zero]
  -- one term of the sum over the senders grows, by the next of its own terms
  rw [Job.added, sum_congr rfl hterm, sum_add_distrib, sum_ite_eq', if_pos (mem_range.2 hi)]
  rfl

theorem added_nil : j.added [] = 0 := by
  simp [Job.added, sent]

/-- All senders that have sent all their messages have added all response times. -/
theorem added_finished : j.added (List.replicate j.senders j.finished) = j.expected := by
  refine sum_congr rfl ?_
  intro k hk
  have hsent : sent (List.replicate j.senders j.finished) k = j.messages := by
    simp [sent, mem_range.1 hk, Job.finished]
  rw [hsent]

/-! ## What holds of a run at any time -/

/-- A run that began with a scene: its senders, its sum and its reports. -/
structure Sound (j : Job σ) (s : Scene σ) (r : Run σ) : Prop where
  count : r.senders.length ≤ j.senders
  within : ∀ x ∈ r.senders, x.next ≤ j.messages
  sum : r.sum.total.toInt = (j.added r.senders).bmod (2 ^ 64)
  named : r.phase = .naming → r.senders = [] ∧ r.scene = s
  scene : r.phase ≠ .naming → r.scene = j.told (reported · r.senders.length) s
  joined : ∀ k, r.phase = .joining k → r.senders.length = j.senders ∧ k ≤ j.senders ∧
    ∀ i < k, r.senders[i]? = some j.finished
  ended : ∀ total, r.phase = .ended total →
    r.senders = List.replicate j.senders j.finished ∧ total = r.sum.total

theorem Sound.start (j : Job σ) (s : Scene σ) : Sound j s { scene := s } where
  count := Nat.zero_le _
  within := nofun
  sum := by
    rw [added_nil]
    rfl
  named _ := ⟨rfl, rfl⟩
  scene := fun h => absurd rfl h
  joined := nofun
  ended := nofun

namespace Sound

variable {s : Scene σ} {r r' : Run σ}

/-- Once the generator is named, the scene shows the senders that were started. -/
theorem scene_of_phase (h : Sound j s r) {p : Phase} (hphase : r.phase = p) (hp : p ≠ .naming) :
    r.scene = j.told (reported · r.senders.length) s :=
  h.scene (hphase ▸ hp)

theorem lt_senders (h : Sound j s r) {x : Sender} (hx : r.senders[i]? = some x) : i < j.senders :=
  (List.getElem?_eq_some_iff.1 hx).1.trans_le h.count

/-- A sender that has more to do was not waited for, and the workload is not over. -/
theorem busy (h : Sound j s r) {x : Sender} (hx : r.senders[i]? = some x) (hne : x ≠ j.finished) :
    (∀ k, r.phase = .joining k → k ≤ i) ∧ ∀ total, r.phase ≠ .ended total := by
  constructor
  · intro k hk
    by_contra hlt
    rw [(h.joined k hk).2.2 i (Nat.lt_of_not_le hlt)] at hx
    exact hne (Option.some.inj hx).symm
  · intro total htotal
    have hi := h.lt_senders hx
    rw [(h.ended total htotal).1, List.getElem?_replicate, if_pos hi] at hx
    exact hne (Option.some.inj hx).symm

/-- What a sender does that is not done keeps all but the sum. -/
theorem set (h : Sound j s r) {x y : Sender} (hx : r.senders[i]? = some x) (hne : x ≠ j.finished)
    (hy : y.next ≤ j.messages) (sum : Accumulator)
    (hsum : sum.total.toInt = (j.added (r.senders.set i y)).bmod (2 ^ 64)) :
    Sound j s { r with senders := r.senders.set i y, sum := sum } where
  count := by
    rw [List.length_set]
    exact h.count
  within := by
    intro z hz
    rcases List.mem_or_eq_of_mem_set hz with hz | rfl
    · exact h.within z hz
    · exact hy
  sum := hsum
  named hphase := by
    rw [(h.named hphase).1] at hx
    cases hx
  scene hphase := by
    rw [List.length_set]
    exact h.scene hphase
  joined k hk := by
    obtain ⟨hlength, hle, hdone⟩ := h.joined k hk
    refine ⟨by rw [List.length_set, hlength], hle, ?_⟩
    intro i' hi'
    have hki := (h.busy hx hne).1 k hk
    rw [List.getElem?_set_ne (by omega)]
    exact hdone i' hi'
  ended total htotal := absurd htotal ((h.busy hx hne).2 total)

/-- Every step keeps what holds of a run. -/
theorem step (h : Sound j s r) (hstep : Step j r r') : Sound j s r' := by
  cases hstep with
  | name hphase =>
    obtain ⟨hnone, hscene⟩ := h.named hphase
    refine { h with named := nofun, scene := ?_, joined := nofun, ended := nofun }
    intro _
    have hzero : (reported · 0) = (Monitors.setGeneratorName · generator) :=
      funext reported_zero
    rw [hscene, hnone, List.length_nil, hzero]
  | start hphase hmore =>
    -- a new sender has sent nothing, so that the sum is still what was added
    have hscene := h.scene_of_phase hphase nofun
    refine
      { count := ?_
        within := ?_
        sum := ?_
        named := fun h' => nomatch hphase.symm.trans h'
        scene := ?_
        joined := fun _ h' => nomatch hphase.symm.trans h'
        ended := fun _ h' => nomatch hphase.symm.trans h' }
    · rw [List.length_append]
      exact hmore
    · intro x hx
      rcases List.mem_append.1 hx with hx | hx
      · exact h.within x hx
      · rw [List.mem_singleton.1 hx]
        exact Nat.zero_le _
    · rw [h.sum, Job.added, Job.added, sent_start]
    · intro _
      rw [hscene, Job.told_told, List.length_append]
      exact congrArg (j.told · s) (funext fun m => (reported_succ m _).symm)
  | started hphase hall =>
    have hscene := h.scene_of_phase hphase nofun
    refine { h with named := nofun, scene := fun _ => hscene, joined := ?_, ended := nofun }
    intro k hk
    cases hk
    exact ⟨hall, Nat.zero_le _, fun i hi => absurd hi (Nat.not_lt_zero i)⟩
  | join k hphase hdone =>
    have hscene := h.scene_of_phase hphase nofun
    obtain ⟨hlength, -, hjoined⟩ := h.joined k hphase
    refine { h with named := nofun, scene := fun _ => hscene, joined := ?_, ended := nofun }
    intro k' hk'
    cases hk'
    refine ⟨hlength, h.lt_senders hdone, ?_⟩
    intro i hi
    rcases Nat.lt_succ_iff_lt_or_eq.1 hi with hi | rfl
    · exact hjoined i hi
    · exact hdone
  | read hphase =>
    -- every sender was waited for, so that the sum that is read has all the response times
    have hscene := h.scene_of_phase hphase nofun
    obtain ⟨hlength, -, hjoined⟩ := h.joined _ hphase
    refine { h with named := nofun, scene := fun _ => hscene, joined := nofun, ended := ?_ }
    intro total htotal
    cases htotal
    refine ⟨?_, rfl⟩
    refine List.eq_replicate_iff.2 ⟨hlength, ?_⟩
    intro x hx
    obtain ⟨i, hi, rfl⟩ := List.getElem_of_mem hx
    have hdone := hjoined i (hlength ▸ hi)
    rw [List.getElem?_eq_getElem hi] at hdone
    exact Option.some.inj hdone
  | add i n hnext hmore =>
    -- the sum wraps around at 2^64, and so does what was added, one time at a time or all at once
    have hne : (⟨n, false⟩ : Sender) ≠ j.finished := by
      intro heq
      exact absurd (congrArg Sender.next heq) (Nat.ne_of_lt hmore)
    refine h.set (y := ⟨n + 1, _⟩) hnext hne hmore _ ?_
    rw [added_add (h.lt_senders hnext) hnext, ← Int.bmod_add_bmod, ← h.sum]
    exact Int64.toInt_add _ _
  | wake i n hasleep =>
    refine h.set hasleep (by simp [Job.finished]) ?_ r.sum ?_
    · exact h.within ⟨n, true⟩ (List.mem_of_getElem? hasleep)
    · rw [added_wake hasleep]
      exact h.sum

end Sound

/-! ## Every run ends -/

/-- What a sender has left to do: its messages, a pause behind each of them, and to wake up. -/
def Sender.left (messages : Nat) (x : Sender) : Nat :=
  2 * (messages - x.next) + x.pausing.toNat

/-- The steps that the workload itself has left, and those of senders that are not started. -/
def Phase.left (j : Job σ) (started : Nat) : Phase → Nat
  | .naming => j.senders * (2 * j.messages + 1) + j.senders + 3
  | .starting => (j.senders - started) * (2 * j.messages + 1) + j.senders + 2
  | .joining k => j.senders - k + 1
  | .ended _ => 0

/-- No run is longer than what it has left to do. -/
def Run.left (j : Job σ) (r : Run σ) : Nat :=
  r.phase.left j r.senders.length + (r.senders.map (Sender.left j.messages)).sum

theorem sum_set_lt {x y : Sender} {m : Nat} (h : senders[i]? = some x) (hlt : y.left m < x.left m) :
    ((senders.set i y).map (Sender.left m)).sum < (senders.map (Sender.left m)).sum := by
  obtain ⟨hi, rfl⟩ := List.getElem?_eq_some_iff.1 h
  have hsplit : senders = senders.take i ++ senders[i] :: senders.drop (i + 1) := by simp
  rw [List.set_eq_take_append_cons_drop, if_pos hi]
  conv_rhs => rw [hsplit]
  simp only [List.map_append, List.map_cons, List.sum_append, List.sum_cons]
  omega

/-- Every step leaves less to do. -/
theorem Step.left_lt {s : Scene σ} {r r' : Run σ} (h : Sound j s r) (hstep : Step j r r') :
    r'.left j < r.left j := by
  cases hstep with
  | name hphase =>
    simp [Run.left, hphase, (h.named hphase).1, Phase.left]
  | start hphase hmore =>
    -- what a new sender has to do was counted before it was started, and one step more for that
    have hone : j.senders - r.senders.length = (j.senders - (r.senders.length + 1)) + 1 := by omega
    simp only [Run.left, hphase, Phase.left, List.length_append, List.length_singleton,
      List.map_append, List.map_singleton, List.sum_append, List.sum_singleton, Sender.left]
    rw [hone, Nat.add_mul]
    simp
    omega
  | started hphase hall =>
    simp only [Run.left, hphase, Phase.left]
    omega
  | join k hphase hdone =>
    have hlt := h.lt_senders hdone
    simp only [Run.left, hphase, Phase.left]
    omega
  | read hphase =>
    simp only [Run.left, hphase, Phase.left]
    omega
  | add i n hnext hmore =>
    have hless := sum_set_lt (m := j.messages) (y := ⟨n + 1, n % pauseEvery == pauseEvery - 1⟩)
      hnext
      (by
        have := Bool.toNat_le (n % pauseEvery == pauseEvery - 1)
        simp only [Sender.left, Bool.toNat_false]
        omega)
    simp only [Run.left, List.length_set]
    omega
  | wake i n hasleep =>
    have hless := sum_set_lt (m := j.messages) (y := ⟨n, false⟩) hasleep (by simp [Sender.left])
    simp only [Run.left, List.length_set]
    omega

/-- A run that is not over goes on. -/
theorem Sound.goes_on {s : Scene σ} {r : Run σ} (h : Sound j s r)
    (hunder : ∀ total, r.phase ≠ .ended total) : ∃ r', Step j r r' := by
  cases hphase : r.phase with
  | naming => exact ⟨_, .name hphase⟩
  | starting =>
    rcases Nat.lt_or_eq_of_le h.count with hmore | hall
    · exact ⟨_, .start hphase hmore⟩
    · exact ⟨_, .started hphase hall⟩
  | ended total => exact absurd hphase (hunder total)
  | joining k =>
    obtain ⟨hlength, hle, -⟩ := h.joined k hphase
    rcases Nat.lt_or_eq_of_le hle with hlt | rfl
    · obtain ⟨⟨n, pausing⟩, hnext⟩ : ∃ x, r.senders[k]? = some x :=
        ⟨_, List.getElem?_eq_getElem (hlength ▸ hlt)⟩
      -- the sender that is waited for is done, or does something itself
      cases pausing with
      | true => exact ⟨_, .wake k n hnext⟩
      | false =>
        rcases Nat.lt_or_eq_of_le (h.within _ (List.mem_of_getElem? hnext)) with hmore | hdone
        · exact ⟨_, .add k n hnext hmore⟩
        · refine ⟨_, .join k hphase ?_⟩
          rw [hnext, Job.finished, ← hdone]
    · exact ⟨_, .read hphase⟩

/-! ## What every run comes to -/

namespace Steps

variable {s : Scene σ} {r r' : Run σ}

theorem sound (h : Steps j r n r') (hr : Sound j s r) : Sound j s r' := by
  induction h with
  | none => exact hr
  | one _ hstep ih => exact ih.step hstep

theorem left_le (h : Steps j r n r') (hr : Sound j s r) : n + r'.left j ≤ r.left j := by
  induction h with
  | none => exact Nat.le_of_eq (Nat.zero_add _)
  | one h hstep ih =>
    have hless := hstep.left_lt (h.sound hr)
    omega

/-- Every run can be gone on with until it is over. -/
theorem completed (h : Steps j r n r') (hr : Sound j s r) :
    ∃ n r' total, Steps j r n r' ∧ r'.phase = .ended total := by
  -- there is less left to do with every further step
  induction hleft : r'.left j using Nat.strong_induction_on generalizing n r' with
  | h left ih =>
    by_cases hended : ∃ total, r'.phase = .ended total
    · obtain ⟨total, htotal⟩ := hended
      exact ⟨n, r', total, h, htotal⟩
    · have hsound := h.sound hr
      obtain ⟨r'', hstep⟩ := hsound.goes_on (not_exists.1 hended)
      exact ih _ (hleft ▸ hstep.left_lt hsound) (h.one hstep) rfl

end Steps

/-- What a run from one scene to another has come to when it is over. -/
structure Delivered (j : Job σ) (s s' : Scene σ) (total : Int64) : Prop where
  /-- All response times are added, and the sum is reduced to 64 bits once. -/
  sum : total.toInt = j.expected.bmod (2 ^ 64)
  bounds : 149 * j.senders * j.messages < 2 ^ 63 →
    100 * j.senders * j.messages ≤ total.toInt ∧ total.toInt ≤ 149 * j.senders * j.messages
  /-- What is computed sender by sender is what every order of the steps comes to. -/
  computed : total = Workload.total j.senders j.messages ∧ s' = j.told (reported · j.senders) s
  /-- The agent of the handle shows the generator, and a task more for each sender. -/
  reported : ∀ a before, j.agents.agent? j.handle = some a →
    s.monitors[a.monitors]? = some before →
    ∃ after, s'.monitors[a.monitors]? = some after ∧ after.generatorName = generator ∧
      (before.senderTasks.toNat + j.senders < 2 ^ 64 →
        after.senderTasks.toNat = before.senderTasks.toNat + j.senders)
  others : ∀ a number, j.agents.agent? j.handle = some a → number ≠ a.monitors →
    s'.monitors[number]? = s.monitors[number]?
  /-- With an empty handle, nothing is changed. -/
  empty : j.agents.agent? j.handle = none → s' = s

theorem Job.told_of_none (h : j.agents.agent? j.handle = none) (f : Monitors → Monitors)
    (s : Scene σ) : j.told f s = s := by
  rw [told, Agents.report, h]
  rfl

theorem Job.told_monitors {a : Agent σ} (h : j.agents.agent? j.handle = some a)
    (f : Monitors → Monitors) (s : Scene σ) :
    (j.told f s).monitors = s.monitors.modify a.monitors f := by
  rw [told, Agents.report, h]
  rfl

theorem Sound.delivered {s : Scene σ} {r : Run σ} {total : Int64} (hr : Sound j s r)
    (hended : r.phase = .ended total) (h : 7 * j.senders + 13 * j.messages < 2 ^ 63) :
    Delivered j s r.scene total := by
  obtain ⟨hfinished, rfl⟩ := hr.ended total hended
  have hsum : r.sum.total.toInt = j.expected.bmod (2 ^ 64) := by
    rw [hr.sum, hfinished, added_finished]
  have hscene : r.scene = j.told (Workload.reported · j.senders) s := by
    rw [hr.scene_of_phase hended nofun, hfinished, List.length_replicate]
  refine ⟨hsum, ?_, ⟨Int64.toInt_inj.1 (hsum.trans (toInt_total j).symm), hscene⟩, ?_, ?_, ?_⟩
  · -- within the bounds there is nothing to reduce
    intro hfits
    obtain ⟨hleast, hmost⟩ := j.expected_bounds h
    have hfits' : (149 * j.senders * j.messages : Int) < 2 ^ 63 := by exact_mod_cast hfits
    have hnonneg : (0 : Int) ≤ 100 * j.senders * j.messages := by
      exact_mod_cast Nat.zero_le (100 * j.senders * j.messages)
    rw [hsum, Int.bmod_eq_of_le_mul_two (by push_cast; omega) (by push_cast; omega)]
    exact ⟨hleast, hmost⟩
  · intro a before ha hbefore
    refine ⟨Workload.reported before j.senders, ?_, rfl, toNat_reported⟩
    rw [hscene, Job.told_monitors ha, List.getElem?_modify, hbefore]
    simp
  · intro a number ha hne
    rw [hscene, Job.told_monitors ha, List.getElem?_modify]
    simp [Ne.symm hne]
  · intro hempty
    rw [hscene, Job.told_of_none hempty]

/-- Whatever the order in which the senders and the workload take their steps, a run ends, and it
ends with the sum of all response times and with one task more for each sender. -/
theorem load_delivered (j : Job σ) (s : Scene σ)
    (h : 7 * j.senders + 13 * j.messages < 2 ^ 63) :
    (∀ sender < j.senders, ∀ message < j.messages,
      100 ≤ micros sender message ∧ micros sender message ≤ 149) ∧
    (∀ n r, Steps j { scene := s } n r →
      n ≤ 2 * j.senders * j.messages + 2 * j.senders + 3 ∧
        ((∃ r', Step j r r') ∨ ∃ total, r.phase = .ended total)) ∧
    (∃ n r total, Steps j { scene := s } n r ∧ r.phase = .ended total) ∧
    ∀ n r total, Steps j { scene := s } n r → r.phase = .ended total →
      Delivered j s r.scene total := by
  have hstart := Sound.start j s
  refine ⟨?_, ?_, Steps.none.completed hstart, ?_⟩
  · intro sender hsender message hmessage
    exact micros_bounds (by omega)
  · intro n r hsteps
    refine ⟨?_, ?_⟩
    · have hleft := hsteps.left_le hstart
      have hall : Run.left j { scene := s } =
          2 * j.senders * j.messages + 2 * j.senders + 3 := by
        simp only [Run.left, Phase.left, List.map_nil, List.sum_nil]
        ring
      omega
    · by_cases hended : ∃ total, r.phase = .ended total
      · exact .inr hended
      · exact .inl ((hsteps.sound hstart).goes_on (not_exists.1 hended))
  · intro n r total hsteps hended
    exact (hsteps.sound hstart).delivered hended h

/-- The demonstration, reporting to the second of two agents, which has counted five tasks. -/
theorem load_delivered_demonstration :
    let agents : Agents Unit := ⟨[{ monitors := 0 }, { monitors := 1 }], ⟨[("h", some 1)]⟩⟩
    let j : Job Unit := ⟨agents, "h", Workload.senders, messagesPerSender⟩
    let s : Scene Unit := { state := (), monitors := [⟨"StressGen", 2⟩, ⟨"LoadGen", 5⟩] }
    7 * j.senders + 13 * j.messages < 2 ^ 63 ∧
      ∃ n r total, Steps j { scene := s } n r ∧ r.phase = .ended total ∧
        400000 ≤ total.toInt ∧ total.toInt ≤ 596000 ∧
        ∃ after, r.scene.monitors[1]? = some after ∧
          after.generatorName = "ConstantSpeedGenerator" ∧ after.senderTasks.toNat = 13 := by
  intro agents j s
  have h : 7 * j.senders + 13 * j.messages < 2 ^ 63 := by decide
  obtain ⟨-, -, ⟨n, r, total, hsteps, hended⟩, hall⟩ := load_delivered j s h
  have hdelivered := hall n r total hsteps hended
  obtain ⟨hleast, hmost⟩ : (100 * (8 : Nat) * (500 : Nat) : Int) ≤ total.toInt ∧
      total.toInt ≤ (149 * (8 : Nat) * (500 : Nat) : Int) := hdelivered.bounds (by decide)
  obtain ⟨after, hafter, hname, htasks⟩ :=
    hdelivered.reported { monitors := 1 } ⟨"LoadGen", 5⟩ rfl rfl
  exact ⟨h, n, r, total, hsteps, hended, by omega, by omega, after, hafter, hname,
    htasks (by decide)⟩

end SelfTrace.Workload
