import Mathlib.Data.List.TakeWhile
import SelfTrace.Proofs.Watched
import SelfTrace.Tool.Launch

/-!
# Tools that are watched and taken down

A new tool is looked at until the clock reaches a deadline, and a tool that was started is taken
down in the end. Every call on the operating system about a tool is noted with its answer, so that
what becomes of the tool can be read off the calls.

* `Watch` — the courses that watching a tool can take, one reading of the clock after the other;
* `Watch.settled` — how long a tool is watched, and what the watching comes to;
* `TakenDown` — the two ways of taking a tool down;
* `tool_reaped` — no tool that was started is left running or uncollected.

Nothing is asked of the order of the clock's readings, and nothing of the answers.
-/

namespace SelfTrace

variable {σ : Type}

/-! ## Calls -/

/-- What a look at a tool answers. -/
abbrev PollAnswer := Except Failure (Option ExitStatus)

/-- A call on the operating system about a tool, with its answer. -/
inductive ToolCall where
  /-- The process number of a tool that was started. -/
  | started (answer : Except Failure Nat)
  | polled (answer : PollAnswer)
  | slept (time : Duration)
  | killed (answer : Except Failure Unit)
  | waited (answer : Except Failure ExitStatus)
deriving DecidableEq

namespace ToolCall

/-- What a look answered. -/
def answer? : ToolCall → Option PollAnswer
  | .polled answer => some answer
  | _ => none

/-- How long was slept. -/
def nap? : ToolCall → Option Duration
  | .slept time => some time
  | _ => none

/-- The call neither kills the tool nor waits for it. -/
def sparesTool : ToolCall → Bool
  | .killed _ => false
  | .waited _ => false
  | _ => true

end ToolCall

/-- What the looks among some calls answered, in order. -/
def pollAnswers (calls : List ToolCall) : List PollAnswer := calls.filterMap ToolCall.answer?

/-- How long was slept each time. -/
def naps (calls : List ToolCall) : List Duration := calls.filterMap ToolCall.nap?

/-- A child whose calls are noted. -/
def Child.watched (c : Child σ) : Child (Watched ToolCall σ) where
  poll := c.poll.watching .polled
  kill := c.kill.watching .killed
  wait := c.wait.watching .waited
  sleep time := (c.sleep time).watching fun _ => .slept time

/-- A session with the calls on its tool noted. -/
def Session.watched (s : Session σ) : Session (Watched ToolCall σ) :=
  ⟨s.run, s.agent, s.agentPid, s.traced, s.child.watched⟩

/-- An operating system whose calls about tools are noted. -/
def Starter.watched (os : Starter σ) : Starter (Watched ToolCall σ) where
  start c := do
    match ← (os.start c).watching fun r => .started (r.map (·.1)) with
    | .error e => return .error e
    | .ok (agentPid, child) => return .ok (agentPid, child.watched)
  clock := os.clock.on Watched.part

/-- A tool that was seen to have ended is seen so by a further look. -/
def Child.StaysEnded (c : Child σ) : Prop :=
  ∀ t status, (c.poll.runOn t).1 = .ok (some status) →
    ∃ status', (c.poll.runOn (c.poll.runOn t).2).1 = .ok (some status')

/-- Tools that have ended stay so. -/
def Starter.KeepsEnds (os : Starter σ) : Prop :=
  ∀ c t agentPid child, ((os.start c).runOn t).1 = .ok (agentPid, child) → child.StaysEnded

/-! ## Looking -/

namespace Session

/-- What is wrong with a new tool after a look at it. -/
def fault? (s : Session σ) : PollAnswer → Option DriverError
  | .ok (some status) => some (.exited status.text)
  | .error e => some (.spawn s.agent e)
  | .ok none => none

/-- What watching a tool comes to when its last look gave this answer. -/
def verdict (s : Session σ) (answer : PollAnswer) : Except DriverError Unit :=
  match s.fault? answer with
  | some e => .error e
  | none => .ok ()

/-- The time to sleep at a reading of the clock. -/
def nap (deadline now : Nat) : Duration := ⟨min pollInterval.nanos (deadline - now)⟩

theorem fault?_eq_none_iff (s : Session σ) (answer : PollAnswer) :
    s.fault? answer = none ↔ answer = .ok none := by
  rcases answer with e | _ | status <;> simp [fault?]

theorem look_mirrors (s : Session σ) (t : Scene σ) :
    s.watched.look.Mirrors s.look t fun x y calls t' => x = y ∧
      ∃ answer, s.child.poll.runOn t = (answer, t') ∧ calls = [.polled answer] ∧
        y = s.fault? answer := by
  refine (Act.Mirrors.watching _ s.child.poll t).bind ?_
  rintro answer _ _ t' hrun ⟨rfl, rfl⟩
  rcases answer with e | _ | status <;> exact .pure ⟨rfl, _, hrun, rfl, rfl⟩

end Session

/-! ## Watching -/

/-- The courses of watching a tool: the readings of the clock that there are, the calls, and the
outcome. -/
inductive Watch (s : Session σ) (deadline : Nat) :
    List Nat → List ToolCall → Except DriverError Unit → Prop
  | stopped {answer : PollAnswer} {e : DriverError} (readings : List Nat)
      (hfault : s.fault? answer = some e) :
      Watch s deadline readings [.polled answer] (.error e)
  | unread : Watch s deadline [] [.polled (.ok none)] (.ok ())
  | reached {now : Nat} (later : List Nat) (hnow : deadline ≤ now) :
      Watch s deadline (now :: later) [.polled (.ok none)] (.ok ())
  | onward {now : Nat} {later : List Nat} {calls : List ToolCall}
      {outcome : Except DriverError Unit} (hnow : now < deadline)
      (hrest : Watch s deadline later calls outcome) :
      Watch s deadline (now :: later)
        (.polled (.ok none) :: .slept (Session.nap deadline now) :: calls) outcome

/-- The scene is that after a look at the tool, which answered so. -/
def Session.LookedAt (s : Session σ) (answer : PollAnswer) (t : Scene σ) : Prop :=
  ∃ before, s.child.poll.runOn before = (answer, t)

/-- A tool is watched on one of these courses. If it was seen to have ended, then by the last call
that was made. -/
theorem Session.settle_mirrors (s : Session σ) (deadline : Nat) (readings : List Nat)
    (t : Scene σ) :
    (s.watched.settle deadline readings).Mirrors (s.settle deadline readings) t
      fun x y calls t' => x = y ∧ Watch s deadline readings calls y ∧
        ∀ status, .polled (.ok (some status)) ∈ calls → s.LookedAt (.ok (some status)) t' := by
  induction readings generalizing t with
  | nil =>
    refine (s.look_mirrors t).bind ?_
    rintro _ fault _ t' - ⟨rfl, answer, hrun, rfl, rfl⟩
    cases hfault : s.fault? answer with
    | some e =>
      refine .pure ⟨rfl, .stopped [] hfault, fun status hmem => ?_⟩
      obtain rfl : answer = .ok (some status) := by simpa [eq_comm] using hmem
      exact ⟨t, hrun⟩
    | none =>
      obtain rfl := (s.fault?_eq_none_iff answer).1 hfault
      exact .pure ⟨rfl, .unread, by simp⟩
  | cons now later ih =>
    refine (s.look_mirrors t).bind ?_
    rintro _ fault _ t' - ⟨rfl, answer, hrun, rfl, rfl⟩
    cases hfault : s.fault? answer with
    | some e =>
      refine .pure ⟨rfl, .stopped _ hfault, fun status hmem => ?_⟩
      obtain rfl : answer = .ok (some status) := by simpa [eq_comm] using hmem
      exact ⟨t, hrun⟩
    | none =>
      obtain rfl := (s.fault?_eq_none_iff answer).1 hfault
      -- a reading that reaches the deadline is the last one that is used
      by_cases hnow : deadline ≤ now
      · dsimp only
        rw [if_pos hnow, if_pos hnow]
        exact .pure ⟨rfl, .reached later hnow, by simp⟩
      · dsimp only
        rw [if_neg hnow, if_neg hnow]
        refine (Act.Mirrors.watching _ (s.child.sleep _) t').bind ?_
        rintro _ _ _ t'' - ⟨-, rfl⟩
        refine (ih t'').mono ?_
        rintro x y calls after ⟨rfl, hwatch, hlooked⟩
        refine ⟨rfl, .onward (Nat.lt_of_not_le hnow) hwatch, fun status hmem => ?_⟩
        exact hlooked status (by simpa using hmem)

/-! ### What a course comes to -/

/-- The calls of looking in vain and sleeping at some readings of the clock. -/
def idleCalls (deadline : Nat) (readings : List Nat) : List ToolCall :=
  readings.flatMap fun now => [.polled (.ok none), .slept (Session.nap deadline now)]

theorem pollAnswers_idleCalls (deadline : Nat) (readings : List Nat) :
    pollAnswers (idleCalls deadline readings) = List.replicate readings.length (.ok none) := by
  induction readings with
  | nil => rfl
  | cons now readings ih => exact congrArg (.ok none :: ·) ih

theorem naps_idleCalls (deadline : Nat) (readings : List Nat) :
    naps (idleCalls deadline readings) = readings.map (Session.nap deadline) := by
  induction readings with
  | nil => rfl
  | cons now readings ih => exact congrArg (Session.nap deadline now :: ·) ih

theorem sparesTool_idleCalls (deadline : Nat) (readings : List Nat) :
    ∀ c ∈ idleCalls deadline readings, c.sparesTool = true := by
  intro c hc
  obtain ⟨now, -, hc⟩ := List.mem_flatMap.1 hc
  rcases List.mem_cons.1 hc with rfl | hc
  · rfl
  · rw [List.mem_singleton.1 hc]
    rfl

/-- The readings of the clock before the first that reaches the deadline. -/
def readingsBefore (deadline : Nat) (readings : List Nat) : List Nat :=
  readings.takeWhile (· < deadline)

/-- A tool is looked at in vain at some of the readings before the deadline; then a last look
decides. It is the one behind all of them unless it finds that something is wrong. -/
theorem Watch.rounds {s : Session σ} {deadline : Nat} {readings : List Nat}
    {calls : List ToolCall} {outcome : Except DriverError Unit}
    (h : Watch s deadline readings calls outcome) (hreached : ∃ now ∈ readings, deadline ≤ now) :
    ∃ seen answer, seen <+: readingsBefore deadline readings ∧
      calls = idleCalls deadline seen ++ [.polled answer] ∧ outcome = s.verdict answer ∧
      (answer = .ok none → seen = readingsBefore deadline readings) := by
  -- on the course; a round that goes on adds its reading in front of those looked at in vain
  induction h with
  | stopped readings hfault =>
    refine ⟨[], _, List.nil_prefix, rfl, ?_, ?_⟩
    · rw [Session.verdict, hfault]
    · rintro rfl
      cases hfault
  | unread =>
    -- the readings never run out before one reaches the deadline
    simp at hreached
  | reached later hnow =>
    refine ⟨[], .ok none, List.nil_prefix, rfl, rfl, fun _ => ?_⟩
    simp [readingsBefore, hnow]
  | @onward now later calls outcome hnow hrest ih =>
    have hlater : ∃ now ∈ later, deadline ≤ now := by
      obtain ⟨r, hr, hle⟩ := hreached
      rcases List.mem_cons.1 hr with rfl | hr
      · exact absurd hle (Nat.not_le.2 hnow)
      · exact ⟨r, hr, hle⟩
    have hbefore : readingsBefore deadline (now :: later) =
        now :: readingsBefore deadline later := by simp [readingsBefore, hnow]
    obtain ⟨seen, answer, hseen, rfl, houtcome, hall⟩ := ih hlater
    rw [hbefore]
    refine ⟨now :: seen, answer, (List.prefix_cons_inj now).2 hseen, rfl, houtcome, ?_⟩
    intro hnone
    rw [hall hnone]

/-- What watching a tool comes to, with readings of the clock that reach the deadline. -/
structure Settled (s : Session σ) (deadline : Nat) (readings : List Nat) (calls : List ToolCall)
    (outcome : Except DriverError Unit) : Prop where
  /-- The tool is looked at, and no more often than the clock is read up to the deadline. -/
  looks : 1 ≤ (pollAnswers calls).length ∧
    (pollAnswers calls).length ≤ (readingsBefore deadline readings).length + 1
  /-- Watching goes on for as long as nothing is found, up to the deadline. -/
  goesOn : ∀ answer ∈ (pollAnswers calls).dropLast, answer = .ok none
  exited : ∀ text, outcome = .error (.exited text) ↔
    ∃ status, .ok (some status) ∈ pollAnswers calls ∧ status.text = text
  failed : ∀ agent e, outcome = .error (.spawn agent e) ↔
    agent = s.agent ∧ .error e ∈ pollAnswers calls
  settled : outcome = .ok () ↔ pollAnswers calls =
    List.replicate ((readingsBefore deadline readings).length + 1) (.ok none)
  ends : (∃ text, outcome = .error (.exited text)) ∨ (∃ e, outcome = .error (.spawn s.agent e)) ∨
    outcome = .ok ()
  /-- Between two looks is a sleep, which does not reach beyond the deadline. -/
  naps : naps calls =
    ((readingsBefore deadline readings).take ((pollAnswers calls).length - 1)).map
      (Session.nap deadline)
  inTime : ∀ now ∈ readingsBefore deadline readings,
    now + (Session.nap deadline now).nanos ≤ deadline
  spares : ∀ c ∈ calls, c.sparesTool = true

theorem Watch.settled {s : Session σ} {deadline : Nat} {readings : List Nat}
    {calls : List ToolCall} {outcome : Except DriverError Unit}
    (h : Watch s deadline readings calls outcome) (hreached : ∃ now ∈ readings, deadline ≤ now) :
    Settled s deadline readings calls outcome := by
  obtain ⟨seen, answer, hseen, rfl, rfl, hall⟩ := h.rounds hreached
  have hanswers : pollAnswers (idleCalls deadline seen ++ [.polled answer]) =
      List.replicate seen.length (.ok none) ++ [answer] := by
    rw [pollAnswers, List.filterMap_append]
    exact congrArg (· ++ [answer]) (pollAnswers_idleCalls deadline seen)
  -- an answer that is not in vain can only be the last
  have hmem : ∀ a, a ≠ .ok none →
      (a ∈ pollAnswers (idleCalls deadline seen ++ [.polled answer]) ↔ answer = a) := by
    intro a ha
    rw [hanswers, List.mem_append, List.mem_singleton]
    constructor
    · rintro (hidle | rfl)
      · exact absurd (List.eq_of_mem_replicate hidle) ha
      · rfl
    · exact fun heq => .inr heq.symm
  refine ⟨?_, ?_, ?_, ?_, ?_, ?_, ?_, ?_, ?_⟩
  · rw [hanswers, List.length_append, List.length_replicate, List.length_singleton]
    have hlength := hseen.length_le
    omega
  · rw [hanswers, List.dropLast_concat]
    exact fun a ha => List.eq_of_mem_replicate ha
  · intro text
    constructor
    · intro hexited
      rcases answer with e | _ | status
      · cases hexited
      · cases hexited
      · cases hexited
        exact ⟨status, (hmem _ (by simp)).2 rfl, rfl⟩
    · rintro ⟨status, hstatus, rfl⟩
      rw [(hmem _ (by simp)).1 hstatus]
      rfl
  · intro agent e
    rw [hmem _ (by simp)]
    rcases answer with e' | _ | status
    · simp [Session.verdict, Session.fault?, eq_comm]
    · simp [Session.verdict, Session.fault?]
    · simp [Session.verdict, Session.fault?]
  · rw [hanswers]
    constructor
    · intro hok
      rcases answer with e | _ | status
      · cases hok
      · rw [hall rfl, List.replicate_succ']
      · cases hok
    · intro hall'
      have hlast := congrArg List.getLast? hall'
      rw [List.getLast?_concat, List.replicate_succ', List.getLast?_concat] at hlast
      rw [Option.some.inj hlast]
      rfl
  · rcases answer with e | _ | status
    · exact .inr (.inl ⟨e, rfl⟩)
    · exact .inr (.inr rfl)
    · exact .inl ⟨status.text, rfl⟩
  · have hnaps : naps (idleCalls deadline seen ++ [.polled answer]) =
        seen.map (Session.nap deadline) := by
      rw [naps, List.filterMap_append]
      exact (List.append_nil _).trans (naps_idleCalls deadline seen)
    rw [hnaps, hanswers, List.length_append, List.length_replicate, List.length_singleton,
      Nat.add_sub_cancel, ← List.prefix_iff_eq_take.1 hseen]
  · intro now hmem
    have hnow : now < deadline := by simpa using List.mem_takeWhile_imp hmem
    have hnap : (Session.nap deadline now).nanos ≤ deadline - now := Nat.min_le_right _ _
    omega
  · intro c hc
    rcases List.mem_append.1 hc with hc | hc
    · exact sparesTool_idleCalls deadline seen c hc
    · rw [List.mem_singleton.1 hc]
      rfl

/-! ## Taking down -/

/-- The ways of taking a tool down, by what the first look at it answers. -/
inductive TakenDown : PollAnswer → List ToolCall → Prop
  | ended (status : ExitStatus) :
      TakenDown (.ok (some status)) [.polled (.ok (some status))]
  | killed {answer : PollAnswer} (hanswer : ∀ status, answer ≠ .ok (some status))
      (kill : Except Failure Unit) (wait : Except Failure ExitStatus) :
      TakenDown answer [.polled answer, .killed kill, .waited wait]

theorem Session.collect_mirrors (s : Session σ) (t : Scene σ) :
    s.watched.collect.Mirrors s.collect t fun _ _ calls _ => ∃ wait, calls = [.waited wait] := by
  refine (Act.Mirrors.watching _ s.child.wait t).bind ?_
  rintro wait _ _ t' - ⟨rfl, rfl⟩
  cases wait with
  | ok status =>
    refine (Act.Mirrors.emit _ t').mono ?_
    rintro _ _ _ _ ⟨-, rfl⟩
    exact ⟨_, rfl⟩
  | error e =>
    refine (Act.Mirrors.emit _ t').mono ?_
    rintro _ _ _ _ ⟨-, rfl⟩
    exact ⟨_, rfl⟩

/-- A tool is waited for whether or not it could be killed. -/
theorem Session.finish_mirrors (s : Session σ) (t : Scene σ) :
    s.watched.finish.Mirrors s.finish t fun _ _ calls _ =>
      ∃ kill wait, calls = [.killed kill, .waited wait] := by
  refine (Act.Mirrors.watching _ s.child.kill t).bind ?_
  rintro kill _ _ t' - ⟨rfl, rfl⟩
  cases kill with
  | ok _ =>
    refine (s.collect_mirrors t').mono ?_
    rintro _ _ _ _ ⟨wait, rfl⟩
    exact ⟨_, wait, rfl⟩
  | error e =>
    refine (Act.Mirrors.emit _ t').bind ?_
    rintro _ _ _ t'' - ⟨-, rfl⟩
    refine (s.collect_mirrors t'').mono ?_
    rintro _ _ _ _ ⟨wait, rfl⟩
    exact ⟨_, wait, rfl⟩

theorem Session.close_mirrors (s : Session σ) (t : Scene σ) :
    s.watched.close.Mirrors s.close t fun _ _ calls _ =>
      TakenDown (s.child.poll.runOn t).1 calls := by
  refine (Act.Mirrors.watching _ s.child.poll t).bind ?_
  rintro answer _ _ t' hrun ⟨rfl, rfl⟩
  rw [hrun]
  have hfinish : (∀ status, answer ≠ .ok (some status)) →
      s.watched.finish.Mirrors s.finish t' fun _ _ calls _ =>
        TakenDown answer ([.polled answer] ++ calls) := by
    intro hanswer
    refine (s.finish_mirrors t').mono ?_
    rintro _ _ _ _ ⟨kill, wait, rfl⟩
    exact .killed hanswer kill wait
  rcases answer with e | _ | status
  · exact hfinish (by simp)
  · exact hfinish (by simp)
  · refine (Act.Mirrors.emit _ t').mono ?_
    rintro _ _ _ _ ⟨-, rfl⟩
    exact .ended status

/-! ## Attaching -/

/-- A tool that is watched is neither killed nor waited for. -/
theorem Watch.spares {s : Session σ} {deadline : Nat} {readings : List Nat} {calls : List ToolCall}
    {outcome : Except DriverError Unit} (h : Watch s deadline readings calls outcome) :
    ∀ c ∈ calls, c.sparesTool = true := by
  induction h with
  | stopped _ _ => simp [ToolCall.sparesTool]
  | unread => simp [ToolCall.sparesTool]
  | reached _ _ => simp [ToolCall.sparesTool]
  | onward _ _ ih => simpa [ToolCall.sparesTool] using ih

theorem Watch.spares_started {s : Session σ} {deadline : Nat} {readings : List Nat}
    {calls : List ToolCall} {outcome : Except DriverError Unit}
    (h : Watch s deadline readings calls outcome) (number : Nat) :
    ∀ c ∈ .started (.ok number) :: calls, c.sparesTool = true :=
  List.forall_mem_cons.2 ⟨rfl, h.spares⟩

/-- A tool that has settled was not seen to have ended. -/
theorem Watch.unended {s : Session σ} {deadline : Nat} {readings : List Nat}
    {calls : List ToolCall} (h : Watch s deadline readings calls (.ok ())) :
    ∀ status, .polled (.ok (some status)) ∉ calls := by
  generalize houtcome : Except.ok () = outcome at h
  induction h with
  | stopped _ _ => cases houtcome
  | unread => simp
  | reached _ _ => simp
  | onward _ _ ih => simpa using ih houtcome

/-- A tool is watched for a time from its start on; without a clock it is looked at once. -/
theorem Launcher.watch_mirrors (os : Starter σ) (s : Session σ) (time : Duration) (t : Scene σ) :
    (Launcher.watch os.watched s.watched time).Mirrors (Launcher.watch os s time) t
      fun x y calls t' => x = y ∧
        (match (os.clock.runOn t).1 with
          | [] => Watch s 0 [] calls y
          | start :: readings => Watch s (start + time.nanos) readings calls y) ∧
        ∀ status, .polled (.ok (some status)) ∈ calls → s.LookedAt (.ok (some status)) t' := by
  refine (Act.Mirrors.on_part os.clock t).bind ?_
  rintro clock _ _ t' hclock ⟨rfl, rfl⟩
  rw [hclock]
  cases clock with
  | nil => exact s.settle_mirrors 0 [] t'
  | cons start readings => exact s.settle_mirrors (start + time.nanos) readings t'

/-- How the calls of an attach can go, by its outcome. -/
inductive Attach (os : Starter σ) :
    List ToolCall → Except DriverError (Session σ) → Prop
  | unstarted {calls : List ToolCall} (e : DriverError)
      (hcalls : ∀ number, .started (.ok number) ∉ calls) : Attach os calls (.error e)
  | unsettled {s : Session σ} {deadline number : Nat} {readings : List Nat}
      {watched closed : List ToolCall} {e : DriverError} {answer : PollAnswer}
      (hwatch : Watch s deadline readings watched (.error e)) (hclose : TakenDown answer closed)
      (hended : os.KeepsEnds → ∀ status, .polled (.ok (some status)) ∈ watched →
        ∃ status', answer = .ok (some status')) :
      Attach os (.started (.ok number) :: watched ++ closed) (.error e)
  | attached {s : Session σ} {deadline number : Nat} {readings : List Nat}
      {watched : List ToolCall} (hwatch : Watch s deadline readings watched (.ok ())) :
      Attach os (.started (.ok number) :: watched) (.ok s)

theorem Starter.start_mirrors (os : Starter σ) (c : Command) (t : Scene σ) :
    (os.watched.start c).Mirrors (os.start c) t fun x y calls _ =>
      x = y.map (fun r => (r.1, r.2.watched)) ∧ calls = [.started (y.map (·.1))] := by
  show Act.Mirrors _ (os.start c >>= pure) t _
  refine (Act.Mirrors.watching _ (os.start c) t).bind ?_
  rintro answer _ _ t' - ⟨rfl, rfl⟩
  cases answer with
  | error e => exact .pure ⟨rfl, rfl⟩
  | ok r => exact .pure ⟨rfl, rfl⟩

theorem Launcher.attach_mirrors (l : Launcher) (os : Starter σ) (pid : ProcessId) (agent : Path)
    (options : AgentOptions) (t : Scene σ) :
    (l.attach os.watched pid agent options).Mirrors (l.attach os pid agent options) t
      fun x y calls _ => x = y.map Session.watched ∧ Attach os calls y := by
  unfold Launcher.attach
  cases l.command pid agent options with
  | error e => exact .pure ⟨rfl, .unstarted _ (by simp)⟩
  | ok c =>
    refine (Act.Mirrors.emit _ t).bind ?_
    rintro _ _ _ t₁ - ⟨-, rfl⟩
    refine (os.start_mirrors c t₁).bind ?_
    rintro _ answer _ t₂ hstart ⟨rfl, rfl⟩
    cases answer with
    | error e => exact .pure ⟨rfl, .unstarted _ (by simp [Except.map])⟩
    | ok r =>
      obtain ⟨number, child⟩ := r
      refine (watch_mirrors os ⟨c.run, agent, number, pid.text, child⟩ c.settle t₂).bind ?_
      rintro outcome _ watched t₃ - ⟨rfl, hwatch, hlooked⟩
      obtain ⟨deadline, readings, hwatch⟩ : ∃ deadline readings,
          Watch ⟨c.run, agent, number, pid.text, child⟩ deadline readings watched outcome := by
        split at hwatch
        · exact ⟨_, _, hwatch⟩
        · exact ⟨_, _, hwatch⟩
      cases outcome with
      | ok _ =>
        refine (Act.Mirrors.emit _ t₃).bind ?_
        rintro _ _ _ _ - ⟨-, rfl⟩
        refine .pure ⟨rfl, ?_⟩
        rw [List.append_nil, List.append_nil]
        exact .attached hwatch
      | error e =>
        refine (Session.close_mirrors ⟨c.run, agent, number, pid.text, child⟩ t₃).bind ?_
        rintro _ _ closed _ - hclose
        refine .pure ⟨rfl, ?_⟩
        rw [List.append_nil]
        show Attach os (.started (.ok number) :: watched ++ closed) _
        refine .unsettled hwatch hclose fun hkeeps status hmem => ?_
        -- the tool is looked at again right behind the look that found it ended
        obtain ⟨before, hbefore⟩ := hlooked status hmem
        have hagain := hkeeps c t₁ number child (by rw [hstart]) before status (by rw [hbefore])
        rwa [hbefore] at hagain

/-! ## What becomes of a tool -/

/-- What the calls on a tool that was started come to, once it is taken down. -/
structure Reaped (calls : List ToolCall) : Prop where
  /-- It was seen to have ended and was left alone, or it was killed and waited for, each once. -/
  ends : ∃ front, (∀ c ∈ front, c.sparesTool = true) ∧
    ((∃ status, calls = front ++ [.polled (.ok (some status))]) ∨
      ∃ kill wait, calls = front ++ [.killed kill, .waited wait])
  /-- Its status was collected, unless waiting for it failed. -/
  collected : (∃ status, .polled (.ok (some status)) ∈ calls ∨ .waited (.ok status) ∈ calls) ∨
    ∃ e, .waited (.error e) ∈ calls

/-- A tool that was seen to have ended is not killed. -/
def SparesEnded (calls : List ToolCall) : Prop :=
  (∃ status, .polled (.ok (some status)) ∈ calls) → ∀ kill, .killed kill ∉ calls

theorem TakenDown.reaped {answer : PollAnswer} {closed front : List ToolCall}
    (h : TakenDown answer closed) (hfront : ∀ c ∈ front, c.sparesTool = true) :
    Reaped (front ++ closed) := by
  cases h with
  | ended status =>
    refine ⟨⟨front, hfront, .inl ⟨status, rfl⟩⟩, .inl ⟨status, .inl ?_⟩⟩
    exact List.mem_append_right front List.mem_cons_self
  | killed hanswer kill wait =>
    refine ⟨⟨front ++ [.polled answer], ?_, .inr ⟨kill, wait, by simp⟩⟩, ?_⟩
    · intro c hc
      rcases List.mem_append.1 hc with hc | hc
      · exact hfront c hc
      · rw [List.mem_singleton.1 hc]
        rfl
    · cases wait with
      | ok status => exact .inl ⟨status, .inr (by simp)⟩
      | error e => exact .inr ⟨e, by simp⟩

/-- A tool is spared if the look that begins to take it down finds it ended whenever it was seen to
have ended before. -/
theorem TakenDown.sparesEnded {answer : PollAnswer} {closed front : List ToolCall}
    (h : TakenDown answer closed) (hfront : ∀ c ∈ front, c.sparesTool = true)
    (hended : ∀ status, .polled (.ok (some status)) ∈ front →
      ∃ status', answer = .ok (some status')) :
    SparesEnded (front ++ closed) := by
  have hunkilled : ∀ kill, .killed kill ∉ front := fun kill hmem => by cases hfront _ hmem
  cases h with
  | ended status =>
    rintro - kill hmem
    rcases List.mem_append.1 hmem with hmem | hmem
    · exact hunkilled kill hmem
    · cases List.mem_singleton.1 hmem
  | killed hanswer kill wait =>
    rintro ⟨status, hmem⟩
    exfalso
    rcases List.mem_append.1 hmem with hmem | hmem
    · obtain ⟨status', hstatus'⟩ := hended status hmem
      exact hanswer status' hstatus'
    · obtain rfl : answer = .ok (some status) := by simpa [eq_comm] using hmem
      exact hanswer status rfl

theorem Attach.reaped {os : Starter σ} {calls : List ToolCall} {e : DriverError} {number : Nat}
    (h : Attach os calls (.error e)) (hstarted : .started (.ok number) ∈ calls) :
    Reaped calls ∧ (os.KeepsEnds → SparesEnded calls) := by
  cases h with
  | unstarted _ hcalls => exact absurd hstarted (hcalls number)
  | unsettled hwatch hclose hended =>
    refine ⟨hclose.reaped (hwatch.spares_started _), fun hkeeps => ?_⟩
    refine hclose.sparesEnded (hwatch.spares_started _) fun status hmem => ?_
    exact hended hkeeps status (by simpa using hmem)

theorem Attach.reaped_later {os : Starter σ} {calls closed : List ToolCall} {s : Session σ}
    {answer : PollAnswer} (h : Attach os calls (.ok s)) (hclose : TakenDown answer closed) :
    Reaped (calls ++ closed) ∧ SparesEnded (calls ++ closed) := by
  cases h with
  | attached hwatch =>
    refine ⟨hclose.reaped (hwatch.spares_started _), ?_⟩
    refine hclose.sparesEnded (hwatch.spares_started _) fun status hmem => ?_
    exact absurd (by simpa using hmem) (hwatch.unended status)

/-- A new tool is looked at until a look finds something wrong, or else up to the first reading of
the clock that reaches the deadline; that look decides about the outcome. A tool that was started is
taken down if it does not settle, and when its session is closed, at any time: it was seen to have
ended, or it is killed and waited for, each once. Watching the calls makes no difference.

A tool that was seen to have ended is not killed. If it did not settle this needs that tools that
have ended stay so, as the operating system promises. -/
theorem tool_reaped (l : Launcher) (os : Starter σ) (pid : ProcessId) (agent : Path)
    (options : AgentOptions) (t : Scene σ) :
    (∀ (s : Session σ) (time : Duration) (start : Nat) (readings : List Nat),
      (os.clock.runOn t).1 = start :: readings →
      (∃ now ∈ readings, start + time.nanos ≤ now) →
      (Launcher.watch os.watched s.watched time).Mirrors (Launcher.watch os s time) t
        fun x y calls _ => x = y ∧ Settled s (start + time.nanos) readings calls y) ∧
    (l.attach os.watched pid agent options).Mirrors (l.attach os pid agent options) t
      fun x y calls _ => x = y.map Session.watched ∧
        (∀ e number, y = .error e → .started (.ok number) ∈ calls →
          Reaped calls ∧ (os.KeepsEnds → SparesEnded calls)) ∧
        ∀ s, y = .ok s → ∀ t', s.watched.close.Mirrors s.close t' fun _ _ closed _ =>
          Reaped (calls ++ closed) ∧ SparesEnded (calls ++ closed) := by
  refine ⟨?_, ?_⟩
  · intro s time start readings hclock hreached
    refine (Launcher.watch_mirrors os s time t).mono ?_
    rintro x y calls t' ⟨rfl, hwatch, -⟩
    rw [hclock] at hwatch
    exact ⟨rfl, hwatch.settled hreached⟩
  · refine (l.attach_mirrors os pid agent options t).mono ?_
    rintro x y calls t' ⟨rfl, hattach⟩
    refine ⟨rfl, ?_, ?_⟩
    · rintro e number rfl hstarted
      exact hattach.reaped hstarted
    · rintro s rfl t''
      refine (s.close_mirrors t'').mono ?_
      rintro _ _ closed _ hclose
      exact hattach.reaped_later hclose

/-- A tool that never ends by itself and cannot be killed. -/
def stubbornChild : Child Unit where
  poll := return .ok none
  kill := return .error .notPermitted
  wait := return .ok (.signaled 9)
  sleep _ := return ()

/-- Such a tool, under a clock that reads 0, then 10 nanoseconds and then a quarter of a second. -/
def stubbornStarter : Starter Unit where
  start _ := return .ok (7, stubbornChild)
  clock := return [0, 10, 250000000]

theorem stubbornStarter_keepsEnds : stubbornStarter.KeepsEnds := by
  intro c t agentPid child hstart t' status hpoll
  cases hstart
  cases hpoll

/-- A tool that has ended when it is looked at again. The state counts the looks. -/
def fleetingChild : Child Nat where
  poll := do
    let looks ← Act.state
    Act.update (· + 1)
    return .ok (if looks = 0 then none else some (.exited 1))
  kill := return .ok ()
  wait := return .ok (.exited 1)
  sleep _ := return ()

/-- Such a tool, under the same clock. -/
def fleetingStarter : Starter Nat where
  start _ := return .ok (7, fleetingChild)
  clock := return [0, 10, 250000000]

theorem fleetingStarter_keepsEnds : fleetingStarter.KeepsEnds := by
  intro c t agentPid child hstart t' status hpoll
  cases hstart
  exact ⟨.exited 1, rfl⟩

/-- What is noted when the tool is attached. -/
def fleetingCalls : List ToolCall :=
  ((Launcher.attach {} fleetingStarter.watched ⟨1⟩ (Text.octets "agent") ⟨false, []⟩).runOn
    (Scene.watched ⟨0, {}, [], {}, []⟩ [])).2.state.record

/-- The one settles at its second look; the other is seen to have ended there, and once more when it
is taken down, so that it is not killed. -/
theorem tool_reaped_stubborn_fleeting :
    let s : Session Unit := ⟨"attach-1", [], 7, "1", stubbornChild⟩
    stubbornStarter.KeepsEnds ∧ (∃ now ∈ [10, 250000000], 0 + (Duration.ofMillis 250).nanos ≤ now) ∧
      (∃ calls, Settled s 250000000 [10, 250000000] calls (.ok ()) ∧
        (pollAnswers calls).length = 2) ∧
      fleetingStarter.KeepsEnds ∧
      fleetingCalls = [.started (.ok 7), .polled (.ok none), .slept (Session.nap 250000000 10),
        .polled (.ok (some (.exited 1))), .polled (.ok (some (.exited 1)))] ∧
      Reaped fleetingCalls ∧ SparesEnded fleetingCalls := by
  intro s
  have hreached : ∃ now ∈ [10, 250000000], 0 + (Duration.ofMillis 250).nanos ≤ now :=
    ⟨250000000, by decide, by decide⟩
  obtain ⟨calls, -, -, hsettled⟩ :=
    (tool_reaped {} stubbornStarter ⟨1⟩ [] ⟨false, []⟩ ⟨(), {}, [], {}, []⟩).1 s
      (Duration.ofMillis 250) 0 [10, 250000000] rfl hreached []
  change Settled s 250000000 [10, 250000000] calls (.ok ()) at hsettled
  have hcalls : fleetingCalls = [.started (.ok 7), .polled (.ok none),
      .slept (Session.nap 250000000 10), .polled (.ok (some (.exited 1))),
      .polled (.ok (some (.exited 1)))] := by decide +kernel
  obtain ⟨noted, hrun, -, hreaped, -⟩ :=
    (tool_reaped {} fleetingStarter ⟨1⟩ (Text.octets "agent") ⟨false, []⟩ ⟨0, {}, [], {}, []⟩).2 []
  have hnoted : fleetingCalls = noted := congrArg (·.state.record) hrun
  -- the tool ends while it settles: the attach fails, and the tool is taken down
  have hfailed : (((Launcher.attach {} fleetingStarter ⟨1⟩ (Text.octets "agent") ⟨false, []⟩).runOn
      ⟨0, {}, [], {}, []⟩).1).isOk = false := by decide +kernel
  rw [← hnoted] at hreaped
  refine ⟨stubbornStarter_keepsEnds, hreached, ⟨calls, hsettled, ?_⟩, fleetingStarter_keepsEnds,
    hcalls, ?_⟩
  · rw [hsettled.settled.1 rfl]
    rfl
  · revert hreaped hfailed
    cases ((Launcher.attach {} fleetingStarter ⟨1⟩ (Text.octets "agent") ⟨false, []⟩).runOn
        ⟨0, {}, [], {}, []⟩).1 with
    | ok _ => exact fun hreaped hfailed => nomatch hfailed
    | error e =>
      intro hreaped _
      obtain ⟨hreaped, hspares⟩ := hreaped e 7 rfl (by rw [hcalls]; exact List.mem_cons_self)
      exact ⟨hreaped, hspares fleetingStarter_keepsEnds⟩

end SelfTrace
