import SelfTrace.Accumulator
import SelfTrace.Monitors

/-!
# The demonstration workload

A number of sender tasks send messages and add up the simulated response times. The tasks share
one running sum; they may add in any order. The workload names its generator and counts its tasks
in the monitored values.
-/

namespace SelfTrace.Workload

/-- The name that the workload reports for its generator. -/
def generator : String := "ConstantSpeedGenerator"

/-- The sender tasks of the demonstration. -/
def senders : Nat := 8

/-- The messages of each sender task. -/
def messagesPerSender : Nat := 500

/-- The simulated response time of a message, in microseconds: arithmetic of 64 bits, a remainder
with the sign of the dividend. -/
def responseTime (sender message : UInt64) : Int64 :=
  100 + (sender.toInt64 * 7 + message.toInt64 * 13) % 50

/-- The response times that one sender adds, in order. -/
def taskAdditions (sender messages : Nat) : List Int64 :=
  (List.range messages).map fun m => responseTime (UInt64.ofNat sender) (UInt64.ofNat m)

/-- The additions of each sender task. -/
def additions (senders messages : Nat) : List (List Int64) :=
  (List.range senders).map fun s => taskAdditions s messages

/-- The total after all tasks are done. -/
def total (senders messages : Nat) : Int64 :=
  (Accumulator.zero.addAll (additions senders messages).flatten).total

/-- The monitored values after a run. -/
def reported (m : Monitors) (senders : Nat) : Monitors :=
  (m.setGeneratorName generator).addTasks senders

end SelfTrace.Workload
