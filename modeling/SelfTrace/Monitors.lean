/-!
# Monitored values

The two live values that an agent exposes: the name of the workload generator in use, empty until
one is reported, and the number of sender tasks created.
-/

namespace SelfTrace

/-- The values that an agent exposes. -/
structure Monitors where
  generatorName : String := ""
  senderTasks : UInt64 := 0
deriving DecidableEq, Repr

namespace Monitors

/-- A generator reports its name. -/
def setGeneratorName (m : Monitors) (name : String) : Monitors :=
  { m with generatorName := name }

/-- One more sender task. -/
def addTask (m : Monitors) : Monitors := { m with senderTasks := m.senderTasks + 1 }

/-- A number of sender tasks more. -/
def addTasks (m : Monitors) (n : Nat) : Monitors :=
  { m with senderTasks := m.senderTasks + UInt64.ofNat n }

end Monitors

end SelfTrace
