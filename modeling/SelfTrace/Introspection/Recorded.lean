import SelfTrace.Introspection.Introspector

/-!
# Records of introspection

An introspector that keeps a record of the calls made on it, in order, each with whether it went
well. What it answers is what the introspector behind it answers.
-/

namespace SelfTrace

/-- A call on an introspector; `ok` tells whether it went well. -/
inductive IntrospectCall where
  | publish (key value : String) (ok : Bool)
  | retract (key : String)
  | candidates (ok : Bool)
  | attach (pid : ProcessId) (ok : Bool)
  | get (pid : ProcessId) (key : String) (ok : Bool)
  | detach (pid : ProcessId) (ok : Bool)
deriving DecidableEq, Repr

/-- An introspector that notes each call with `note`; the tables it hands out know their process. -/
def recorded {σ τ : Type} (note : IntrospectCall → Act σ Unit) (i : Introspector σ τ) :
    Introspector σ (ProcessId × τ) where
  publish key value := do
    let r ← i.publish key value
    note (.publish key value r.toBool)
    return r
  retract key := do
    i.retract key
    note (.retract key)
  candidates := do
    let r ← i.candidates
    note (.candidates r.toBool)
    return r
  attach pid := do
    let r ← i.attach pid
    note (.attach pid r.toBool)
    return r.map fun t => (pid, t)
  get t key := do
    let r ← i.get t.2 key
    note (.get t.1 key r.toBool)
    return r
  detach t := do
    let (table, r) ← i.detach t.2
    note (.detach t.1 r.toBool)
    return ((t.1, table), r)

end SelfTrace
