import Mathlib.Data.List.ReduceOption
import SelfTrace.Config

/-!
# Overlays of the environment

A variable counts if its value holds something besides blanks; then the value is taken as it is.
Three fields of a configuration are taken from variables that count, all else is left alone.

* `Replaced` — what becomes of one field that a variable can replace;
* `Merged` — one environment over another;
* `overlay_replaces` — an overlay as a whole, overlays of overlays, and the agent's name.
-/

namespace SelfTrace

/-! ## Variables that count -/

/-- The text holds something besides blanks. -/
def Text.NotBlank (s : String) : Prop := ∃ c ∈ s.toList, Text.isBlank c = false

theorem Text.blank_eq_false_iff (s : String) : Text.blank s = false ↔ Text.NotBlank s := by
  rw [Text.blank, Text.allBlank, List.all_eq_false]
  simp only [Text.NotBlank, Bool.not_eq_true]

theorem Text.nonBlank?_eq_some_iff (o : Option String) (v : String) :
    Text.nonBlank? o = some v ↔ o = some v ∧ Text.NotBlank v := by
  rw [Text.nonBlank?, Option.filter_eq_some_iff, Bool.not_eq_true', Text.blank_eq_false_iff]

namespace Environment

/-- The variable is set, and not to a blank value. -/
def Gives (env : Environment) (name v : String) : Prop := env name = some v ∧ Text.NotBlank v

theorem Gives.unique {env : Environment} {name v v' : String} (h : env.Gives name v)
    (h' : env.Gives name v') : v = v' := Option.some.inj (h.1.symm.trans h'.1)

theorem get?_eq_some_iff (env : Environment) (name v : String) :
    env.get? name = some v ↔ env.Gives name v :=
  Text.nonBlank?_eq_some_iff (env name) v

theorem get?_eq_none_iff (env : Environment) (name : String) :
    env.get? name = none ↔ ∀ v, ¬env.Gives name v := by
  rw [Option.eq_none_iff_forall_ne_some]
  exact forall_congr' fun v => not_congr (env.get?_eq_some_iff name v)

/-- What becomes of a field that a variable can replace: the value of the variable if it counts, as
it is, and else what the field was before. -/
structure Replaced {α : Type} (env : Environment) (name : String) (ofText : String → α)
    (before after : α) : Prop where
  given : ∀ v, env.Gives name v → after = ofText v
  kept : (∀ v, ¬env.Gives name v) → after = before

theorem replaced_getD (env : Environment) (name before : String) :
    env.Replaced name id before ((env.get? name).getD before) where
  given v hv := by rw [(env.get?_eq_some_iff name v).2 hv, Option.getD_some, id]
  kept hnone := by rw [(env.get?_eq_none_iff name).2 hnone, Option.getD_none]

theorem replaced_or {α : Type} (env : Environment) (name : String) (ofText : String → α)
    (before : Option α) :
    env.Replaced name (fun v => some (ofText v)) before
      (((env.get? name).map ofText).or before) where
  given v hv := by rw [(env.get?_eq_some_iff name v).2 hv, Option.map_some, Option.some_or]
  kept hnone := by rw [(env.get?_eq_none_iff name).2 hnone, Option.map_none, Option.none_or]

theorem Replaced.unique {α : Type} {env : Environment} {name : String} {ofText : String → α}
    {before after after' : α} (h : env.Replaced name ofText before after)
    (h' : env.Replaced name ofText before after') : after = after' := by
  by_cases hgives : ∃ v, env.Gives name v
  · obtain ⟨v, hv⟩ := hgives
    rw [h.given v hv, h'.given v hv]
  · have hnone := not_exists.1 hgives
    rw [h.kept hnone, h'.kept hnone]

/-- The environment that takes the values of `newer` where they count, and those of `older`
elsewhere. -/
def Merged (older newer merged : Environment) : Prop :=
  ∀ name, newer.Replaced name some (older name) (merged name)

theorem overlaid_merged (older newer : Environment) :
    Merged older newer (older.overlaid newer) := by
  intro name
  have hvalue : older.overlaid newer name = ((newer.get? name).map id).or (older name) := by
    unfold overlaid
    cases newer.get? name <;> rfl
  rw [hvalue]
  exact newer.replaced_or name id (older name)

/-- An environment over itself is that environment. -/
theorem merged_self (env : Environment) : Merged env env env :=
  fun _ => ⟨fun _ hv => hv.1, fun _ => rfl⟩

theorem Merged.eq_overlaid {older newer merged : Environment} (h : Merged older newer merged) :
    merged = older.overlaid newer :=
  funext fun name => (h name).unique (older.overlaid_merged newer name)

end Environment

/-! ## Configurations -/

namespace Config

/-- A configuration after an overlay. -/
structure Overlaid (c : Config) (env : Environment) (after : Config) : Prop where
  agentPath : env.Replaced "PERFDBG_AGENT_PATH" (fun v => some (Text.octets v)) c.agentPath
    after.agentPath
  metricsNamespace : env.Replaced "PERFDBG_DEBUG_NAMESPACE" id c.metricsNamespace
    after.metricsNamespace
  overlayDir : env.Replaced "PERFDBG_SCRIPT_OVERLAY" (fun v => some (Text.octets v)) c.overlayDir
    after.overlayDir
  agentName : after.agentName = c.agentName
  agentBinary : after.agentBinary = c.agentBinary
  scriptResource : after.scriptResource = c.scriptResource
  listener : after.listener = c.listener
  settleMs : after.settleMs = c.settleMs

theorem overlay_overlaid (c : Config) (env : Environment) : c.Overlaid env (c.overlay env) where
  agentPath := env.replaced_or Environment.agentPath Text.octets c.agentPath
  metricsNamespace := env.replaced_getD Environment.metricsNamespace c.metricsNamespace
  overlayDir := env.replaced_or Environment.scriptOverlay Text.octets c.overlayDir
  agentName := rfl
  agentBinary := rfl
  scriptResource := rfl
  listener := rfl
  settleMs := rfl

theorem overlay_merged (c : Config) {older newer merged : Environment}
    (h : Environment.Merged older newer merged) :
    (c.overlay older).overlay newer = c.overlay merged := by
  rw [h.eq_overlaid, overlay_overlay]

theorem find?_reduceOption_cons (p : String → Bool) (o : Option String) (l : List (Option String)) :
    (o :: l).reduceOption.find? p = (o.filter p).or (l.reduceOption.find? p) := by
  cases o with
  | none => rw [List.reduceOption_cons_of_none, Option.filter_none, Option.none_or]
  | some v =>
    rw [List.reduceOption_cons_of_some, List.find?_cons, Option.filter_some]
    cases p v <;> rfl

/-- The agent is named by the first text that counts: that of the environment, that of the
configuration, and the default, which always counts. -/
theorem resolvedAgentName_eq_first (c : Config) (env : Environment) :
    [env "PERFDBG_DEBUG_AGENT_NAME", c.agentName, some "perfdbg-debug"].reduceOption.find?
      (!Text.blank ·) = some (c.resolvedAgentName env) := by
  have hdefault : (some defaultAgentName).filter (!Text.blank ·) = some defaultAgentName := by
    decide
  have hname : c.resolvedAgentName env =
      ((Text.nonBlank? (env Environment.agentName)).or (Text.nonBlank? c.agentName)).getD
        defaultAgentName := rfl
  rw [hname, find?_reduceOption_cons, find?_reduceOption_cons, find?_reduceOption_cons]
  change (Text.nonBlank? (env Environment.agentName)).or ((Text.nonBlank? c.agentName).or
    (((some defaultAgentName).filter (!Text.blank ·)).or none)) = _
  rw [hdefault]
  cases Text.nonBlank? (env Environment.agentName) with
  | some v => rfl
  | none => cases Text.nonBlank? c.agentName <;> rfl

/-- An overlay replaces the agent's path, the namespace and the overlay directory, each by the value
of its variable, as it is, exactly if the variable is set and not blank; all other fields stay. Two
overlays are one with the newer environment over the older, so that an overlay can be repeated
without effect. A valid configuration stays valid. The agent is always named, by the first text that
counts. -/
theorem overlay_replaces (c : Config) (env : Environment) :
    c.Overlaid env (c.overlay env) ∧
    (∀ newer merged, Environment.Merged env newer merged →
      (c.overlay env).overlay newer = c.overlay merged) ∧
    (c.overlay env).overlay env = c.overlay env ∧
    (c.validate = .ok () → (c.overlay env).validate = .ok ()) ∧
    [env "PERFDBG_DEBUG_AGENT_NAME", c.agentName, some "perfdbg-debug"].reduceOption.find?
      (!Text.blank ·) = some (c.resolvedAgentName env) ∧
    Text.NotBlank (c.resolvedAgentName env) := by
  have hname := c.resolvedAgentName_eq_first env
  refine ⟨c.overlay_overlaid env, fun _ _ hmerged => c.overlay_merged hmerged, ?_,
    c.validate_overlay env, hname, ?_⟩
  · exact c.overlay_merged env.merged_self
  · rw [← Text.blank_eq_false_iff]
    simpa using List.find?_some hname

end Config

end SelfTrace
