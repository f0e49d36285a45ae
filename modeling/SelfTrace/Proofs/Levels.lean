import SelfTrace.Proofs.Routes
import SelfTrace.Proofs.Trimming

/-!
# Levels hold filters

A level is a filter expression that was checked. However a level is come by, its expression is not
empty, has no blanks around it and is a filter, so that nothing ever has to stand in for it.

* `parseWith_eq_ok_iff` — what the check lets through;
* `Obtainable` — the ways to come by a level;
* `obtainable_levels_hold` — what all such levels have in common, and settings read back from their
  JSON text.

What counts as a filter expression is left open, but for the default level.
-/

namespace SelfTrace

namespace Log

variable {φ : Type}

namespace Level

/-! ## The check -/

theorem parseWith_eq_ok_iff (read : FilterReader φ) (s : String) (l : Level) :
    parseWith read s = .ok l ↔
      l.text.toList = Text.trim s.toList ∧ l.text ≠ "" ∧ ∃ f, read l.text.toList = .ok f := by
  have hnil : l.text ≠ "" ↔ l.text.toList ≠ [] := by simp
  unfold parseWith
  dsimp only
  by_cases hempty : Text.trim s.toList = []
  · rw [hempty]
    constructor
    · intro h
      cases h
    · rintro ⟨htext, hne, -⟩
      exact absurd htext (hnil.1 hne)
  · -- what is left without the blanks is both what is checked and what is kept
    rw [if_neg (by simpa using hempty)]
    cases hread : read (Text.trim s.toList) with
    | ok f =>
      constructor
      · intro h
        cases h
        rw [hnil]
        dsimp only
        rw [String.toList_ofList]
        exact ⟨rfl, hempty, f, hread⟩
      · rintro ⟨htext, -, -⟩
        rw [← htext, String.ofList_toList]
    | error reason =>
      constructor
      · intro h
        cases h
      · rintro ⟨htext, -, f, hf⟩
        rw [htext, hread] at hf
        cases hf

/-- The level's own text passes the check, as the level. -/
def Holds (read : FilterReader φ) (l : Level) : Prop := parseWith read l.text = .ok l

/-- What passes the check is a level whose own text passes it. -/
theorem holds_of_parseWith {read : FilterReader φ} {s : String} {l : Level}
    (h : parseWith read s = .ok l) : l.Holds read := by
  obtain ⟨htext, hne, hread⟩ := (parseWith_eq_ok_iff read s l).1 h
  refine (parseWith_eq_ok_iff read l.text l).2 ⟨?_, hne, hread⟩
  rw [htext, Text.trim_trim]

theorem default_holds {read : FilterReader φ} (h : ∃ f, read "info".toList = .ok f) :
    default.Holds read := by
  refine (parseWith_eq_ok_iff read _ _).2 ⟨?_, ?_, h⟩
  · decide
  · decide

end Level

/-! ## Ways to come by a level -/

namespace Settings

theorem level_holds_overlay {read : FilterReader φ} {s after : Settings} {env : Environment}
    (hs : s.level.Holds read) (h : s.overlayWith read env = .ok after) :
    after.level.Holds read := by
  have hlevel := ((overlayWith_eq_ok_iff read env s after).1 h).1 .level
  by_cases hgives : ∃ v, env.Gives TextField.level.envName v
  · obtain ⟨v, hv⟩ := hgives
    exact Level.holds_of_parseWith (hlevel.given v hv)
  · have hkept : after.level = s.level := hlevel.kept (not_exists.1 hgives)
    rwa [hkept]

theorem levelReaderWith_ensures (read : FilterReader φ) :
    Json.Ensures (levelReaderWith read) (Level.Holds read) := by
  intro text l rest hread
  obtain ⟨s, hs⟩ := Json.readParsed_ensures _ text l rest hread
  unfold inWords at hs
  split at hs
  · next l' hl =>
    cases hs
    exact Level.holds_of_parseWith hl
  · cases hs

/-- No field of the settings spoils their level. -/
theorem level_keptBy (read : FilterReader φ) :
    Json.KeptBy (fieldsWith read) fun s => s.level.Holds read := by
  intro field hfield s hs
  simp only [fieldsWith, List.mem_cons, List.not_mem_nil, or_false] at hfield
  rcases hfield with rfl | rfl | rfl | rfl | rfl
  · exact .after fun _ => .pure hs
  · exact (levelReaderWith_ensures read).bind fun _ hl => .pure hl
  · exact .after fun _ => .pure hs
  · exact .after fun _ => .pure hs
  · exact .after fun _ => .pure hs

theorem level_holds_json {read : FilterReader φ} (hinfo : ∃ f, read "info".toList = .ok f)
    {text : String} {s : Settings} (h : ofJsonTextWith read text = .ok s) : s.level.Holds read :=
  (Json.readRecord_ensures (level_keptBy read) _ (Level.default_holds hinfo)).of_readDocument h

end Settings

namespace Level

/-- The ways to come by a level. -/
inductive Obtainable (read : FilterReader φ) : Level → Prop
  | default : Obtainable read default
  | parsed {s : String} {l : Level} (h : parseWith read s = .ok l) : Obtainable read l
  /-- A level in JSON text. -/
  | json {text : String} {l : Level}
      (h : Json.readDocument (Settings.levelReaderWith read) text = .ok l) : Obtainable read l
  /-- The level of settings after an overlay. -/
  | overlaid {s after : Settings} {env : Environment} (hs : Obtainable read s.level)
      (h : s.overlayWith read env = .ok after) : Obtainable read after.level
  /-- The level of settings in JSON text. -/
  | object {text : String} {s : Settings} (h : Settings.ofJsonTextWith read text = .ok s) :
      Obtainable read s.level

theorem Obtainable.holds {read : FilterReader φ} (hinfo : ∃ f, read "info".toList = .ok f)
    {l : Level} (h : Obtainable read l) : l.Holds read := by
  induction h with
  | default => exact default_holds hinfo
  | parsed h => exact holds_of_parseWith h
  | json h => exact (Settings.levelReaderWith_ensures read).of_readDocument h
  | overlaid _ h ih => exact Settings.level_holds_overlay ih h
  | object h => exact Settings.level_holds_json hinfo h

end Level

/-! ## Settings as JSON text -/

theorem Format.parse_name (f : Format) : parse f.name = .ok f := by
  cases f <;> rfl

theorem Zone.parse_name (z : Zone) : parse z.name = .ok z := by
  cases z <;> rfl

namespace Settings

/-- Takes the field that a member names from `s`. -/
def put (s : Settings) (m : String × Json) (r : Settings) : Settings :=
  match m.1 with
  | "format" => { r with format := s.format }
  | "level" => { r with level := s.level }
  | "tz" => { r with zone := s.zone }
  | "with_targets" => { r with withTargets := s.withTargets }
  | "use_color" => { r with useColor := s.useColor }
  | _ => r

section Written

variable {read : FilterReader φ} {s : Settings}

/-- Each member is read as what was written, the level by the check that its text passes. -/
theorem put_takesMember (hlevel : s.level.Holds read) {m : String × Json} (hm : m ∈ s.members) :
    Json.TakesMember (fieldsWith read) m (s.put m) := by
  simp only [members, List.mem_cons, List.not_mem_nil, or_false] at hm
  rcases hm with rfl | rfl | rfl | rfl | rfl
  · exact TextField.takesMember (x := .format) s.format.parse_name
  · exact TextField.takesMember (x := .level) hlevel
  · exact TextField.takesMember (x := .zone) s.zone.parse_name
  · exact withTargets_takesMember read s.withTargets
  · exact useColor_takesMember read s.useColor

/-- Settings are read back from their JSON text if their level passes the check. -/
theorem ofJsonTextWith_text (hlevel : s.level.Holds read) :
    ofJsonTextWith read s.toJson.text = .ok s := by
  have hnodup : (s.members.map (·.1)).Nodup := by
    simp [members]
  have hread := Json.readRecord_takes s.put (fun m hm => put_takesMember hlevel hm) hnodup
    "struct LoggerConfig" {} []
  rw [List.append_nil] at hread
  exact Json.readDocument_eq hread

end Written

end Settings

/-! ## What all levels have in common -/

namespace Level

/-- What a level is good for whose text passes the check: its text is an expression without blanks
around it, its filter is read from that text and never stands in for another, and the level is read
back from its text, plain or as JSON. -/
structure Sound (read : FilterReader φ) (l : Level) : Prop where
  nonempty : l.text ≠ ""
  first : ∀ c ∈ l.text.toList.head?, Text.isBlank c = false
  last : ∀ c ∈ l.text.toList.getLast?, Text.isBlank c = false
  filter : ∃ f, read l.text.toList = .ok f ∧ ∀ fallback, l.filterWith read fallback = f
  reparsed : parseWith read l.text = .ok l
  reread : Json.readDocument (Settings.levelReaderWith read) (Json.string l.text).text = .ok l

theorem Holds.sound {read : FilterReader φ} {l : Level} (h : l.Holds read) : l.Sound read := by
  obtain ⟨htext, hne, f, hf⟩ := (parseWith_eq_ok_iff read l.text l).1 h
  have htrims : Text.Trims l.text.toList l.text.toList := Text.trim_eq_iff.1 htext.symm
  have hwords : Settings.inWords (parseWith read) l.text = .ok l := by rw [Settings.inWords, h]
  refine ⟨hne, htrims.begins, htrims.ends, ⟨f, hf, fun fallback => ?_⟩, h, ?_⟩
  · rw [filterWith, hf]
  · refine Json.readDocument_eq ?_
    have hread := Json.readParsed_takes hwords []
    rwa [List.append_nil] at hread

end Level

/-- However a level is come by, its text is a filter expression without blanks around it, from which
its filter is read and the level itself is read back; and settings with such a level are read back
from their JSON text. -/
theorem obtainable_levels_hold (read : FilterReader φ) (hinfo : ∃ f, read "info".toList = .ok f) :
    (∀ l, Level.Obtainable read l → l.Sound read) ∧
      ∀ s : Settings, Level.Obtainable read s.level →
        Settings.ofJsonTextWith read s.toJson.text = .ok s :=
  ⟨fun _ h => (h.holds hinfo).sound, fun _ h => Settings.ofJsonTextWith_text (h.holds hinfo)⟩

/-- A level from the environment, in settings for programs. -/
def coreDebug : Settings := { format := .json, level := ⟨"perfdbg_core=debug"⟩ }

theorem coreDebug_obtainable : Level.Obtainable Filter.read coreDebug.level := by
  have hoverlay : ({} : Settings).overlay (Environment.ofList [("PERFDBG_LOG_FORMAT", "JSON"),
      ("PERFDBG_LOG_LEVEL", "  perfdbg_core=debug \n")]) = .ok coreDebug := by
    rfl
  exact .overlaid .default hoverlay

theorem obtainable_levels_hold_core :
    (∃ f, Filter.read "info".toList = .ok f) ∧ Level.Obtainable Filter.read coreDebug.level ∧
      coreDebug.level.Sound Filter.read ∧
      Settings.ofJsonText coreDebug.toJson.text = .ok coreDebug := by
  have hinfo : ∃ f, Filter.read "info".toList = .ok f := ⟨_, rfl⟩
  have hlevels := obtainable_levels_hold Filter.read hinfo
  exact ⟨hinfo, coreDebug_obtainable, hlevels.1 _ coreDebug_obtainable,
    hlevels.2 coreDebug coreDebug_obtainable⟩

end Log

end SelfTrace
