import Mathlib.Data.List.Perm.Subperm
import SelfTrace.Config
import SelfTrace.Proofs.JsonValues
import SelfTrace.Proofs.Octets

/-!
# Configurations from part of their members

A configuration whose paths are text is written as an object of eight members. Any of them, in any
order, are enough to read a configuration: it has the fields whose members are there, and the
defaults in all others. With all members it is the configuration that was written.

* `taking` — the values of one configuration in some fields, those of another in the rest;
* `takesMember_of_mem` — each member is read by the field of its name;
* `ofJsonText_members` — what any of the members read as.

Left out: members whose names are unknown, and configurations written as lists.
-/

namespace SelfTrace.Config

open Json (Takes TakesMember EndsNumber)

/-! ## Fields taken -/

/-- The values of `c` in the fields of the given names, those of `base` in all others. -/
def taking (c base : Config) (names : List String) : Config where
  metricsNamespace := if "namespace" ∈ names then c.metricsNamespace else base.metricsNamespace
  agentName := if "agentName" ∈ names then c.agentName else base.agentName
  agentBinary := if "agentBinary" ∈ names then c.agentBinary else base.agentBinary
  agentPath := if "agentPath" ∈ names then c.agentPath else base.agentPath
  scriptResource := if "scriptResource" ∈ names then c.scriptResource else base.scriptResource
  overlayDir := if "overlayDir" ∈ names then c.overlayDir else base.overlayDir
  listener := if "listener" ∈ names then c.listener else base.listener
  settleMs := if "settleMs" ∈ names then c.settleMs else base.settleMs

theorem ite_mem_cons {α : Type} (field n : String) (ns : List String) (a b : α) :
    (if field ∈ n :: ns then a else b) =
      if field ∈ ns then a else if field ∈ [n] then a else b := by
  by_cases hns : field ∈ ns
  · rw [if_pos (List.mem_cons_of_mem n hns), if_pos hns]
  · simp [hns]

theorem taking_nil (c base : Config) : c.taking base [] = base := by
  simp [taking]

/-- Fields are taken one after the other. -/
theorem taking_cons (c base : Config) (n : String) (ns : List String) :
    c.taking base (n :: ns) = c.taking (c.taking base [n]) ns := by
  simp only [taking, ite_mem_cons _ n ns]

theorem foldl_taking {α : Type} (c base : Config) (name : α → String) (l : List α) :
    l.foldl (fun r a => c.taking r [name a]) base = c.taking base (l.map name) := by
  induction l generalizing base with
  | nil => exact (taking_nil c base).symm
  | cons a l ih =>
    rw [List.foldl_cons, ih]
    exact (taking_cons c base (name a) (l.map name)).symm

/-- Nothing of the other configuration is left when all fields are taken. -/
theorem taking_fields (c base : Config) : c.taking base (fields.map (·.name)) = c := by
  simp [taking, fields]

/-! ## Members -/

/-- The paths of the configuration are text. -/
structure PathsAreText (c : Config) : Prop where
  agentPath : ∀ p ∈ c.agentPath, ∃ s, p = Text.octets s
  overlayDir : ∀ p ∈ c.overlayDir, ∃ s, p = Text.octets s

theorem takes_optionJson (o : Option String) (rest : List Char) :
    Takes (Json.readOption Json.readString) ((optionJson o).chars ++ rest) o rest := by
  cases o with
  | none => exact Json.readOption_takes_null _ rest
  | some s =>
    rw [optionJson, Json.chars]
    exact Json.readOption_takes_string (Json.readText_takes "a string" s rest)

/-- A path that is text is read back from its JSON. -/
theorem exists_pathJson? {path : Option Bytes} (h : ∀ p ∈ path, ∃ s, p = Text.octets s) :
    ∃ j, pathJson? path = some j ∧
      ∀ rest, Takes (Json.readOption readPath) (j.chars ++ rest) path rest := by
  cases path with
  | none => exact ⟨.null, rfl, Json.readOption_takes_null _⟩
  | some p =>
    obtain ⟨s, rfl⟩ := h p rfl
    refine ⟨.string s, ?_, fun rest => ?_⟩
    · rw [pathJson?, Text.text?_octets, Option.map_some]
    · rw [Json.chars]
      exact Json.readOption_takes_string ((Json.readText_takes "path string" s rest).map _)

/-- The members of the configuration, with the JSON of its two paths. -/
def members (c : Config) (agentPath overlayDir : Json) : List (String × Json) := [
  ("namespace", .string c.metricsNamespace),
  ("agentName", optionJson c.agentName),
  ("agentBinary", .string c.agentBinary),
  ("agentPath", agentPath),
  ("scriptResource", .string c.scriptResource),
  ("overlayDir", overlayDir),
  ("listener", .bool c.listener),
  ("settleMs", .number c.settleMs.toNat)]

section Members

variable {c : Config} {agentPath overlayDir : Json}

/-- A reader of a field's value makes a reader of its member. -/
theorem takesMember_of_takes {α : Type} {m : String × Json} {read : Json.Reader α}
    {set : Config → α → Config} {a : α}
    (hfield : fields.find? (·.name == m.1) = some ⟨m.1, fun r => do return set r (← read)⟩)
    (hset : ∀ r, set r a = c.taking r [m.1])
    (hread : ∀ rest, EndsNumber rest → Takes read (m.2.chars ++ rest) a rest) :
    TakesMember fields m (fun r => c.taking r [m.1]) := by
  refine ⟨_, hfield, fun r rest hrest => ?_⟩
  have htaken := (hread rest hrest).map (set r)
  rw [hset] at htaken
  exact htaken

/-- The field of its name reads a member and takes its value from the configuration written. -/
theorem takesMember_of_mem
    (hagent : ∀ rest, Takes (Json.readOption readPath) (agentPath.chars ++ rest) c.agentPath rest)
    (hoverlay :
      ∀ rest, Takes (Json.readOption readPath) (overlayDir.chars ++ rest) c.overlayDir rest)
    {m : String × Json} (h : m ∈ c.members agentPath overlayDir) :
    TakesMember fields m (fun r => c.taking r [m.1]) := by
  simp only [members, List.mem_cons, List.not_mem_nil, or_false] at h
  obtain rfl | rfl | rfl | rfl | rfl | rfl | rfl | rfl := h
  · exact takesMember_of_takes rfl (fun r => by simp [taking])
      fun rest _ => Json.readText_takes "a string" c.metricsNamespace rest
  · exact takesMember_of_takes rfl (fun r => by simp [taking])
      fun rest _ => takes_optionJson c.agentName rest
  · exact takesMember_of_takes rfl (fun r => by simp [taking])
      fun rest _ => Json.readText_takes "a string" c.agentBinary rest
  · exact takesMember_of_takes rfl (fun r => by simp [taking]) fun rest _ => hagent rest
  · exact takesMember_of_takes rfl (fun r => by simp [taking])
      fun rest _ => Json.readText_takes "a string" c.scriptResource rest
  · exact takesMember_of_takes rfl (fun r => by simp [taking]) fun rest _ => hoverlay rest
  · exact takesMember_of_takes rfl (fun r => by simp [taking])
      fun rest _ => Json.readBool_takes c.listener rest
  · refine takesMember_of_takes rfl (fun r => ?_) fun rest hrest =>
      Json.readUnsigned_takes (Nat.le_of_lt_succ c.settleMs.toNat_lt) (Nat.le_refl _) "u64" hrest
    simp [taking]

end Members

/-! ## Configurations -/

/-- The configuration that some members of `c` write, in any order. -/
theorem ofJsonText_members {c : Config} {agentPath overlayDir : Json}
    (hagent : ∀ rest, Takes (Json.readOption readPath) (agentPath.chars ++ rest) c.agentPath rest)
    (hoverlay :
      ∀ rest, Takes (Json.readOption readPath) (overlayDir.chars ++ rest) c.overlayDir rest)
    {chosen : List (String × Json)} (h : chosen.Subperm (c.members agentPath overlayDir)) :
    ofJsonText (Json.object chosen).text = .ok (c.taking {} (chosen.map (·.1))) := by
  have hnodup : (chosen.map (·.1)).Nodup := by
    have hnames : ((c.members agentPath overlayDir).map (·.1)).Nodup := by
      show (fields.map (·.name)).Nodup
      decide
    obtain ⟨sorted, hperm, hsublist⟩ := h
    exact (hperm.map (·.1)).nodup_iff.1 ((hsublist.map (·.1)).nodup hnames)
  have hread := Json.readRecord_takes (fun m r => c.taking r [m.1])
    (fun m hm => takesMember_of_mem hagent hoverlay (h.subset hm)) hnodup
    "struct DebugConfig" {} []
  rw [foldl_taking c {} (fun m => m.1) chosen, List.append_nil] at hread
  exact Json.readDocument_eq hread

/-- A configuration whose paths are text is an object of eight members. Any of them, in any order,
are read as the configuration with those fields and with the defaults in all others; all of them
are read as the configuration itself. -/
theorem toJson?_reads_back (c : Config) (h : c.PathsAreText) :
    ∃ members, c.toJson? = some (.object members) ∧
      members.map (·.1) = ["namespace", "agentName", "agentBinary", "agentPath", "scriptResource",
        "overlayDir", "listener", "settleMs"] ∧
      (∀ chosen, chosen.Subperm members →
        ofJsonText (Json.object chosen).text = .ok (c.taking {} (chosen.map (·.1)))) ∧
      ofJsonText (Json.object members).text = .ok c := by
  obtain ⟨agentPath, hagent, hagentRead⟩ := exists_pathJson? h.agentPath
  obtain ⟨overlayDir, hoverlay, hoverlayRead⟩ := exists_pathJson? h.overlayDir
  have hchosen : ∀ chosen, chosen.Subperm (c.members agentPath overlayDir) →
      ofJsonText (Json.object chosen).text = .ok (c.taking {} (chosen.map (·.1))) :=
    fun chosen => ofJsonText_members hagentRead hoverlayRead
  refine ⟨c.members agentPath overlayDir, ?_, rfl, hchosen, ?_⟩
  · rw [toJson?, hagent, hoverlay]
    rfl
  · rw [hchosen _ (List.Subperm.refl _)]
    exact congrArg Except.ok (taking_fields c {})

/-- A name with a quote, a backslash, a line feed and a control character, a name and a path outside
ASCII, a path that is missing, and the longest settling time. -/
def farFromDefault : Config where
  metricsNamespace := "a\"b\\c\nd\x01"
  agentName := some "größer 🦀"
  agentPath := some (Text.octets "/opt/ä/bpftrace")
  overlayDir := none
  settleMs := 18446744073709551615

theorem farFromDefault_reads_back :
    farFromDefault.PathsAreText ∧
    ∃ members, farFromDefault.toJson? = some (.object members) ∧
      members.map (·.1) = ["namespace", "agentName", "agentBinary", "agentPath", "scriptResource",
        "overlayDir", "listener", "settleMs"] ∧
      (∀ chosen, chosen.Subperm members →
        ofJsonText (Json.object chosen).text =
          .ok (farFromDefault.taking {} (chosen.map (·.1)))) ∧
      ofJsonText (Json.object members).text = .ok farFromDefault := by
  have hpaths : farFromDefault.PathsAreText := by
    refine ⟨fun p hp => ⟨"/opt/ä/bpftrace", ?_⟩, fun p hp => ?_⟩
    · exact (Option.some.inj hp).symm
    · cases hp
  exact ⟨hpaths, toJson?_reads_back farFromDefault hpaths⟩

end SelfTrace.Config
