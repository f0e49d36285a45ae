import Mathlib.Data.List.Forall2
import SelfTrace.Proofs.Merging
import SelfTrace.Proofs.MetricNames

/-!
# Points as lines of text

How a reader of the text format takes samples from it. A line that is neither empty nor a comment
tells one point: its name, its labels in braces and its value. What a line tells is said without
the definitions that write it.

* `Quotes`, `Labelled`, `Point.Line` — the format of a line;
* `dataLines`, `Tells` — the lines of a text that tell something, and the points that they tell;
* `exposition_tells` — the text of families with valid names tells their points and no others.
-/

namespace SelfTrace.Metrics

/-! ## Lines that tell points -/

/-- Characters that stand between quotes for a text. A backslash is in front of another one, of a
quote and of the letter that means the end of a line. -/
inductive Quotes : List Char → List Char → Prop where
  | nil : Quotes [] []
  | backslash {cs text : List Char} (h : Quotes cs text) :
    Quotes ('\\' :: '\\' :: cs) ('\\' :: text)
  | quote {cs text : List Char} (h : Quotes cs text) : Quotes ('\\' :: '"' :: cs) ('"' :: text)
  | newline {cs text : List Char} (h : Quotes cs text) : Quotes ('\\' :: 'n' :: cs) ('\n' :: text)
  | plain {c : Char} {cs text : List Char} (hc : c ∉ ['\\', '"', '\n']) (h : Quotes cs text) :
    Quotes (c :: cs) (c :: text)

/-- Characters that stand between braces for labels: the name of each, and its value in quotes. -/
inductive Labelled : List Char → List (String × String) → Prop where
  | last {name value : String} {cs : List Char} (h : Quotes cs value.toList) :
    Labelled (name.toList ++ '=' :: '"' :: cs ++ ['"']) [(name, value)]
  | more {name value : String} {cs rest : List Char} {labels : List (String × String)}
    (h : Quotes cs value.toList) (hrest : Labelled rest labels) :
    Labelled (name.toList ++ '=' :: '"' :: cs ++ '"' :: ',' :: rest) ((name, value) :: labels)

/-- A line that tells a point. Without labels there are no braces. -/
inductive Point.Line (p : Point) : List Char → Prop where
  | bare (h : p.sample.labels = []) :
    Line p (p.name.toList ++ ' ' :: Nat.toDigits 10 p.sample.value)
  | braced {cs : List Char} (h : Labelled cs p.sample.labels) :
    Line p (p.name.toList ++ '\x7b' :: cs ++ '\x7d' :: ' ' :: Nat.toDigits 10 p.sample.value)

/-- The line is neither empty nor a comment. -/
def tellsData : List Char → Bool
  | [] => false
  | c :: _ => c != '#'

/-- The lines of a text that tell something. -/
def dataLines (text : String) : List (List Char) := (text.toList.splitOn '\n').filter tellsData

/-! ## Escaped texts -/

theorem quotes_escaped (text : List Char) : Quotes (text.flatMap (escapedIn true)) text := by
  induction text with
  | nil => exact .nil
  | cons c text ih =>
    rw [List.flatMap_cons]
    by_cases hbackslash : c = '\\'
    · subst hbackslash
      exact .backslash ih
    by_cases hnewline : c = '\n'
    · subst hnewline
      exact .newline ih
    by_cases hquote : c = '"'
    · subst hquote
      exact .quote ih
    -- every other character stands for itself
    have hescaped : escapedIn true c = [c] := by simp [escapedIn, hbackslash, hnewline, hquote]
    rw [hescaped]
    exact .plain (by simp [hbackslash, hnewline, hquote]) ih

/-- No escaped text goes over the end of a line. -/
theorem newline_notMem_escaped (quotes : Bool) (text : String) :
    '\n' ∉ (escapedText quotes text).toList := by
  rw [escapedText, String.toList_ofList, List.mem_flatMap]
  rintro ⟨c, -, hc⟩
  unfold escapedIn at hc
  split at hc
  next => simp at hc
  next =>
  split at hc
  next => simp at hc
  next hnewline =>
  split at hc
  next => simp at hc
  next => exact hnewline (beq_iff_eq.2 (List.mem_singleton.1 hc).symm)

/-! ## Names -/

theorem ne_newline_of_isMetricStart {c : Char}
    (h : (isMetricStart c || isFigure c) = true) : c ≠ '\n' := by
  rintro rfl
  revert h
  decide

/-- A valid name stays on its line. -/
theorem newline_notMem_name {name : List Char} (h : validMetricName name = true) :
    '\n' ∉ name := by
  cases name with
  | nil => exact List.not_mem_nil
  | cons c cs =>
    simp only [validMetricName, isName, Bool.and_eq_true, List.all_eq_true] at h
    intro hmem
    rcases List.mem_cons.1 hmem with heq | hmem
    · exact ne_newline_of_isMetricStart (by rw [h.1, Bool.true_or]) heq.symm
    · exact ne_newline_of_isMetricStart (h.2 _ hmem) rfl

/-- A line that starts with a valid name is no comment. -/
theorem tellsData_name {name : List Char} (h : validMetricName name = true) (rest : List Char) :
    tellsData (name ++ rest) = true := by
  cases name with
  | nil => cases h
  | cons c cs =>
    simp only [validMetricName, isName, Bool.and_eq_true] at h
    have hc : c ≠ '#' := by
      rintro rfl
      exact absurd h.1 (by decide)
    simpa [tellsData] using hc

theorem validMetricName_of_validLabelName {name : List Char} (h : validLabelName name = true) :
    validMetricName name = true :=
  isName_mono isMetricStart_of_isLabelStart h

/-- A family whose own name and whose labels' names are valid. -/
structure Family.Named (f : Family) : Prop where
  name : validMetricName f.name.toList = true
  labels : ∀ s ∈ f.samples, ∀ l ∈ s.labels, validLabelName l.1.toList = true

theorem Family.Named.of_mem_points {f : Family} (h : f.Named) {p : Point} (hp : p ∈ f.points) :
    validMetricName p.name.toList = true ∧
      ∀ l ∈ p.sample.labels, validLabelName l.1.toList = true := by
  obtain ⟨hname, -, -, hsample⟩ := Family.mem_points.1 hp
  rw [hname]
  exact ⟨h.name, h.labels _ hsample⟩

/-! ## Lines of points -/

/-- What is written for one label. -/
def writtenLabel (l : String × String) : String := l.1 ++ "=\"" ++ escapedText true l.2 ++ "\""

theorem labelled_intercalate (l : String × String) (labels : List (String × String)) :
    Labelled (",".intercalate ((l :: labels).map writtenLabel)).toList (l :: labels) := by
  have hlabel : ∀ l : String × String, (writtenLabel l).toList =
      l.1.toList ++ '=' :: '"' :: l.2.toList.flatMap (escapedIn true) ++ ['"'] := by
    intro l
    simp [writtenLabel, escapedText]
  induction labels generalizing l with
  | nil =>
    rw [List.map_singleton, String.intercalate_singleton, hlabel]
    exact .last (quotes_escaped _)
  | cons next labels ih =>
    rw [List.map_cons, List.map_cons, String.intercalate_cons_cons, ← List.map_cons]
    have hrest := ih next
    simp only [String.toList_append, hlabel]
    simpa using Labelled.more (quotes_escaped l.2.toList) hrest

theorem labelText_cons (l : String × String) (labels : List (String × String)) :
    (labelText (l :: labels)).toList =
      '\x7b' :: (",".intercalate ((l :: labels).map writtenLabel)).toList ++ ['\x7d'] := by
  have htext : labelText (l :: labels) =
      "\x7b" ++ ",".intercalate ((l :: labels).map writtenLabel) ++ "\x7d" := rfl
  rw [htext, String.toList_append, String.toList_append]
  rfl

theorem newline_notMem_intercalate {texts : List String} (h : ∀ text ∈ texts, '\n' ∉ text.toList) :
    '\n' ∉ (",".intercalate texts).toList := by
  induction texts with
  | nil => simp
  | cons text texts ih =>
    have htext := h text List.mem_cons_self
    have hrest := ih fun other hother => h other (List.mem_cons_of_mem _ hother)
    cases texts with
    | nil => simpa using htext
    | cons next texts => simpa [htext] using hrest

theorem newline_notMem_labelText {labels : List (String × String)}
    (h : ∀ l ∈ labels, validLabelName l.1.toList = true) : '\n' ∉ (labelText labels).toList := by
  cases labels with
  | nil => simp [labelText]
  | cons l labels =>
    have hwritten : ∀ text ∈ (l :: labels).map writtenLabel, '\n' ∉ text.toList := by
      intro text htext
      obtain ⟨l', hl', rfl⟩ := List.mem_map.1 htext
      have hname := newline_notMem_name (validMetricName_of_validLabelName (h l' hl'))
      simp [writtenLabel, hname, newline_notMem_escaped true l'.2]
    rw [labelText_cons]
    simpa using newline_notMem_intercalate hwritten

/-- What is written for a point, without the end of the line. -/
def Point.written (p : Point) : List Char :=
  p.name.toList ++ (labelText p.sample.labels).toList ++ ' ' :: Text.decimal p.sample.value

theorem Point.line_written (p : Point) : p.Line p.written := by
  rw [written]
  cases hlabels : p.sample.labels with
  | nil => simpa [labelText, Text.decimal] using Line.bare hlabels
  | cons l labels =>
    have hlabelled := labelled_intercalate l labels
    rw [labelText_cons]
    rw [← hlabels] at hlabelled ⊢
    simpa [Text.decimal] using Line.braced hlabelled

/-! ## Lines of families -/

/-- Lines, each with its end. -/
def ended (lines : List (List Char)) : List Char := lines.flatMap (· ++ ['\n'])

theorem splitOn_ended {lines : List (List Char)} (h : ∀ line ∈ lines, '\n' ∉ line) :
    (ended lines).splitOn '\n' = lines ++ [[]] := by
  induction lines with
  | nil => rfl
  | cons line lines ih =>
    have hline : ∀ c ∈ line, (c == '\n') = false := by
      intro c hc
      exact beq_eq_false_iff_ne.2 fun heq => h line List.mem_cons_self (heq ▸ hc)
    rw [ended, List.flatMap_cons, List.append_assoc, List.singleton_append, List.splitOn,
      List.splitOnP_append_cons_of_forall_mem hline '\n' (beq_self_eq_true _)]
    exact congrArg (line :: ·) (ih fun line hline => h line (List.mem_cons_of_mem _ hline))

/-- The comments in front of the points of a family. -/
def Family.comments (f : Family) : List (List Char) :=
  (if f.help.isEmpty then []
    else [("# HELP " ++ f.name ++ " " ++ escapedText false f.help).toList]) ++
  [("# TYPE " ++ f.name ++ " " ++ f.kind.name).toList]

/-- The lines of a family. -/
def Family.lines (f : Family) : List (List Char) := f.comments ++ f.points.map Point.written

theorem Family.toList_text (f : Family) : f.text.toList = ended f.lines := by
  have hsamples : (String.join (f.samples.map (sampleLine f.name))).toList =
      ended (f.points.map Point.written) := by
    rw [String.toList_join, List.flatMap_map, ended, List.flatMap_map, points, List.flatMap_map]
    simp [sampleLine, Point.written, Text.decimalText]
  have happend : ∀ before after, ended (before ++ after) = ended before ++ ended after :=
    fun _ _ => List.flatMap_append
  rw [lines, happend, ← hsamples, text, comments]
  split
  next => simp [ended]
  next => simp [ended]

/-- The lines of a family with valid names end where it says. -/
theorem Family.Named.newline_notMem_lines {f : Family} (h : f.Named) :
    ∀ line ∈ f.lines, '\n' ∉ line := by
  have hname := newline_notMem_name h.name
  have hkind : '\n' ∉ f.kind.name.toList := by cases f.kind <;> decide
  intro line hline
  rcases List.mem_append.1 hline with hline | hline
  · have hhelp := newline_notMem_escaped false f.help
    rw [comments] at hline
    rcases List.mem_append.1 hline with hline | hline
    · split at hline
      next => cases hline
      next =>
        rw [List.mem_singleton.1 hline]
        simp [hname, hhelp]
    · rw [List.mem_singleton.1 hline]
      simp [hname, hkind]
  · obtain ⟨p, hp, rfl⟩ := List.mem_map.1 hline
    obtain ⟨hpname, hplabels⟩ := h.of_mem_points hp
    have hnumber : '\n' ∉ Text.decimal p.sample.value := by
      intro hmem
      exact absurd (Text.isDigit_of_mem_decimal hmem) (by decide)
    simp [Point.written, newline_notMem_name hpname, newline_notMem_labelText hplabels, hnumber]

/-- The lines of a family that tell something are those of its points. -/
theorem Family.Named.filter_lines {f : Family} (h : f.Named) :
    f.lines.filter tellsData = f.points.map Point.written := by
  have hcomments : f.comments.filter tellsData = [] := by
    rw [List.filter_eq_nil_iff, comments]
    intro line hline
    rcases List.mem_append.1 hline with hline | hline
    · split at hline
      next => cases hline
      next =>
        rw [List.mem_singleton.1 hline]
        simp [tellsData]
    · rw [List.mem_singleton.1 hline]
      simp [tellsData]
  have hpoints : (f.points.map Point.written).filter tellsData = f.points.map Point.written := by
    rw [List.filter_eq_self]
    intro line hline
    obtain ⟨p, hp, rfl⟩ := List.mem_map.1 hline
    rw [Point.written, List.append_assoc]
    exact tellsData_name (h.of_mem_points hp).1 _
  rw [lines, List.filter_append, hcomments, hpoints, List.nil_append]

/-! ## Texts -/

/-- A text tells points: one of them on each line that tells something. -/
def Tells (text : String) (ps : List Point) : Prop :=
  ∃ told : List Point, told.Perm ps ∧ List.Forall₂ Point.Line told (dataLines text)

theorem exposition_tells {fs : List Family} (h : ∀ f ∈ fs, f.Named) {ps : List Point}
    (hperm : (fs.flatMap Family.points).Perm ps) : Tells (exposition fs) ps := by
  have htext : (exposition fs).toList = ended (fs.flatMap Family.lines) := by
    rw [exposition, String.toList_join, List.flatMap_map, ended, List.flatMap_assoc]
    exact congrArg (List.flatMap · fs) (funext Family.toList_text)
  have hlines : ∀ line ∈ fs.flatMap Family.lines, '\n' ∉ line := by
    intro line hline
    obtain ⟨f, hf, hline⟩ := List.mem_flatMap.1 hline
    exact (h f hf).newline_notMem_lines line hline
  have hdata : (fs.flatMap Family.lines).filter tellsData =
      (fs.flatMap Family.points).map Point.written := by
    rw [List.filter_flatMap, List.map_flatMap]
    exact List.flatMap_congr fun f hf => (h f hf).filter_lines
  have hempty : [([] : List Char)].filter tellsData = [] := rfl
  refine ⟨_, hperm, ?_⟩
  rw [dataLines, htext, splitOn_ended hlines, List.filter_append, hdata, hempty, List.append_nil,
    List.forall₂_map_right_iff]
  exact List.forall₂_same.2 fun p _ => p.line_written

end SelfTrace.Metrics
