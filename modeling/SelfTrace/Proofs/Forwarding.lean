import SelfTrace.Proofs.Cutting
import SelfTrace.Proofs.Replacement

/-!
# Output forwarded line by line

Whatever the pieces in which the output of the tool arrives, the log gets one event for each of its
lines, in order, and one for what is left without a newline at the end.

* `Lines` — octets cut into lines, and `cutLines_eq_iff`: there is one way to do so;
* `Delivers` — reads that bring a sequence of octets;
* `Shows` — an event that shows a line;
* `pump_forwards` — what the log gets.
-/

namespace SelfTrace.Output

/-! ## Lines -/

/-- Octets cut into lines that end with their only newline, and octets without one behind them. -/
structure Lines (bytes : Bytes) (ended : List Bytes) (tail : Bytes) : Prop where
  all : bytes = ended.flatten ++ tail
  ended : ∀ line ∈ ended, ∃ body, line = body ++ [newline] ∧ newline ∉ body
  tail : newline ∉ tail

theorem cutLines_tail {tail : Bytes} (h : newline ∉ tail) : cutLines tail = ([], tail) := by
  induction tail with
  | nil => rfl
  | cons b tail ih =>
    rw [List.mem_cons, not_or] at h
    have hb : ¬(b == newline) = true := by simpa using Ne.symm h.1
    rw [cutLines, if_neg hb, ih h.2]

theorem cutLines_line {body : Bytes} (h : newline ∉ body) (rest : Bytes) :
    cutLines (body ++ newline :: rest) =
      ((body ++ [newline]) :: (cutLines rest).1, (cutLines rest).2) := by
  induction body with
  | nil => rfl
  | cons b body ih =>
    rw [List.mem_cons, not_or] at h
    have hb : ¬(b == newline) = true := by simpa using Ne.symm h.1
    rw [List.cons_append, cutLines, if_neg hb, ih h.2]
    rfl

theorem lines_cutLines (bytes : Bytes) :
    Lines bytes (cutLines bytes).1 (cutLines bytes).2 := by
  induction bytes with
  | nil => exact ⟨rfl, List.forall_mem_nil _, List.not_mem_nil⟩
  | cons b bytes ih =>
    have hall := (cutLines_flatten (b :: bytes)).symm
    by_cases hb : b = newline
    · subst hb
      have hline := cutLines_line List.not_mem_nil bytes
      rw [List.nil_append] at hline
      rw [hline] at hall ⊢
      exact ⟨hall, List.forall_mem_cons.2 ⟨⟨[], rfl, List.not_mem_nil⟩, ih.ended⟩, ih.tail⟩
    · -- the octet is the first of what comes next
      rw [cutLines, if_neg (by simpa using hb)] at hall ⊢
      have hended := ih.ended
      have htail := ih.tail
      cases hcut : cutLines bytes with
      | mk lines rest =>
        rw [hcut] at hall hended htail
        cases lines with
        | nil =>
          exact ⟨hall, List.forall_mem_nil _,
            List.not_mem_cons_of_ne_of_not_mem (Ne.symm hb) htail⟩
        | cons line lines =>
          obtain ⟨⟨body, hline, hbody⟩, hlines⟩ := List.forall_mem_cons.1 hended
          refine ⟨hall, List.forall_mem_cons.2 ⟨⟨b :: body, congrArg (b :: ·) hline, ?_⟩, hlines⟩,
            htail⟩
          exact List.not_mem_cons_of_ne_of_not_mem (Ne.symm hb) hbody

/-- There is one way to cut octets into lines. -/
theorem cutLines_eq_iff (bytes : Bytes) (ended : List Bytes) (tail : Bytes) :
    cutLines bytes = (ended, tail) ↔ Lines bytes ended tail := by
  constructor
  · intro h
    have hlines := lines_cutLines bytes
    rwa [h] at hlines
  · rintro ⟨rfl, hended, htail⟩
    induction ended with
    | nil => exact cutLines_tail htail
    | cons line ended ih =>
      obtain ⟨⟨body, rfl, hbody⟩, hrest⟩ := List.forall_mem_cons.1 hended
      rw [List.flatten_cons, List.append_assoc, List.append_assoc, List.singleton_append,
        cutLines_line hbody, ih hrest]

/-- The lines of octets and more octets are those that end in the first and those of what is left
with the others. -/
theorem Lines.append {bytes more rest tail : Bytes} {ended ended' : List Bytes}
    (h : Lines bytes ended rest) (h' : Lines (rest ++ more) ended' tail) :
    Lines (bytes ++ more) (ended ++ ended') tail where
  all := by
    rw [h.all, List.append_assoc, h'.all, List.flatten_append, List.append_assoc]
  ended := List.forall_mem_append.2 ⟨h.ended, h'.ended⟩
  tail := h'.tail

theorem cutLines_append_of_not_mem {begun : Bytes} (h : newline ∉ begun) (bytes : Bytes) :
    cutLines (begun ++ bytes) = splitLines begun bytes := by
  rw [splitLines]
  induction begun with
  | nil =>
    rw [List.nil_append]
    split
    · next rest hcut => exact hcut
    · next line lines rest hcut => exact hcut
  | cons b begun ih =>
    rw [List.mem_cons, not_or] at h
    have hb : ¬(b == newline) = true := by simpa using Ne.symm h.1
    rw [List.cons_append, cutLines, if_neg hb, ih h.2]
    cases hcut : cutLines bytes with
    | mk lines rest => cases lines <;> rfl

/-! ## Reads -/

/-- Reads that bring a sequence of octets: pieces of it that are not empty, with interruptions
between them, and from its end on nothing. -/
inductive Delivers : List Read → Bytes → Prop
  | nil : Delivers [] []
  | ended {reads : List Read} (h : Delivers reads []) : Delivers (.data [] :: reads) []
  | interrupted {cause : Failure} {reads : List Read} {bytes : Bytes}
      (hcause : cause.isInterruption = true) (h : Delivers reads bytes) :
      Delivers (.failed cause :: reads) bytes
  | data {piece bytes : Bytes} {reads : List Read} (hpiece : piece ≠ [])
      (h : Delivers reads bytes) : Delivers (.data piece :: reads) (piece ++ bytes)

/-- What is left without a newline is a line, if it is anything. -/
def unended (tail : Bytes) : List Bytes := if tail = [] then [] else [tail]

section Forwarding

variable (s : Settings) (stream : Stream) (agentPid : Nat)

theorem forward_append (lines lines' : List Bytes) (further : List Log.Event) :
    forward s stream agentPid (lines ++ lines') further =
      forward s stream agentPid lines (forward s stream agentPid lines' further) := by
  induction lines with
  | nil => rfl
  | cons line lines ih =>
    rw [List.cons_append, forward, forward, ih]

/-- From a line begun on, the lines are forwarded that the octets make up with it, however they are
read. -/
theorem pumpFrom_eq {reads : List Read} {bytes : Bytes} (h : Delivers reads bytes)
    {begun tail : Bytes} {ended : List Bytes} (hbegun : newline ∉ begun)
    (hlines : Lines (begun ++ bytes) ended tail) :
    pumpFrom s stream agentPid begun reads =
      forward s stream agentPid (ended ++ unended tail) [] := by
  induction h generalizing begun tail ended with
  | nil =>
    rw [List.append_nil, ← cutLines_eq_iff, cutLines_tail hbegun] at hlines
    cases hlines
    rw [List.nil_append, unended, pumpFrom]
    by_cases hempty : begun = []
    · rw [if_pos (by simpa using hempty), if_pos hempty, forward]
    · rw [if_neg (by simpa using hempty), if_neg hempty]
  | ended h ih =>
    rw [List.append_nil, ← cutLines_eq_iff, cutLines_tail hbegun] at hlines
    cases hlines
    -- at the end the line begun is complete, and then nothing comes any more
    have hnothing := ih List.not_mem_nil ((cutLines_eq_iff _ _ _).1 rfl)
    rw [List.nil_append, unended, pumpFrom, if_pos (by simp)]
    by_cases hempty : begun = []
    · rw [if_pos (by simpa using hempty), if_pos hempty, forward]
    · rw [if_neg (by simpa using hempty), if_neg hempty, hnothing]
      rfl
  | interrupted hcause h ih =>
    rw [pumpFrom, if_pos hcause, ih hbegun hlines]
  | @data piece bytes reads hpiece h ih =>
    -- the piece completes some lines and leaves one begun, from which reading goes on
    have hfirst := lines_cutLines (begun ++ piece)
    have hrest := lines_cutLines ((cutLines (begun ++ piece)).2 ++ bytes)
    have hall := hfirst.append hrest
    rw [List.append_assoc, ← cutLines_eq_iff, (cutLines_eq_iff _ _ _).2 hlines] at hall
    cases hall
    rw [pumpFrom, if_neg (by simpa using hpiece), ← cutLines_append_of_not_mem hbegun]
    dsimp only
    rw [ih hfirst.tail hrest, List.append_assoc, ← forward_append]

end Forwarding

/-! ## Events -/

/-- Octets without the last one, if that is of a kind. -/
def Without (b : UInt8) (octets rest : Bytes) : Prop :=
  octets = rest ++ [b] ∨ octets = rest ∧ ∀ front, octets ≠ front ++ [b]

theorem without_dropLastIf (b : UInt8) (octets : Bytes) :
    Without b octets (dropLastIf b octets) := by
  rw [dropLastIf]
  by_cases hlast : octets.getLast? = some b
  · obtain ⟨front, rfl⟩ := List.getLast?_eq_some_iff.1 hlast
    rw [if_pos (by simp), List.dropLast_concat]
    exact .inl rfl
  · rw [if_neg (by simpa using hlast)]
    refine .inr ⟨rfl, ?_⟩
    rintro front rfl
    exact hlast (by simp)

/-- An event shows a line: it has the severity that the settings give to the stream, and its message
is what the limit leaves of the line as text, without a newline and then a carriage return at its
end. -/
structure Shows (s : Settings) (stream : Stream) (agentPid : Nat) (line : Bytes)
    (e : Log.Event) : Prop where
  severity : e.severity = match stream with
    | .stdout => if s.stdoutInfo then .info else .debug
    | .stderr => if s.stderrWarn then .warn else .debug
  target : e.target = target
  fields : e.fields = [("agent_pid", .int agentPid), ("stream", .text stream.name)]
  message : ∃ unended body text, Without newline line unended ∧
    Without carriageReturn unended body ∧ Text.Decoded body text ∧
    Kept s.maxLength text e.message.toList

section Events

variable (s : Settings) (stream : Stream) (agentPid : Nat)

/-- Every line has an event that shows it. -/
theorem lineEvent?_shows (line : Bytes) :
    ∃ e, lineEvent? s stream agentPid line = some e ∧ Shows s stream agentPid line e := by
  obtain ⟨kept, htruncate, hkept⟩ :=
    truncate?_kept s.maxLength (Text.decodeLossy (bare line))
  rw [lineEvent?, lineText?, htruncate]
  refine ⟨_, rfl, rfl, rfl, rfl, _, _, _, without_dropLastIf newline line,
    without_dropLastIf carriageReturn _, (Text.decoded_iff _ _).2 rfl, ?_⟩
  rw [String.toList_ofList]
  exact hkept

/-- Lines are forwarded as their events, one by one. -/
theorem forward_shows (lines : List Bytes) :
    List.Forall₂ (Shows s stream agentPid) lines (forward s stream agentPid lines []) := by
  induction lines with
  | nil => exact .nil
  | cons line lines ih =>
    obtain ⟨e, hevent, hshows⟩ := lineEvent?_shows s stream agentPid line
    rw [forward, hevent]
    exact .cons hshows ih

end Events

/-- The log gets one event for each line that the octets make up and one for what is left without a
newline, if anything is, in their order, however the octets are read. For that every text can be
cut: the way down from the limit meets a position that splits no character, whatever the limit. -/
theorem pump_forwards {reads : List Read} {bytes : Bytes} (h : Delivers reads bytes)
    (s : Settings) (stream : Stream) (agentPid : Nat) :
    (∃ ended tail, Lines bytes ended tail ∧
      (∀ ended' tail', Lines bytes ended' tail' → ended' = ended ∧ tail' = tail) ∧
      List.Forall₂ (Shows s stream agentPid) (ended ++ unended tail)
        (pump s stream agentPid reads)) ∧
    (∀ octets, ∃ pos, boundary? octets s.maxLength = some pos ∧ pos ≤ s.maxLength) ∧
    ∀ text, ∃ kept, truncate? s.maxLength text = some kept ∧ Kept s.maxLength text kept := by
  have hlines := lines_cutLines bytes
  refine ⟨⟨_, _, hlines, ?_, ?_⟩, ?_, truncate?_kept s.maxLength⟩
  · intro ended' tail' hlines'
    have hcut := (cutLines_eq_iff _ _ _).2 hlines'
    rw [hcut]
    exact ⟨rfl, rfl⟩
  · rw [pump, pumpFrom_eq s stream agentPid h List.not_mem_nil hlines]
    exact forward_shows s stream agentPid _
  · intro octets
    obtain ⟨pos, hpos, hle, -⟩ := boundary?_eq_some octets s.maxLength
    exact ⟨pos, hpos, hle⟩

/-- A character that comes in two pieces is whole in its line, and cut off whole; the end of the
line comes in two pieces, too. What is no text takes more room when it is shown. -/
theorem pump_forwards_split_character :
    let reads : List Read := [.data [0x61, 0xC3], .failed .interruptedCall, .data [0xA9, 0x0D],
      .data [0x0A, 0xFF], .data [], .data []]
    let bytes : Bytes := [0x61, 0xC3, 0xA9, 0x0D, 0x0A, 0xFF]
    let s : Settings := { maxLength := 2 }
    let fields := [("agent_pid", Log.FieldValue.int 1), ("stream", .text "stdout")]
    Delivers reads bytes ∧ Lines bytes [[0x61, 0xC3, 0xA9, 0x0D, 0x0A]] [0xFF] ∧
      List.Forall₂ (Shows s .stdout 1) [[0x61, 0xC3, 0xA9, 0x0D, 0x0A], [0xFF]]
        (pump s .stdout 1 reads) ∧
      pump s .stdout 1 reads = [⟨.info, target, "a", fields⟩, ⟨.info, target, "", fields⟩] := by
  intro reads bytes s fields
  have hreads : Delivers reads bytes :=
    .data (by simp) (.interrupted rfl (.data (by simp) (.data (by simp) (.ended (.ended .nil)))))
  have hlines : Lines bytes [[0x61, 0xC3, 0xA9, 0x0D, 0x0A]] [0xFF] :=
    (cutLines_eq_iff _ _ _).1 rfl
  obtain ⟨⟨ended, tail, -, hunique, hshows⟩, -, -⟩ := pump_forwards hreads s .stdout 1
  obtain ⟨rfl, rfl⟩ := hunique _ _ hlines
  exact ⟨hreads, hlines, hshows, by decide +kernel⟩

end SelfTrace.Output
