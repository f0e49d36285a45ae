import SelfTrace.Scene
import SelfTrace.Text.Utf8

/-!
# The output of the tool in the log

Each line that the tool writes becomes one event. Lines end with a newline; the last one may lack
it. A line is shown without its newline and a carriage return in front of that, read as text, and
cut to a length on the boundary of a character.
-/

namespace SelfTrace.Output

variable {σ : Type}

/-- How output is put into the log. -/
structure Settings where
  /-- The length of a line in octets beyond which it is cut. -/
  maxLength : Nat := 4096
  /-- Output counts as information, else as debugging. -/
  stdoutInfo : Bool := true
  /-- Error output counts as warning, else as debugging. -/
  stderrWarn : Bool := true
deriving DecidableEq, Repr

/-- What a tool writes to. -/
inductive Stream where
  | stdout
  | stderr
deriving DecidableEq, Repr

def Stream.name : Stream → String
  | .stdout => "stdout"
  | .stderr => "stderr"

/-! ## Lines -/

/-- The octet that ends a line, and the one that may stand in front of it. -/
def newline : UInt8 := 0x0A
def carriageReturn : UInt8 := 0x0D

/-- Drops the last octet if it is the given one. -/
def dropLastIf (b : UInt8) (line : Bytes) : Bytes :=
  if line.getLast? == some b then line.dropLast else line

/-- A line without its end: a newline, and then a carriage return. -/
def bare (line : Bytes) : Bytes := dropLastIf carriageReturn (dropLastIf newline line)

/-! ## Cutting -/

/-- An octet that starts a character in the octets of a text. -/
def startsChar (b : UInt8) : Bool := b < 0x80 || 0xC0 ≤ b

/-- A position in the octets of a text at which no character is split: one of the ends, or in front
of an octet that starts a character. -/
def isBoundary (bs : Bytes) (pos : Nat) : Bool :=
  pos == 0 ||
    match bs[pos]? with
    | none => pos == bs.length
    | some b => startsChar b

/-- The first position on the way down at which no character is split; there is none if the way goes
below zero. -/
def boundary? (bs : Bytes) : Nat → Option Nat
  | 0 => if isBoundary bs 0 then some 0 else none
  | pos + 1 => if isBoundary bs (pos + 1) then some (pos + 1) else boundary? bs pos

/-- The characters in front of a position in the octets of a text; there are none if the position
splits a character. -/
def front? : List Char → Nat → Option (List Char)
  | _, 0 => some []
  | [], _ + 1 => none
  | c :: cs, pos + 1 =>
    if c.utf8Size ≤ pos + 1 then (front? cs (pos + 1 - c.utf8Size)).map (c :: ·) else none

/-- A text cut to at most `max` octets, if that can be done. -/
def truncate? (max : Nat) (text : List Char) : Option (List Char) :=
  let octets := Text.encode text
  if octets.length ≤ max then some text else (boundary? octets max).bind (front? text)

/-- The text of a line in the log. -/
def lineText? (s : Settings) (line : Bytes) : Option String :=
  (truncate? s.maxLength (Text.decodeLossy (bare line))).map String.ofList

/-- The severity of a line. -/
def severity (s : Settings) : Stream → Log.Severity
  | .stdout => if s.stdoutInfo then .info else .debug
  | .stderr => if s.stderrWarn then .warn else .debug

/-- The part of the program that these events come from. -/
def target : String := "perfdbg_exec::subprocess::logger"

/-- The event of a line. -/
def lineEvent? (s : Settings) (stream : Stream) (agentPid : Nat) (line : Bytes) :
    Option Log.Event :=
  (lineText? s line).map fun text => ⟨severity s stream, target, text,
    [("agent_pid", .int agentPid), ("stream", .text stream.name)]⟩

/-- The events of lines and then further ones. A line that cannot be cut would end the reading. -/
def forward (s : Settings) (stream : Stream) (agentPid : Nat) (lines : List Bytes)
    (further : List Log.Event) : List Log.Event :=
  match lines with
  | [] => further
  | line :: lines =>
    match lineEvent? s stream agentPid line with
    | none => []
    | some e => e :: forward s stream agentPid lines further

/-! ## Reading -/

/-- The outcome of one read from the tool. -/
inductive Read where
  | data (bytes : Bytes)
  | failed (cause : Failure)
deriving DecidableEq, Repr

/-- Cuts octets behind each newline: the lines, and what follows the last one. -/
def cutLines : Bytes → List Bytes × Bytes
  | [] => ([], [])
  | b :: bs =>
    if b == newline then ([b] :: (cutLines bs).1, (cutLines bs).2)
    else match cutLines bs with
      | ([], rest) => ([], b :: rest)
      | (line :: lines, rest) => ((b :: line) :: lines, rest)

/-- Adds octets to a line begun: the lines that end in them, and the line begun then. -/
def splitLines (begun bs : Bytes) : List Bytes × Bytes :=
  match cutLines bs with
  | ([], rest) => ([], begun ++ rest)
  | (line :: lines, rest) => ((begun ++ line) :: lines, rest)

theorem cutLines_flatten (bs : Bytes) : (cutLines bs).1.flatten ++ (cutLines bs).2 = bs := by
  induction bs with
  | nil => rfl
  | cons b bs ih =>
    unfold cutLines
    split
    · simp [ih]
    · split <;> simp_all

/-- The events of a sequence of reads, with a line begun. A read of nothing is an end of the stream:
it completes a line begun, and where none was begun it ends the reading. An interrupted read is
tried again; any other failure ends the reading, and a line begun is lost. -/
def pumpFrom (s : Settings) (stream : Stream) (agentPid : Nat) (begun : Bytes) :
    List Read → List Log.Event
  | [] => if begun.isEmpty then [] else forward s stream agentPid [begun] []
  | .failed cause :: reads =>
    if cause.isInterruption then pumpFrom s stream agentPid begun reads
    else [⟨.debug, target, "output pump stopped: " ++ cause.message,
      [("agent_pid", .int agentPid), ("stream", .text stream.name)]⟩]
  | .data bs :: reads =>
    if bs.isEmpty then
      if begun.isEmpty then []
      else forward s stream agentPid [begun] (pumpFrom s stream agentPid [] reads)
    else
      let (lines, rest) := splitLines begun bs
      forward s stream agentPid lines (pumpFrom s stream agentPid rest reads)

/-- The events of a sequence of reads up to the end of the stream. -/
def pump (s : Settings) (stream : Stream) (agentPid : Nat) (reads : List Read) : List Log.Event :=
  pumpFrom s stream agentPid [] reads

end SelfTrace.Output
