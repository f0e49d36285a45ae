import SelfTrace.Files.Access

/-!
# What can be executed

The rules by which a path is started as a program: a regular file with an execute bit that is a
binary, or a script whose first line names an interpreter that can itself be started. What is handed
over with the start is bounded in size.
-/

namespace SelfTrace.Files.Tree

/-! ## Binaries -/

/-- The first octets of a binary program. -/
def binaryMagic : Bytes := [0x7F, 0x45, 0x4C, 0x46]

/-- A number of `count` octets at a position, the least significant octet first. -/
def numberAt (content : Bytes) (pos count : Nat) : Nat :=
  ((content.drop pos).take count).foldr (fun b n => b.toNat + 256 * n) 0

/-- The size of an entry in the table of a binary's segments, and how many there may be. -/
def segmentSize : Nat := 56
def maxSegments : Nat := 65536 / segmentSize

/-- A binary for this machine: its header has a table of segments that lies inside the file. -/
def isBinary (content : Bytes) : Bool :=
  let kind := numberAt content 16 2
  let segments := numberAt content 56 2
  content.take 4 == binaryMagic &&
  (kind == 2 || kind == 3) &&
  numberAt content 18 2 == 62 &&
  numberAt content 54 2 == segmentSize &&
  1 ≤ segments && segments ≤ maxSegments &&
  numberAt content 32 8 + segments * segmentSize ≤ content.length

/-- The smallest binary: a header and one segment. -/
def smallestBinary : Bytes :=
  binaryMagic ++ List.replicate 12 0 ++ [2, 0, 62, 0] ++ List.replicate 12 0 ++
    [64] ++ List.replicate 21 0 ++ [56, 0, 1, 0] ++ List.replicate 62 0

/-! ## Scripts -/

/-- How many octets of a file are looked at to find out how it is started. -/
def frontSize : Nat := 256

/-- A blank between the parts of a script's first line. -/
def isGap (b : UInt8) : Bool := b == 0x20 || b == 0x09

/-- An octet behind the name of an interpreter. -/
def endsName (b : UInt8) : Bool := isGap b || b == 0

/-- The interpreter that the first line of a script names. A line that does not end within the front
of the file must at least show where the name ends; the front is filled up with NULs, and a NUL in
front of the end of the line hides it. An empty name is that of the working directory. -/
def interpreter? (content : Bytes) : Option Path :=
  match content with
  | 0x23 :: 0x21 :: rest =>
    let size := frontSize - 2
    let front := rest.take size ++ List.replicate (size - rest.length) 0
    let named := front.dropWhile isGap
    let name := named.takeWhile fun b => !endsName b && b != 0x0A
    if (front.dropWhile fun b => b != 0x0A && b != 0).head? == some 0x0A then
      if name.isEmpty then none else some name
    else if named.length ≤ 1 || !named.any endsName then none
    else
      let name := named.takeWhile (!endsName ·)
      some (if name.isEmpty then Path.dot else name)
  | _ => none

/-! ## What is handed over -/

/-- The longest argument or variable, in octets. -/
def maxHanded : Nat := 131071

/-- How much may be handed over in all: the octets of all arguments and variables, each with its end
and a reference to it. -/
def maxHandedTotal : Nat := 2097152

/-- All that is handed over with a start fits. -/
def fits (handed : List Bytes) : Bool :=
  handed.all (·.length ≤ maxHanded) &&
    handed.foldl (fun total h => total + h.length + 9) 0 ≤ maxHandedTotal

/-! ## Starts -/

/-- The content of a path that may be started. -/
def executable (t : Tree) (p : Path) : Except Failure Bytes :=
  match t.find true p with
  | .error e => .error e
  | .ok e =>
    match e.node with
    | .file content => if e.mode &&& 0o111 == 0 then .error .accessDenied else .ok content
    | _ => .error .accessDenied

/-- Checks that what a file holds can be started: it is a binary, or its interpreter can be started.
The number is how many interpreters may be looked into. -/
def checkContent (t : Tree) : Nat → Bytes → Except Failure Unit
  | interpreters, content =>
    if isBinary content then .ok ()
    else match interpreter? content with
      | none => .error .notExecutableFormat
      | some i =>
        match t.executable i, interpreters with
        | .error e, _ => .error e
        | .ok _, 0 => .error .tooManyLinks
        | .ok content, interpreters + 1 => checkContent t interpreters content

/-- How many interpreters are looked into for one start. -/
def maxInterpreters : Nat := 5

/-- Checks that a path can be started. The file is opened first; then all that is handed over must
fit, and only then what the file holds is looked at. -/
def checkStart (t : Tree) (handed : List Bytes) (p : Path) : Except Failure Unit :=
  match t.executable p with
  | .error e => .error e
  | .ok content =>
    if fits handed then t.checkContent maxInterpreters content else .error .tooMuchHanded

/-- The first outcome of a search that found something, else a refusal that was met on the way, else
the last failure. -/
def firstStart (t : Tree) (handed : List Bytes) (refused : Bool) : List Path → Except Failure Unit
  | [] => .error .noEntry
  | p :: ps =>
    match t.checkStart handed p with
    | .ok _ => .ok ()
    | .error e =>
      let refused := refused || e == .accessDenied
      if !(e == .accessDenied || e == .noEntry || e == .notDirectory) then .error e
      else if ps.isEmpty then .error (if refused then .accessDenied else e)
      else firstStart t handed refused ps

/-- Checks that a command can be started: a command without a slash is looked for in the
directories of a search path, an empty one of which is the working directory. -/
def checkCommand (t : Tree) (handed : List Bytes) (searchPath : Bytes) (command : Path) :
    Except Failure Unit :=
  if command.contains 0 then .error .nulInArgument
  else if command.contains Path.slash then t.checkStart handed command
  else t.firstStart handed false ((Path.splitOn 0x3A searchPath).map (Path.join · command))

end SelfTrace.Files.Tree
