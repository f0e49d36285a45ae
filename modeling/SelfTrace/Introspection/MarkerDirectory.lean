import SelfTrace.Introspection.Introspector

/-!
# Markers in a directory

Properties published as marker files. A property is the file `key=value` in a directory that all
processes of a user share, held open while it is published; a process is looked into by following
the links to the files that it holds open.

The state of one such introspector is its list of published properties with their files
(`Published`). A key is published at most once: publishing it again retracts it first.
-/

namespace SelfTrace

/-- Where markers are made and processes are listed, and the user whose processes count. -/
structure MarkerDirectory where
  dir : Path
  procRoot : Path
  user : Nat := 0
deriving Repr

/-- The published properties by key, each with the path of its file. -/
abbrev Published := List (String × Path)

/-- An entry of the directory of processes: its name, and the user that it belongs to as far as this
can be found out. -/
structure Listed where
  name : Bytes
  owner : Except Failure Nat

/-- The properties of an attached process; none any more after detaching. -/
structure MarkerTable where
  pid : ProcessId
  properties : Option (List (String × String))
deriving Repr

namespace MarkerDirectory

/-- The part of the program that these events come from. -/
def target : String := "perfdbg_core::resolver::procfs"

/-! ## Names of markers -/

/-- The name of the marker of a property. -/
def markerName (key value : String) : String := key ++ "=" ++ value

/-- The property that a marker's name tells: key and value around the first `=`. -/
def splitMarker? (name : List Char) : Option (List Char × List Char) :=
  if name.contains '=' then
    some (name.takeWhile (· != '='), (name.dropWhile (· != '=')).drop 1)
  else none

/-- A property whose marker is a name in the directory that can be told apart again. -/
def expressible (key value : String) : Bool :=
  !key.toList.contains '/' && !key.toList.contains '=' && !value.toList.contains '/'

/-! ## Publishing -/

/-- Withdraws what is published under a key and removes its marker. -/
def retract (key : String) : Act Published Unit := do
  match (← Act.state).find? (·.1 == key) with
  | none => return ()
  | some (_, path) =>
    Act.update (·.filter (·.1 != key))
    match ← Act.change (·.remove path) with
    | .ok _ => return ()
    | .error e =>
      Act.emit ⟨.trace, target, "failed to remove marker: " ++ e.message,
        [("marker", .shown (Text.lossyText path))]⟩

/-- Publishes a property by making its marker. -/
def publish (d : MarkerDirectory) (key value : String) :
    Act Published (Except IntrospectError Unit) := do
  if !expressible key value then
    return .error (.unsupported ("property '" ++ key ++ "' can not be expressed as a marker file"))
  retract key
  match ← Act.alter (·.makeAllDirs d.dir) with
  | .error e => return .error (.os e)
  | .ok _ =>
    let path := Path.join d.dir (Text.octets (markerName key value))
    match ← Act.change (·.write path []) with
    | .error e => return .error (.os e)
    | .ok _ =>
      Act.emit ⟨.trace, target, "marker published", [("marker", .shown (Text.lossyText path))]⟩
      Act.update fun published => published ++ [(key, path)]
      return .ok ()

/-- Withdraws all that is published. -/
def retractAll : Act Published Unit := do
  for (key, _) in ← Act.state do
    retract key

/-! ## Listing processes -/

/-- The process that an entry of a listing stands for: its name is a process id and it belongs to
the user. Processes may end during the scan: an entry that can not be read or examined stands for
none. -/
def processOf? (user : Nat) : Except Failure Listed → Option ProcessId
  | .error _ => none
  | .ok entry => do
    let pid ← ProcessId.parse? (← Text.text? entry.name)
    match entry.owner with
    | .ok owner => if owner == user then some pid else none
    | .error _ => none

/-- The processes that the entries of a listing stand for, ascending. -/
def processesOf (user : Nat) (listing : List (Except Failure Listed)) : List ProcessId :=
  (listing.filterMap (processOf? user)).mergeSort ProcessId.le

/-- The processes of a user in a listing, if there is a listing at all. -/
def candidatesIn (user : Nat) :
    Except Failure (List (Except Failure Listed)) → Except IntrospectError (List ProcessId)
  | .error e => .error (.os e)
  | .ok listing => .ok (processesOf user listing)

/-- The entries of the directory of processes, each with its own owner. -/
def listing (d : MarkerDirectory) (files : Files.Tree) :
    Except Failure (List (Except Failure Listed)) := do
  let entries ← files.examineAll d.procRoot
  return entries.map fun (name, examined) => .ok ⟨name, examined.map (·.owner)⟩

/-- The processes of the user, ascending. -/
def candidates (d : MarkerDirectory) : Act Published (Except IntrospectError (List ProcessId)) :=
  return candidatesIn d.user (d.listing (← get).files)

/-! ## Looking into a process -/

/-- The property that an open file tells: a marker right in the directory. -/
def property? (markerDir : Path) (opened : Path) : Option (String × String) :=
  if Path.parent? opened != some (Path.components markerDir) then none
  else do
    let name ← Text.decode? (← Path.fileName? opened)
    let (key, value) ← splitMarker? name
    return (String.ofList key, String.ofList value)

/-- Puts a property in front of those of the same key. -/
def property (properties : List (String × String)) (p : String × String) :
    List (String × String) := p :: properties.filter (·.1 != p.1)

/-- The properties that the links in a directory tell; of one key, the last counts. -/
def propertiesIn (files : Files.Tree) (markerDir fdDir : Path) (names : List Bytes) :
    List (String × String) :=
  (names.filterMap fun n =>
    match files.readLink (Path.join fdDir n) with
    | .ok opened => property? markerDir opened
    | .error _ => none).foldl property []

/-- Opens the table of a process. -/
def attach (d : MarkerDirectory) (pid : ProcessId) :
    Act Published (Except IntrospectError MarkerTable) := do
  let files := (← get).files
  let fdDir := Path.join (Path.join d.procRoot (Text.octets pid.text)) (Text.octets "fd")
  match files.list fdDir with
  | .error e => return .error (.ofFailure pid e)
  | .ok names =>
    let markerDir := match files.canonical d.dir with
      | .ok p => p
      | .error _ => d.dir
    return .ok ⟨pid, some (propertiesIn files markerDir fdDir names)⟩

/-- The value under a key of a table. -/
def tableGet (t : MarkerTable) (key : String) : Except IntrospectError (Option String) :=
  match t.properties with
  | none => .error (.noSuchProcess t.pid)
  | some properties => .ok ((properties.find? (·.1 == key)).map (·.2))

/-- The introspector of a marker directory. -/
def introspector (d : MarkerDirectory) : Introspector Published MarkerTable where
  publish := d.publish
  retract := retract
  candidates := d.candidates
  attach := d.attach
  get t key := return tableGet t key
  detach t := return ({ t with properties := none }, .ok ())

/-- The directory that is shared by the processes of a user, below the directory for temporary
files. -/
def defaultDir (tempDir : Path) (user : Nat) : Path :=
  Path.join tempDir (Text.octets ("perfdbg-markers-" ++ Text.decimalText user))

end MarkerDirectory

end SelfTrace
