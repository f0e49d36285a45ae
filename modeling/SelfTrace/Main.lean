import SelfTrace.Demo
import SelfTrace.Files.Layout
import SelfTrace.Introspection.MarkerDirectory
import Std.Time.DateTime

/-!
# The demonstration as a program

Reads the environment and the few files that a run of `Demo.run` looks at, lets it run, and writes
its lines. The tool is located but not started: starting it is reported as a function that is not
there.
-/

namespace SelfTrace.Program

/-- What the collaborators of a run keep. -/
structure Keep where
  registry : Metrics.Registry := {}
  published : Published := []

def registry : Part Keep Metrics.Registry := ⟨Keep.registry, fun k r => { k with registry := r }⟩

def published : Part Keep Published := ⟨Keep.published, fun k p => { k with published := p }⟩

/-- An operating system that starts nothing. -/
def noStart : Starter Keep where
  start _ := return .error (.errno 38)
  clock := return []

/-- What the program finds around itself. -/
def host (env : Environment) : Host Keep where
  env := env
  searchPath := (env "PATH").map Text.octets
  probes := standardProbes (return none) (Introspector.on published (MarkerDirectory.introspector
    ⟨MarkerDirectory.defaultDir (Text.octets env.tempDir) 0, Text.octets "/proc", 0⟩))
  os := noStart

/-- The variables that a run looks at. -/
def variableNames : List String := [
  "PATH", "TMPDIR", "TZ", Environment.agentName, Environment.metricsNamespace,
  Environment.agentPath, Environment.scriptOverlay, Environment.logFormat, Environment.logLevel,
  Environment.logZone]

/-- The files that a run looks at: status, tool and script. -/
def files (env : Environment) : List Path :=
  let c := ({} : Config).overlay env
  let tools := c.agentPath.toList ++
    (Path.searched (Text.octets ((env "PATH").getD ""))).map
      (Path.join · (Text.octets c.agentBinary))
  let scripts := c.overlayDir.toList.map (Path.join · (Text.octets c.scriptResource))
  ownStatus :: tools ++ scripts

/-- The environment of the process. -/
def readEnvironment : IO Environment := do
  let mut vars := []
  for name in variableNames do
    match ← IO.getEnv name with
    | some value => vars := (name, value) :: vars
    | none => pure ()
  return Environment.ofList vars

/-- The files that are there and can be read; all of them count as executable. -/
def readFiles (paths : List Path) : IO (List Files.Item) := do
  let mut items := []
  for path in paths do
    try
      let content ← IO.FS.readBinFile (Text.lossyText path)
      items := ⟨path, .file content.toList, some 0o755, none⟩ :: items
    catch _ => pure ()
  return items

/-- Runs the demonstration and answers its exit code. -/
def run : IO UInt32 := do
  let env ← readEnvironment
  let items ← readFiles (files env)
  let temp : Files.Item := ⟨Text.octets env.tempDir, .dir, none, none⟩
  let now := (← Std.Time.Timestamp.now).toNanosecondsSinceUnixEpoch.val.toNat
  let (report, _) := (Demo.run (host env) registry (.error .noEntry) now).runOn
    { state := {}, files := ({} : Files.Tree).layAll (temp :: items)
      tokens := { readings := [now, now] } }
  let stdout ← IO.getStdout
  let stderr ← IO.getStderr
  for line in report.output do stdout.putStrLn line
  for line in report.errors do stderr.putStrLn line
  return UInt32.ofNat report.exit

end SelfTrace.Program

def main : IO UInt32 := SelfTrace.Program.run
