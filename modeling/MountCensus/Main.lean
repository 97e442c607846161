import MountCensus.CommandLine.Application
import MountCensus.Host.Transcript
import MountCensus.Sink.Shipped
import MountCensus.Version

/-!
The program: its standard input is the transcript of a host, its words are options and the name of a
collector. A transcript knows the host at one moment, so that there is one round of collection.
-/

set_option autoImplicit false

open MountCensus

/-- The surroundings of a run on a transcript, in which no time passes. -/
def transcriptEnvironment (transcript : Transcript) (version : String) : Environment Unit where
  hostName := transcript.hostName
  host := pure transcript.host
  asked _ := pure ()
  clock := ⟨pure (.whole 0), pure transcript.time, fun _ => pure ()⟩
  pauseFor _ := pure ()
  detach := pure ()
  registry := Sink.shipped
  version
  limit := 1

/-- The paths that words may name: themselves, and what stands behind their equals sign. -/
def pathsOf (words : List String) : List String :=
  (words ++ words.filterMap fun word => (CommandLine.splitValue word.toList).2).eraseDups

def readInput : IO (List String) := do
  let text ← (← IO.getStdin).readToEnd
  return (Text.lines (Text.unifyLineEnds text.toList)).map String.ofList

/-- The files among the given paths with their texts. -/
def readFiles (paths : List String) : IO (List (String × String)) := do
  let mut files := []
  for path in paths do
    try
      files := files ++ [(path, ← IO.FS.readFile path)]
    catch _ => pure ()
  return files

/-- Writes what a run has left: a file that was read is replaced, any other one is continued. -/
def writeFiles (known : List (String × String)) (disk : Disk) : IO Unit := do
  let found := known.map fun (path, _) => (Location.ofPath path).path
  for (location, file) in disk.names do
    let path := location.path
    let directory := Log.directoryOf path
    unless directory.isEmpty do IO.FS.createDirAll directory
    if found.contains path then IO.FS.writeFile path (disk.content file)
    else IO.FS.withFile path .append fun handle => handle.putStr (disk.content file)

def main (words : List String) : IO UInt32 := do
  let version := Version.current (some Version.released) (← IO.getEnv "FSMON_VERSION")
  let transcript := Transcript.ofLines (← readInput)
  let known ← readFiles ("/etc/fsmon/config.toml" :: pathsOf words)
  let disk := known.foldl (fun disk (path, text) => disk.withFile path text) {}
  let program := CommandLine.run (transcriptEnvironment transcript version) words
  let (result, world) := program.outcome { output := { disk }, surroundings := () }
  IO.print world.output.printed
  writeFiles known world.output.disk
  match result with
  | .ok () => return 0
  | .error failure =>
    IO.eprintln ("Error: " ++ failure.text)
    return (CommandLine.exitCode failure).toUInt32
