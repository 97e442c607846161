import MountCensus.Collector.Options

/-!
The collector of file stores: in each round the stores that a policy admits, or those of one name,
with the name of the host.
-/

set_option autoImplicit false

namespace MountCensus.Collector.FileStores

open CommandLine

def logger : String := "file_stores"

structure Options extends Collector.Options where
  localOnly : Bool := false
  name : Option String := none
  pathExcludes : List String := []
  pathIncludes : List String := []
  volumeExcludes : List String := []
  volumeIncludes : List String := []

def patternParameter (name key : String) (put : List String → Options → Options) :
    Parameter Options :=
  .ofReader [name] key .repeated (.list []) (fun _ => readTexts) put

def parameters : List (Parameter Options) :=
  (Collector.parameters 300).map (·.within Options.toOptions
    fun common options => { options with toOptions := common }) ++ [
  switchParameter ["--local-only"] "local_only" fun localOnly options => { options with localOnly },
  .ofReader ["--name"] "name" .single .null (fun _ => readText)
    fun name options => { options with name := some name },
  patternParameter "--path-excludes" "path_excludes"
    fun pathExcludes options => { options with pathExcludes },
  patternParameter "--path-includes" "path_includes"
    fun pathIncludes options => { options with pathIncludes },
  patternParameter "--volume-excludes" "volume_excludes"
    fun volumeExcludes options => { options with volumeExcludes },
  patternParameter "--volume-includes" "volume_includes"
    fun volumeIncludes options => { options with volumeIncludes }]

/-- The stores that a round reports. -/
def listing (options : Options) (policy : Policy) (host : Host) : Answer (List Store) :=
  match options.name with
  | none => Enumeration.stores host policy options.localOnly
  | some name => Enumeration.storesNamed host policy name options.localOnly

variable {Surroundings : Type}

def collect (environment : Environment Surroundings) (options : Options) (policy : Policy) :
    Program Surroundings (Option (List Record)) := do
  let stores ← environment.ask (listing options policy)
  let text := "collected " ++ toString stores.length ++ " file stores"
  Program.log logger { level := .info, text }
  return some (stores.map (Record.hostStore · environment.hostName))

def label : Label := ⟨some .log, some .fileStore⟩

def run (environment : Environment Surroundings) (options : Options) :
    Program Surroundings Unit := do
  let settings ← loopSettings logger options.toOptions
  let policy ← Policy.ofSettings options.pathIncludes options.pathExcludes options.volumeIncludes
    options.volumeExcludes
  Collector.run environment settings ⟨collect environment options policy, label⟩

theorem listing_of_name_none {options : Options} (h : options.name = none) (policy : Policy)
    (host : Host) :
    listing options policy host = Enumeration.stores host policy options.localOnly := by
  simp [listing, h]

end MountCensus.Collector.FileStores
