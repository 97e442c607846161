import MountCensus.Collector.Options

/-!
The collector of descriptor counts: how many files are open on the host, and how many may be.
-/

set_option autoImplicit false

namespace MountCensus.Collector.FileDescriptors

def logger : String := "file_descriptors"

def parameters : List (CommandLine.Parameter Options) :=
  Collector.parameters 60

variable {Surroundings : Type}

def collect (environment : Environment Surroundings) :
    Program Surroundings (Option (List Record)) := do
  let (openCount, limit, perProcess) ← environment.ask Enumeration.descriptors
  return some [.descriptors ⟨environment.hostName, openCount, limit, perProcess⟩]

def label : Label := ⟨some .metric, some .fileDescriptors⟩

def run (environment : Environment Surroundings) (options : Options) :
    Program Surroundings Unit := do
  let settings ← loopSettings logger options
  Collector.run environment settings ⟨collect environment, label⟩

end MountCensus.Collector.FileDescriptors
