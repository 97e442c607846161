import MountCensus.Delivery
import MountCensus.Program
import MountCensus.Settings.DotList
import MountCensus.Sink.Options

/-!
Kinds of sinks under the names by which they are asked for, and making a sink of a kind with options
given as settings.
-/

set_option autoImplicit false

namespace MountCensus

/-- What takes batches. -/
abbrev Sink (Surroundings : Type) := Batch → Label → Program Surroundings Unit

namespace Sink

variable {Surroundings : Type}

/-- A kind of sink. Without a signature it takes no options at all; without a way to write, what it
makes is no sink. -/
structure Kind (Surroundings : Type) where
  className : String
  home : String
  signature : Option (List Parameter)
  make : List (String × Value) → Program Surroundings (Option (Sink Surroundings))

abbrev Registry (Surroundings : Type) := List (String × Kind Surroundings)

/-- The full names of the modules in which kinds of sinks may register themselves. What has no
members is no package. -/
def modulesOf (package : String) : Option (List String) → Except Failure (List String)
  | some members => .ok (members.map fun member => package ++ "." ++ member)
  | none => .error ⟨.runtime, package ++ " is not a package"⟩

def alreadyRegistered (name : String) (home className : String) : Failure :=
  ⟨.runtime,
    "'" ++ name ++ "' is already registered to <class '" ++ home ++ "." ++ className ++ "'>"⟩

/-- The registry with one more kind; a name is given once. -/
def Registry.register (registry : Registry Surroundings) (name : String)
    (kind : Kind Surroundings) : Except Failure (Registry Surroundings) :=
  match registry.lookup name with
  | some former => .error (alreadyRegistered name former.home former.className)
  | none => .ok (registry ++ [(name, kind)])

def notFound (name : String) (registry : Registry Surroundings) : Failure :=
  ⟨.usage, "Sink '" ++ name ++
    "' could not be found. Here are the sinks that are registered:\n\t" ++
    Text.quotedList (registry.map (·.1))⟩

def noSink (name home : String) : Failure :=
  ⟨.delivery, "Sink '" ++ name ++ "' defined in\n\t" ++ home ++
    "\ndoes not appear to implement SinkImpl"⟩

/-- Why options do not fit a kind of sink, if they do not. -/
def Kind.refusal? (kind : Kind Surroundings) (given : List String) : Option String :=
  match kind.signature with
  | some parameters => Sink.refusal? kind.className parameters given
  | none => if given.isEmpty then none else some (kind.className ++ "() takes no arguments")

def Kind.parameters (kind : Kind Surroundings) : List Parameter :=
  kind.signature.getD []

/-- The refusal of options, explained if it can be. -/
def refused (name : String) (kind : Kind Surroundings) (given : List String) (refusal : String) :
    Failure :=
  match explain refusal name kind.parameters given with
  | some text => ⟨.usage, text⟩
  | none => ⟨.type, refusal⟩

/-- A sink of the named kind. -/
def Registry.open' (registry : Registry Surroundings) (name : String) (settings : List String) :
    Program Surroundings (Sink Surroundings) := do
  let some kind := registry.lookup name | throw (notFound name registry)
  let options ← Settings.ofDotList settings
  let given := options.map (·.1)
  match kind.refusal? given with
  | some refusal => throw (refused name kind given refusal)
  | none =>
    let arguments ← arguments kind.parameters options
    let some sink ← kind.make arguments | throw (noSink name kind.home)
    return sink

theorem Registry.register_of_lookup_none {registry : Registry Surroundings} {name : String}
    (h : registry.lookup name = none) (kind : Kind Surroundings) :
    registry.register name kind = .ok (registry ++ [(name, kind)]) := by
  simp [register, h]

end Sink

end MountCensus
