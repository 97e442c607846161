import MountCensus.Child
import MountCensus.Host
import MountCensus.Text.Integer

/-!
A host written down: what its commands printed, what its files held and how large its file systems
were at one moment. A mark and a space begin an answer, whose lines follow; a host that is given by
its transcript answers from it alone.
-/

set_option autoImplicit false

namespace MountCensus

structure Transcript where
  hostName : String := ""
  time : Int := 0
  outputs : List (String × List String) := []
  files : List (String × List String) := []
  capacities : List (String × Capacity) := []

namespace Transcript

/-- Marks of the lines that begin an answer. -/
def marks : List Char := ['$', '<', '=', '#', '@']

def isHeading (line : String) : Bool :=
  match line.toList with
  | mark :: ' ' :: _ => marks.contains mark
  | _ => false

/-- The path and the sizes in a line about a file system: all of it, what is free, and what of that
can be used. -/
def capacityOf? (text : String) : Option (String × Capacity) :=
  match Text.fields text.toList with
  | [path, total, free, usable] => do
    let total ← Text.integer? (String.ofList total)
    let free ← Text.integer? (String.ofList free)
    let usable ← Text.integer? (String.ofList usable)
    return (String.ofList path, ⟨true, total, free, usable⟩)
  | _ => none

/-- One more answer: its heading and the lines below it. -/
def add (transcript : Transcript) (heading : String) (lines : List String) : Transcript :=
  let subject := String.ofList (heading.toList.drop 2)
  match heading.toList.head? with
  | some '$' => { transcript with outputs := transcript.outputs ++ [(subject, lines)] }
  | some '<' => { transcript with files := transcript.files ++ [(subject, lines)] }
  | some '=' =>
    { transcript with capacities := transcript.capacities ++ (capacityOf? subject).toList }
  | some '#' => { transcript with hostName := subject }
  | some '@' => { transcript with time := (Text.integer? subject).getD 0 }
  | _ => transcript

/-- The transcript of lines, read from the last one on: what no heading has been found for yet, and
the answers behind it. -/
def sections : List String → List String × List (String × List String)
  | [] => ([], [])
  | line :: rest =>
    let (pending, found) := sections rest
    if isHeading line then ([], (line, pending) :: found) else (line :: pending, found)

def ofLines (lines : List String) : Transcript :=
  (sections lines).2.foldl (fun transcript (heading, body) => transcript.add heading body) {}

/-- The host as it answers from its transcript. A command that is not in it is not found. -/
def host (transcript : Transcript) : Host where
  run words :=
    match transcript.outputs.lookup (" ".intercalate words) with
    | some lines => .ok lines
    | none => Child.lines words "" 0 .notFound
  firstLine command := .ok (((transcript.outputs.lookup command).bind (·.head?)).getD "")
  readLines path := .ok ((transcript.files.lookup path).getD [])
  probe path := (transcript.capacities.lookup path).getD .unreachable

theorem sections_nil : sections [] = ([], []) := rfl

theorem host_probe (transcript : Transcript) (path : String) :
    transcript.host.probe path = (transcript.capacities.lookup path).getD .unreachable := rfl

end Transcript

end MountCensus
