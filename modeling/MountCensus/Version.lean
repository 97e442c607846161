import MountCensus.Text.Blank
import MountCensus.Text.Lines

/-!
The version that a program says it has: what its version file holds, or what it is told by its
environment.
-/

set_option autoImplicit false

namespace MountCensus.Version

def unknown : String := "unknown"

/-- What the version file of this release holds. -/
def released : String := "0.1.0\n"

/-- The version file counts first, without the blanks around its text. -/
def current (file environment : Option String) : String :=
  match file, environment with
  | some text, _ => String.ofList (Text.strip (Text.unifyLineEnds text.toList))
  | none, some version => version
  | none, none => unknown

theorem current_none : current none none = unknown := rfl

end MountCensus.Version
