import MountCensus.Text.Quoted

/-!
What can go wrong while a host is asked or a batch is delivered: a kind, which decides how the
failure is treated, and a text. A destination may ask for another attempt by failing in a way of its
own.
-/

set_option autoImplicit false

namespace MountCensus

namespace Failure

inductive Kind where
  | retry
  | outOfRetries
  | value
  | undecodable
  | key
  | type
  | index
  | assertion
  | overflow
  | runtime
  | timeout
  | argumentType
  | usage
  | badParameter
  | noSuchOption
  | noSuchCommand
  | optionUsage
  | noArguments
  | attribute
  | delivery
  | stopped
  /-- A kind of another name, which may be one that says that a value was not acceptable. -/
  | other (name : String) (isValue : Bool)
deriving DecidableEq, Repr

/-- The name of a kind in logs. -/
def Kind.name : Kind → String
  | .retry => "Retry"
  | .outOfRetries => "OutOfRetries"
  | .value => "ValueError"
  | .undecodable => "UnicodeDecodeError"
  | .key => "KeyError"
  | .type => "TypeError"
  | .index => "IndexError"
  | .assertion => "AssertionError"
  | .overflow => "OverflowError"
  | .runtime => "RuntimeError"
  | .timeout => "TimeoutExpired"
  | .argumentType => "TypeCheckError"
  | .usage => "UsageError"
  | .badParameter => "BadParameter"
  | .noSuchOption => "NoSuchOption"
  | .noSuchCommand => "NoSuchCommand"
  | .optionUsage => "BadOptionUsage"
  | .noArguments => "NoArgsIsHelpError"
  | .attribute => "AttributeError"
  | .delivery => "ClickException"
  | .stopped => "StopLoop"
  | .other name _ => name

def Kind.all : List Kind := [
  .retry, .outOfRetries, .value, .undecodable, .key, .type, .index, .assertion, .overflow, .runtime,
  .timeout, .argumentType, .usage, .badParameter, .noSuchOption, .noSuchCommand, .optionUsage,
  .noArguments, .attribute, .delivery, .stopped]

/-- Whether a failure says that a command was used in a wrong way. -/
def Kind.isMisuse : Kind → Bool
  | .usage | .badParameter | .noSuchOption | .noSuchCommand | .optionUsage | .noArguments => true
  | _ => false

/-- The names of further kinds that say that a value was not acceptable. -/
def valueNames : List String := [
  "UnicodeError", "UnicodeEncodeError", "UnicodeTranslateError", "JSONDecodeError",
  "UnsupportedOperation"]

def Kind.ofName (name : String) : Kind :=
  (Kind.all.find? (·.name == name)).getD (.other name (valueNames.contains name))

/-- Whether a failure says that a value was not acceptable. -/
def Kind.isValue : Kind → Bool
  | .value | .undecodable => true
  | .other _ isValue => isValue
  | _ => false

theorem Kind.name_ofName (name : String) : (Kind.ofName name).name = name := by
  unfold ofName
  cases h : Kind.all.find? (·.name == name) with
  | none => rfl
  | some kind => simpa using List.find?_some h

end Failure

structure Failure where
  kind : Failure.Kind
  text : String
deriving DecidableEq, Repr

namespace Failure

/-- A failure with an optional text. A missing key is shown in quotation marks. -/
def ofScript (kind : Kind) : Option String → Failure
  | none => ⟨kind, ""⟩
  | some text => ⟨kind, if kind = .key then Text.quoted text else text⟩

/-- The failure as an entry of a log: its kind and its text, even an empty one. -/
def entry (failure : Failure) : String :=
  failure.kind.name ++ ": " ++ failure.text

end Failure

end MountCensus
