import MountCensus.Failure
import MountCensus.Number.Shortest

/-!
Values of settings whose type is known only when they are read: what a table of a configuration file
or an option of a destination may hold, how such a value is shown, and which integer it stands for.
-/

set_option autoImplicit false

namespace MountCensus

structure Date where
  year : Nat
  month : Nat
  day : Nat
deriving DecidableEq, Repr

structure TimeOfDay where
  hour : Nat
  minute : Nat
  second : Nat
  microsecond : Nat
deriving DecidableEq, Repr

/-- A date, a time, or both, perhaps with a distance from universal time in minutes. -/
inductive Moment where
  | date (date : Date)
  | time (time : TimeOfDay)
  | dateTime (date : Date) (time : TimeOfDay) (offset : Option Int)
deriving DecidableEq, Repr

inductive Value where
  | null
  | bool (b : Bool)
  | int (n : Int)
  | float (x : Double)
  | text (s : String)
  | moment (m : Moment)
  | list (items : List Value)
  | table (entries : List (String × Value))
deriving Repr, Inhabited

def paddedNumber (width n : Nat) : String :=
  String.ofList (Double.padded (Nat.toDigits 10 n) width)

def Date.text (date : Date) : String :=
  paddedNumber 4 date.year ++ "-" ++ paddedNumber 2 date.month ++ "-" ++ paddedNumber 2 date.day

def Date.arguments (date : Date) : List Nat :=
  [date.year, date.month, date.day]

def TimeOfDay.text (time : TimeOfDay) : String :=
  paddedNumber 2 time.hour ++ ":" ++ paddedNumber 2 time.minute ++ ":" ++
    paddedNumber 2 time.second ++
    (if time.microsecond = 0 then "" else "." ++ paddedNumber 6 time.microsecond)

/-- Seconds are left out when they are zero, hours and minutes never are. -/
def TimeOfDay.arguments (time : TimeOfDay) : List Nat :=
  [time.hour, time.minute] ++
    if time.microsecond ≠ 0 then [time.second, time.microsecond]
    else if time.second ≠ 0 then [time.second] else []

def offsetText (minutes : Int) : String :=
  (if minutes < 0 then "-" else "+") ++ paddedNumber 2 (minutes.natAbs / 60) ++ ":" ++
    paddedNumber 2 (minutes.natAbs % 60)

namespace Moment

def text : Moment → String
  | .date d => d.text
  | .time t => t.text
  | .dateTime d t offset =>
    d.text ++ " " ++ t.text ++ (offset.map offsetText).getD ""

def typeName : Moment → String
  | .date _ => "datetime.date"
  | .time _ => "datetime.time"
  | .dateTime .. => "datetime.datetime"

/-- A distance from universal time as days and seconds, the seconds not negative. -/
def shownOffset (minutes : Int) : String :=
  if minutes = 0 then "datetime.timezone.utc"
  else
    let days := Int.fdiv minutes 1440
    let seconds := (minutes - days * 1440) * 60
    let parts := (if days = 0 then [] else ["days=" ++ toString days]) ++
      (if seconds = 0 then [] else ["seconds=" ++ toString seconds])
    "datetime.timezone(datetime.timedelta(" ++ ", ".intercalate parts ++ "))"

def shown (moment : Moment) : String :=
  let arguments := match moment with
    | .date d => d.arguments.map toString
    | .time t => t.arguments.map toString
    | .dateTime d t offset =>
      (d.arguments ++ t.arguments).map toString ++
        (offset.map fun minutes => "tzinfo=" ++ shownOffset minutes).toList
  moment.typeName ++ "(" ++ ", ".intercalate arguments ++ ")"

end Moment

namespace Value

/-- The name of a value's type in messages. -/
def typeName : Value → String
  | .null => "None"
  | .bool _ => "bool"
  | .int _ => "int"
  | .float _ => "float"
  | .text _ => "str"
  | .moment m => m.typeName
  | .list _ => "list"
  | .table _ => "dict"

/-- The name of the type in messages about a value that is asked for something it does not have. -/
def className : Value → String
  | .null => "NoneType"
  | value => value.typeName

mutual

/-- A value as it is shown inside of others. -/
def shown : Value → String
  | .null => "None"
  | .bool b => if b then "True" else "False"
  | .int n => toString n
  | .float x => x.text
  | .text s => Text.quoted s
  | .moment m => m.shown
  | .list items => "[" ++ ", ".intercalate (shownItems items) ++ "]"
  | .table entries => "\x7b" ++ ", ".intercalate (shownEntries entries) ++ "\x7d"

def shownItems : List Value → List String
  | [] => []
  | item :: rest => item.shown :: shownItems rest

def shownEntries : List (String × Value) → List String
  | [] => []
  | (key, value) :: rest => (Text.quoted key ++ ": " ++ value.shown) :: shownEntries rest

end

/-- A value as a text by itself. -/
def asText : Value → String
  | .text s => s
  | .moment m => m.text
  | value => value.shown

/-- The integer a value stands for, if any; a fraction is cut off. Infinity is not taken for a value
without an integer but refused. -/
def integer? : Value → Except Failure (Option Int)
  | .bool b => .ok (some (if b then 1 else 0))
  | .int n => .ok (some n)
  | .text s => .ok (Text.integer? s)
  | .float (.infinite _) => .error ⟨.overflow, "cannot convert float infinity to integer"⟩
  | .float x => .ok x.truncate?
  | _ => .ok none

def integerOr (default : Int) (value : Value) : Except Failure Int :=
  return (← value.integer?).getD default

/-- The entries of a table; no other value will do. -/
def entries? : Value → Except Failure (List (String × Value))
  | .table entries => .ok entries
  | value => .error
    ⟨.argumentType, "the return value (" ++ value.typeName ++ ") is not a dict"⟩

theorem integer?_text (s : String) : (Value.text s).integer? = .ok (Text.integer? s) := rfl

end Value

end MountCensus
