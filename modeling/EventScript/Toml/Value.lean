import EventScript.Number.Shortest
import EventScript.Text.Numeral
import EventScript.Text.Quoted

/-!
Values of TOML documents. Besides texts, numbers, truth values, lists and tables they may be dates
and times. A day always is one of the calendar and a time one of a clock.
-/
namespace EventScript

namespace Toml

def isLeapYear (year : Nat) : Bool := (year % 4 = 0 && year % 100 ≠ 0) || year % 400 = 0

/-- The number of days in a month. -/
def daysIn (year month : Nat) : Nat :=
  if month = 2 then if isLeapYear year then 29 else 28
  else if month = 4 ∨ month = 6 ∨ month = 9 ∨ month = 11 then 30
  else 31

/-- A day of the calendar. -/
structure Date where
  year : Nat
  month : Nat
  day : Nat
  year_pos : 0 < year
  month_mem : 1 ≤ month ∧ month ≤ 12
  day_mem : 1 ≤ day ∧ day ≤ daysIn year month

/-- The day with given numbers, if there is one. -/
def Date.ofNumbers? (year month day : Nat) : Option Date :=
  if h : 0 < year ∧ (1 ≤ month ∧ month ≤ 12) ∧ 1 ≤ day ∧ day ≤ daysIn year month then
    some ⟨year, month, day, h.1, h.2.1, h.2.2⟩
  else none

/-- A time of the day, to the millionth of a second. -/
structure Time where
  hour : Fin 24
  minute : Fin 60
  second : Fin 60
  micro : Fin 1000000

/-- The distance of a local time from the universal one, in minutes. -/
structure Offset where
  minutes : Int
  isLess : minutes.natAbs < 24 * 60

/-- A date, a time, or both, then perhaps with their distance from universal time. -/
inductive Moment where
  | date (d : Date)
  | time (t : Time)
  | dateTime (d : Date) (t : Time) (offset : Option Offset)

inductive Value where
  | str (t : Text)
  | int (n : Int)
  | float (x : Double)
  | bool (b : Bool)
  | moment (m : Moment)
  | arr (items : List Value)
  | table (fields : List (Text × Value))

/-! ### Values as messages show them -/

def Date.parts (d : Date) : List Nat := [d.year, d.month, d.day]

/-- The numbers of a time; seconds and their fraction are left out if nothing but zeros follows. -/
def Time.parts (t : Time) : List Nat :=
  if t.micro.val ≠ 0 then [t.hour, t.minute, t.second, t.micro]
  else if t.second.val ≠ 0 then [t.hour, t.minute, t.second]
  else [t.hour, t.minute]

/-- An offset as messages show it: one to the west is a day less and some seconds. -/
def Offset.display (offset : Offset) : Text :=
  let seconds := offset.minutes * 60
  if seconds = 0 then "datetime.timezone.utc"
  else
    let days : Text := if seconds < 0 then "days=-1, " else []
    "datetime.timezone(datetime.timedelta(" ++ days ++ "seconds=" ++
      Text.ofInt (seconds % 86400) ++ "))"

/-- A call with its arguments, as messages show a date or a time. -/
def callText (name : String) (arguments : List Text) : Text :=
  name ++ "(" ++ Text.join ", " arguments ++ ")"

def Moment.display : Moment → Text
  | .date d => callText "datetime.date" (d.parts.map Text.ofNat)
  | .time t => callText "datetime.time" (t.parts.map Text.ofNat)
  | .dateTime d t offset =>
    let place (offset : Offset) : Text := "tzinfo=" ++ offset.display
    callText "datetime.datetime" ((d.parts ++ t.parts).map Text.ofNat ++ offset.toList.map place)

namespace Value

mutual

/-- A value as messages show it. -/
def display : Value → Text
  | .str t => t.display
  | .int n => Text.ofInt n
  | .float x => x.text
  | .bool b => if b then "True" else "False"
  | .moment m => m.display
  | .arr items => "[" ++ Text.join ", " (displayItems items) ++ "]"
  | .table fields => "\x7b" ++ Text.join ", " (displayFields fields) ++ "\x7d"
  termination_by structural v => v

def displayItems : List Value → List Text
  | [] => []
  | v :: rest => display v :: displayItems rest
  termination_by structural v => v

def displayFields : List (Text × Value) → List Text
  | [] => []
  | (k, v) :: rest => (k.display ++ ": " ++ display v) :: displayFields rest
  termination_by structural v => v

end

end Value

end Toml

end EventScript
