import EventScript.Text.Basic

/-!
Log records.
-/
namespace EventScript

namespace Log

inductive Level where
  | debug
  | info
  | warning
  | error
  deriving DecidableEq

def Level.name : Level → String
  | .debug => "DEBUG"
  | .info => "INFO"
  | .warning => "WARNING"
  | .error => "ERROR"

/-- The part of the program that speaks. -/
inductive Speaker where
  | conversion
  | commandLine

def Speaker.name : Speaker → String
  | .conversion => "cmd2py.pipeline"
  | .commandLine => "commands2py"

structure Record where
  level : Level
  speaker : Speaker
  message : Text

/-- A record as a line of a log. -/
def Record.line (r : Record) : Text :=
  Text.ofString r.level.name ++ " " ++ Text.ofString r.speaker.name ++ ": " ++ r.message ++
    [CodePoint.newline]

end Log

end EventScript
