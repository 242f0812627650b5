import FormEngine.Fault
import FormEngine.Settings

/-!
The level and the names of loggers.
-/

namespace FormEngine

namespace Logging

def levels : List (String × Int) := [
  ("CRITICAL", 50), ("FATAL", 50), ("ERROR", 40), ("WARN", 30), ("WARNING", 30), ("INFO", 20),
  ("DEBUG", 10), ("NOTSET", 0)]

/-- The level for a word in any case; unknown words stand for the ordinary level. -/
def levelOfWord (word : String) : Int := ((levels.lookup (toUpper word))).getD 20

/-- The level that is set up: the one given, or else that of the environment. It is a whole number or
a word. -/
def level (environment : Environment) (given : Value) : Except Fault Value :=
  let v := Setting.logLevel.read environment given
  match v, v.text? with
  | _, some word => .ok (.int (levelOfWord word))
  | .int _, none | .bool _, none => .ok v
  | _, none => .error (.typeMismatch "Level not an integer or a valid string")

/-- Loggers are nested under one that all share. -/
def loggerName (name : Value) : String :=
  if name.truthy then "jsonform." ++ name.display else "jsonform"

end Logging

end FormEngine
