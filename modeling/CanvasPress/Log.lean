/-
# Log lines

What the library reports while it works, as values.
-/

namespace CanvasPress

/-- How urgent a log line is. -/
inductive Level where
  | debug
  | info
  | warn
  | error
deriving DecidableEq, Inhabited

/-- How urgent a level is, in numbers. -/
def Level.rank : Level → Nat
  | .debug => 0
  | .info => 1
  | .warn => 2
  | .error => 3

/-- Whether a log that keeps what is at least as urgent as a level keeps lines of another. -/
def Level.admits (least line : Level) : Bool :=
  least.rank ≤ line.rank

/-- The name of a level. -/
def Level.name : Level → String
  | .debug => "DEBUG"
  | .info => "INFO"
  | .warn => "WARN"
  | .error => "ERROR"

/-- A line of the log. -/
structure LogLine where
  level : Level
  text : String
deriving DecidableEq, Inhabited

namespace LogLine

/-- The line with its level in front. -/
def shown (line : LogLine) : String :=
  line.level.name ++ " " ++ line.text

end LogLine

end CanvasPress
