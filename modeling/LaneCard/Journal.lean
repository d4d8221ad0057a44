/-!
# The journal

What the driver and the simulated card report about their work, as lines with a level.
-/

namespace LaneCard

/-- How serious a line is. -/
inductive Level where
  | error
  | warn
  | info
  | debug
  deriving Repr, DecidableEq

/-- The word a level is shown as. -/
def Level.text : Level → String
  | error => "ERROR"
  | warn => "WARN"
  | info => "INFO"
  | debug => "DEBUG"

/-- A line of the journal. -/
structure Line where
  level : Level
  text : String
  deriving Repr, DecidableEq

/-- A line as it is shown. -/
def Line.render (l : Line) : String := l.level.text ++ " " ++ l.text

/-- The lines of a journal, oldest first. -/
abbrev Journal := Array Line

end LaneCard
