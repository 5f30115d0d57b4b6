/-!
# Log lines

A log line has a level, a message and named fields, all of them texts.
-/

namespace AuthChain

/-- How much a log line matters. -/
inductive LogLevel where
  | trace
  | debug
  | info
  | warn
  deriving DecidableEq, Repr

/-- The level's name. -/
def LogLevel.name : LogLevel → String
  | trace => "trace"
  | debug => "debug"
  | info => "info"
  | warn => "warn"

/-- One line of a log. -/
structure LogLine where
  level : LogLevel
  message : String
  fields : List (String × String)
  deriving DecidableEq, Repr

end AuthChain
