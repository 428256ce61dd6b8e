/-!
# Log events

What is logged on the way: a level, a message, and named values in the order in which
they were given.
-/

namespace DeclSynth

/-- How important an event is. -/
inductive Level where
  | trace
  | debug
  | warn
deriving DecidableEq, Repr

/-- What logs call a level. -/
def Level.tag : Level → String
  | trace => "TRACE"
  | debug => "DEBUG"
  | warn => "WARN"

/-- An entry of the log. -/
structure Event where
  level : Level
  message : String
  fields : List (String × String)
deriving DecidableEq, Repr

end DeclSynth
