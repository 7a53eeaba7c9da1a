import BusAccess.Log.Level

/-!
# Events

What the library tells an operator beside its results: a level and a message.  What else an event
carries is kept where neither the message nor the request before it tells what the event is about.
-/

set_option autoImplicit false

namespace BusAccess.Log

/-- One reported event. -/
structure Event where
  /-- How grave it is. -/
  level : Level
  /-- What happened. -/
  message : String
  /-- What the event is about, by name. -/
  fields : List (String × String) := []
  deriving DecidableEq, Repr

namespace Event

def error (message : String) : Event := { level := .error, message }
def warn (message : String) (fields : List (String × String) := []) : Event :=
  { level := .warn, message, fields }
def info (message : String) : Event := { level := .info, message }
def debug (message : String) : Event := { level := .debug, message }

end Event

end BusAccess.Log
