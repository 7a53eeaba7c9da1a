import BusAccess.Error
import BusAccess.Text.Blank

/-!
# Verbosity levels

Five levels, from errors only to everything.  In settings a level is written by name, in either
case and with blanks around it; two of them have a second name.  Names of levels are a vocabulary
of their own, which is not that of filter directives (see `BusAccess.Log.Filter`): directives say
`trace` where a setting may also say `verbose`.
-/

set_option autoImplicit false

namespace BusAccess.Log

/-- How much is reported. -/
inductive Level where
  | error
  | warn
  | info
  | debug
  /-- Per-character detail of connection strings and the like. -/
  | verbose
  deriving DecidableEq, Repr

namespace Level

/-- The place in the order from least to most verbose. -/
def rank : Level → Nat
  | error => 1
  | warn => 2
  | info => 3
  | debug => 4
  | verbose => 5

instance : Ord Level := ⟨fun a b ↦ compare a.rank b.rank⟩

/-- The name by which a level is reported. -/
def name : Level → String
  | error => "Error"
  | warn => "Warn"
  | info => "Info"
  | debug => "Debug"
  | verbose => "Verbose"

/-- The word for a level in filter directives and in reported events. -/
def directive : Level → String
  | error => "error"
  | warn => "warn"
  | info => "info"
  | debug => "debug"
  | verbose => "trace"

/-- The names a setting may use, in lower case. -/
def settings : List (String × Level) :=
  [("error", error), ("warn", warn), ("warning", warn), ("info", info), ("debug", debug),
    ("verbose", verbose), ("trace", verbose)]

/-- Reads a level from a setting, blanks around it and the case of ASCII letters aside. -/
def ofSetting (s : String) : Except Error Level :=
  match settings.lookup (Text.trim s).toLower with
  | some level => .ok level
  | none => .error .invalidArgument

end Level

end BusAccess.Log
