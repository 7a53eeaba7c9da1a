import BusAccess.Config
import BusAccess.Log.Filter

/-!
# Setting up the log

Which filter applies: that of a given setting, that of a configuration, or that of the environment
variable.  A setting and a configuration may name a level of the library's own vocabulary; the
variable on its own holds directives and nothing else.  How directives are read is a matter of their
own, so it can be put in another way.

Printing can be set up once.  Whether it already is, is up to the surrounding program.
-/

set_option autoImplicit false

namespace BusAccess.Log

/-- The filter of a setting, or without one that of the environment. -/
def chooseFilter (setting : Option String) (environment : String → Option String)
    (read : String → Filter := .ofDirectives) : Filter :=
  match setting with
  | some s => .ofSetting s read
  | none => read ((environment Config.logVariable).getD "")

/-- The filter of a configuration. -/
def configFilter (c : Config) (read : String → Filter := .ofDirectives) : Filter :=
  .ofSetting (c.log.getD "info") read

/-- Installs a filter, unless one is installed already. -/
def install (installed : Option Filter) (f : Filter) : Except Error Filter :=
  match installed with
  | some _ => .error .busy
  | none => .ok f

/-- Installs the filter of the environment if nothing is installed, and leaves it at that
otherwise. -/
def start (installed : Option Filter) (environment : String → Option String) : Filter :=
  match install installed (chooseFilter none environment) with
  | .ok f => f
  | .error _ => installed.getD {}

end BusAccess.Log
