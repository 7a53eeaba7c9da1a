import BusAccess.Adapter.I2c
import BusAccess.Bus.Scripted
import BusAccess.Daemon.I2c
import BusAccess.Node.Kernel

/-!
# The surroundings of a platform

Everything that any backend may ask of anyone: the client library of the daemon, the adapter, the
kernel, and the script of scripted backends.
-/

set_option autoImplicit false

namespace BusAccess.Surroundings

/-- What is asked. -/
inductive Request where
  | daemon (q : Daemon.Request)
  | adapter (q : Adapter.Request)
  | kernel (q : Node.Request)
  | script (q : Scripted.Request)
  deriving DecidableEq, Repr

/-- What a request is answered with. -/
abbrev Request.Reply : Request → Type
  | daemon q => q.Reply
  | adapter q => q.Reply
  | kernel q => q.Reply
  | script q => q.Reply

/-- What any backend can ask, and the answers. -/
abbrev interface : Interface := ⟨Request, Request.Reply⟩

/-- Passes a request of the daemon's backend on. -/
def daemon (q : Daemon.Request) : Program interface q.Reply := .ask (.daemon q) .done

/-- Passes a request of the adapter's backend on. -/
def adapter (q : Adapter.Request) : Program interface q.Reply := .ask (.adapter q) .done

/-- Passes a request to the kernel on. -/
def kernel (q : Node.Request) : Program interface q.Reply := .ask (.kernel q) .done

/-- Passes a request of a scripted backend on. -/
def script (q : Scripted.Request) : Program interface q.Reply := .ask (.script q) .done

end BusAccess.Surroundings
