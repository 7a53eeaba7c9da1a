/-!
# Errors

Every operation on a bus, a device or a registry reports failure by one of thirteen causes.  A
cause has a stable negative status code, a wording for people, and the name under which it appears
in documents and scripts.  Success has no cause; its status code is `0`, which no cause uses.

Failures of the operating system are folded into two causes: a missing file is a missing device,
and everything else is an input/output error.
-/

set_option autoImplicit false

namespace BusAccess

/-- Why an operation failed. -/
inductive Error where
  | unknown
  /-- The bus is released, or lacks the requested operation. -/
  | invalidObject
  /-- The handle does not belong to an open device of this bus. -/
  | invalidHandle
  /-- No backend goes by the requested name, or the name is taken. -/
  | invalidName
  | invalidArgument
  | invalidParam
  /-- The transport refused the request. -/
  | backendFailure
  /-- The peer did not acknowledge, or the link dropped in mid-transfer. -/
  | communicationError
  | busy
  | noMemory
  | noDevice
  | ioError
  /-- The connection string is missing or malformed. -/
  | invalidUri
  deriving DecidableEq, Repr

namespace Error

/-- Every cause, in the order of the status codes. -/
def all : List Error :=
  [unknown, invalidObject, invalidHandle, invalidName, invalidArgument, invalidParam,
    backendFailure, communicationError, busy, noMemory, noDevice, ioError, invalidUri]

/-- The list is complete. -/
theorem mem_all (e : Error) : e ∈ all := by cases e <;> decide

/-- The stable status code, negative for every cause. -/
def code : Error → Int
  | unknown => -1
  | invalidObject => -2
  | invalidHandle => -3
  | invalidName => -4
  | invalidArgument => -5
  | invalidParam => -6
  | backendFailure => -7
  | communicationError => -8
  | busy => -9
  | noMemory => -10
  | noDevice => -11
  | ioError => -12
  | invalidUri => -13

/-- The cause with a given status code, if there is one. -/
def ofCode? (code : Int) : Option Error := all.find? fun e ↦ e.code == code

/-- The code of a cause leads back to it. -/
theorem ofCode?_code (e : Error) : ofCode? e.code = some e := by cases e <;> decide

/-- The wording shown to people. -/
def message : Error → String
  | unknown => "unknown error"
  | invalidObject => "invalid object"
  | invalidHandle => "invalid handle"
  | invalidName => "invalid name"
  | invalidArgument => "invalid argument"
  | invalidParam => "invalid parameter"
  | backendFailure => "backend failure"
  | communicationError => "communication error"
  | busy => "busy"
  | noMemory => "not enough memory"
  | noDevice => "no such device"
  | ioError => "I/O error"
  | invalidUri => "invalid URI"

/-- The name in documents and scripts. -/
def name : Error → String
  | unknown => "Unknown"
  | invalidObject => "InvalidObject"
  | invalidHandle => "InvalidHandle"
  | invalidName => "InvalidName"
  | invalidArgument => "InvalidArgument"
  | invalidParam => "InvalidParam"
  | backendFailure => "BackendFailure"
  | communicationError => "CommunicationError"
  | busy => "Busy"
  | noMemory => "NoMemory"
  | noDevice => "NoDevice"
  | ioError => "IoError"
  | invalidUri => "InvalidUri"

/-- The cause of a given name, if there is one. -/
def ofName? (name : String) : Option Error := all.find? fun e ↦ e.name == name

end Error

/-- What the operating system says when it fails: that something is missing, or anything else. -/
inductive SystemFailure where
  | notFound
  | other
  deriving DecidableEq, Repr

namespace SystemFailure

/-- Error number 2 is "no such file or directory". -/
def ofErrno (errno : Int) : SystemFailure := if errno = 2 then notFound else other

/-- The failure of a given kind name. -/
def ofKind (kind : String) : SystemFailure := if kind = "NotFound" then notFound else other

/-- What is missing is a device; every other failure is one of input and output. -/
def error : SystemFailure → Error
  | notFound => .noDevice
  | other => .ioError

end SystemFailure

end BusAccess
