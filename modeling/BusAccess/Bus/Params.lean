import BusAccess.Json.Library

/-!
# Connection requests

Whoever asks for a bus may name a backend, give a connection string, both or neither.  The rest of
a request is particular to the kind of bus.
-/

set_option autoImplicit false

namespace BusAccess

/-- The part of a request that decides which backend is asked. -/
structure Connect where
  /-- The connection string, such as `mpsse://0403:6014/`. -/
  uri : Option String := none
  /-- The name of a backend, whatever the connection string says. -/
  backend : Option String := none
  deriving DecidableEq, Repr

/-- The three kinds of bus. -/
inductive Kind where
  | i2c
  | spi
  | gpio
  deriving DecidableEq, Repr

namespace Kind

/-- Every kind. -/
def all : List Kind := [i2c, spi, gpio]

/-- The tag of a kind in descriptions. -/
def tag : Kind → String
  | i2c => "i2c"
  | spi => "spi"
  | gpio => "gpio"

end Kind

end BusAccess
