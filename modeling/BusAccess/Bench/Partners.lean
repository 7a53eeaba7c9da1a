import BusAccess.Bench.Basic

/-!
# Simulated partners

The daemon, the adapter and the scripted backends of the bench.  Each call is written down and
takes its outcome from the script; where the script says nothing, calls succeed.  Memory is no
partner of these: a block that is asked for is there.

A daemon numbers devices from zero on each connection.  What a device has to say counts up from a
number that depends on the call, so that every byte of an answer can be told from the others.
-/

set_option autoImplicit false

namespace BusAccess.Bench

/-! ## The daemon -/

/-- The name of a request to the daemon in scripts and journals. -/
def daemonName : Daemon.Request → String
  | .connect _ _ => "pigpio.connect"
  | .openDevice _ _ _ _ => "pigpio.i2c_open"
  | .readDevice _ _ _ => "pigpio.i2c_read"
  | .writeDevice _ _ _ => "pigpio.i2c_write"
  | .closeDevice _ _ => "pigpio.i2c_close"
  | .stop _ => "pigpio.stop"
  | .reserve => "alloc"

/-- A new connection. -/
def newLink : StateM Bench Daemon.Link := do
  let b ← get
  set { b with links := b.links ++ [0] }
  return b.links.length

/-- The next device number of a connection. -/
def nextDevice (link : Daemon.Link) : StateM Bench UInt32 := do
  let b ← get
  set { b with links := b.links.modify link (· + 1) }
  return (b.links[link]?).getD 0

/-- What the daemon answers if the script has an outcome `o`. -/
def settleDaemon (o : Option Outcome) : (q : Daemon.Request) → StateM Bench q.Reply
  | .connect _ _ =>
    match o with
    | some (.fail e) => pure (.error e)
    | _ => Except.ok <$> newLink
  | .openDevice link _ _ _ =>
    match o, Outcome.number? o with
    | some (.fail e), _ => pure (.error e)
    | _, some n => pure (.ok (UInt32.ofNat n.toNat))
    | _, none => Except.ok <$> nextDevice link
  | .readDevice _ handle length =>
    pure (Outcome.settle o ⟨countFor o length, counting handle.toNat length⟩)
  | .writeDevice _ _ _ => pure (Outcome.settle o ())
  | .closeDevice _ _ => pure (Outcome.settle o ())
  | .stop _ => pure ()
  | .reserve => pure true

/-- What the daemon answers. -/
def answerDaemon : (q : Daemon.Request) → StateM Bench q.Reply
  | .reserve => return true
  | q => do
    record (.asked (.daemon q))
    settleDaemon (← outcome (daemonName q)) q

/-! ## The adapter -/

/-- The name of a request to the adapter in scripts and journals. -/
def adapterName : Adapter.Request → String
  | .openAdapter _ _ _ => "mpsse.open"
  | .start => "mpsse.start"
  | .stop => "mpsse.stop"
  | .write _ => "mpsse.write"
  | .getAck => "mpsse.get_ack"
  | .read _ => "mpsse.read"
  | .sendAcks => "mpsse.send_acks"
  | .sendNacks => "mpsse.send_nacks"
  | .setClock _ => "mpsse.set_clock"
  | .close => "mpsse.close"
  | .reserve => "alloc"

/-- Whether an outcome is an acknowledge. -/
def isAck : Option Outcome → Bool
  | some (.succeed v) => v.toBool?.getD true
  | some (.fail _) => false
  | _ => true

/-- What the adapter answers if the script has an outcome `o`. -/
def settleAdapter (o : Option Outcome) : (q : Adapter.Request) → q.Reply
  | .openAdapter _ _ _ => Outcome.settle o ()
  | .start => Outcome.settle o ()
  | .stop => Outcome.settle o ()
  | .write _ => Outcome.settle o ()
  | .getAck => isAck o
  | .read length => Outcome.settle o (counting 0x5a length)
  | .sendAcks => ()
  | .sendNacks => ()
  | .setClock _ => Outcome.settle o ()
  | .close => ()
  | .reserve => true

/-- What the adapter answers. -/
def answerAdapter : (q : Adapter.Request) → StateM Bench q.Reply
  | .reserve => return true
  | q => do
    record (.asked (.adapter q))
    return settleAdapter (← outcome (adapterName q)) q

/-! ## Scripted backends -/

/-- The name of an I2C operation in scripts and journals. -/
def i2cName : I2c.Call → String
  | .openAt _ => "open"
  | .read _ _ => "read"
  | .write _ _ => "write"
  | .close _ => "close"
  | .setFreq _ => "set_freq"
  | .setClockStretch _ => "set_clock_stretch"

/-- The name of an SPI operation in scripts and journals. -/
def spiName : Spi.Call → String
  | .openAt _ => "open"
  | .transfer _ _ _ => "transfer"
  | .close _ => "close"
  | .setSpeed _ => "set_speed"
  | .setMode _ => "set_mode"

/-- The name of a GPIO operation in scripts and journals. -/
def gpioName : Gpio.Call → String
  | .openPin _ _ => "open"
  | .read _ => "read"
  | .write _ _ => "write"
  | .close _ => "close"
  | .setDriveStrength _ _ => "set_drive_strength"

/-- The name of a request to a scripted backend. -/
def scriptName : Scripted.Request → String
  | .create id _ => id ++ ".create"
  | .i2c id c => id ++ "." ++ i2cName c
  | .spi id c => id ++ "." ++ spiName c
  | .gpio id c => id ++ "." ++ gpioName c
  | .release id => id ++ ".release"

/-- A new handle: the one the script gives, or else the number that was opened. -/
def handleFor (o : Option Outcome) (number : Nat) : DeviceHandle :=
  match Outcome.number? o with
  | some n => ⟨Int32.ofInt n⟩
  | none => ⟨Int32.ofNat number⟩

/-- The low byte of a handle. -/
def lowByte (d : DeviceHandle) : Nat := (d.raw.toInt % 256).toNat

/-- What an operation of a scripted I2C backend comes to. -/
def answerI2c (o : Option Outcome) : (c : I2c.Call) → Except Error c.Answer
  | .openAt address => Outcome.settle o (handleFor o address.toNat)
  | .read device length => Outcome.settle o ⟨countFor o length, counting (lowByte device) length⟩
  | .write _ data => Outcome.settle o (countFor o data.length)
  | .close _ => Outcome.settle o ()
  | .setFreq _ => Outcome.settle o ()
  | .setClockStretch _ => Outcome.settle o ()

/-- The receive buffer of a scripted exchange: what was sent, or all ones. -/
def echoed (tx : Option Bytes) (rx : Option Nat) : Bytes :=
  match rx with
  | none => []
  | some length => tx.getD (List.replicate length 0xff)

/-- What an operation of a scripted SPI backend comes to. -/
def answerSpi (o : Option Outcome) : (c : Spi.Call) → Except Error c.Answer
  | .openAt chipSelect => Outcome.settle o (handleFor o chipSelect.toNat)
  | .transfer _ tx rx =>
    let length := (tx.map List.length <|> rx).getD 0
    Outcome.settle o ⟨countFor o length, echoed tx rx⟩
  | .close _ => Outcome.settle o ()
  | .setSpeed _ => Outcome.settle o ()
  | .setMode _ => Outcome.settle o ()

/-- Whether an outcome says that a pin is high. -/
def isHigh : Option Outcome → Bool
  | some (.succeed v) => v.toString? == some Gpio.PinValue.high.name
  | _ => false

/-- What an operation of a scripted GPIO backend comes to. -/
def answerGpio (o : Option Outcome) : (c : Gpio.Call) → Except Error c.Answer
  | .openPin pin _ => Outcome.settle o (handleFor o pin.toNat)
  | .read _ => Outcome.settle o (.ofBool (isHigh o))
  | .write _ _ => Outcome.settle o ()
  | .close _ => Outcome.settle o ()
  | .setDriveStrength _ _ => Outcome.settle o ()

/-- What a scripted backend answers if the script has an outcome `o`. -/
def settleScript (o : Option Outcome) : (q : Scripted.Request) → q.Reply
  | .create _ _ => Outcome.settle o ()
  | .i2c _ c => answerI2c o c
  | .spi _ c => answerSpi o c
  | .gpio _ c => answerGpio o c
  | .release _ => Outcome.settle o ()

/-- What the script makes of a request. -/
def answerScript (q : Scripted.Request) : StateM Bench q.Reply := do
  record (.asked (.script q))
  return settleScript (← outcome (scriptName q)) q

end BusAccess.Bench
