import BusAccess.Adapter.I2c
import BusAccess.Adapter.Identity
import BusAccess.Bench.Basic
import BusAccess.Bench.Files
import BusAccess.Bench.Kernel
import BusAccess.Bench.Partners
import BusAccess.Bench.Run
import BusAccess.Bench.Script
import BusAccess.Block.Boxed
import BusAccess.Block.Heap
import BusAccess.Block.Journal
import BusAccess.Block.Layout
import BusAccess.Bus.Device
import BusAccess.Bus.Gpio
import BusAccess.Bus.I2c
import BusAccess.Bus.Lifecycle
import BusAccess.Bus.Params
import BusAccess.Bus.Scripted
import BusAccess.Bus.Spi
import BusAccess.Config
import BusAccess.Daemon.I2c
import BusAccess.Daemon.Location
import BusAccess.Error
import BusAccess.Json.Library
import BusAccess.Json.Reader
import BusAccess.Json.Record
import BusAccess.Json.Value
import BusAccess.Json.Writer
import BusAccess.Log.Event
import BusAccess.Log.Filter
import BusAccess.Log.Level
import BusAccess.Log.Setup
import BusAccess.Node.Gpio
import BusAccess.Node.I2c
import BusAccess.Node.Kernel
import BusAccess.Node.Location
import BusAccess.Node.Spi
import BusAccess.Platform.Backend
import BusAccess.Platform.Basic
import BusAccess.Platform.Roster
import BusAccess.Platform.Surroundings
import BusAccess.Program
import BusAccess.Proofs.Action
import BusAccess.Proofs.Adapter.Exchange
import BusAccess.Proofs.Adapter.Handles
import BusAccess.Proofs.Adapter.Language
import BusAccess.Proofs.Adapter.Verdict
import BusAccess.Proofs.Adapter.Wire
import BusAccess.Proofs.Block.Allocation
import BusAccess.Proofs.Block.Holding
import BusAccess.Proofs.Block.Memory
import BusAccess.Proofs.Block.Rounding
import BusAccess.Proofs.Book
import BusAccess.Proofs.Bus.Deeds
import BusAccess.Proofs.Bus.Guard
import BusAccess.Proofs.Bus.Invariant
import BusAccess.Proofs.Bus.Methods
import BusAccess.Proofs.Bus.Release
import BusAccess.Proofs.Clock
import BusAccess.Proofs.Config.Numbers
import BusAccess.Proofs.Daemon.Creation
import BusAccess.Proofs.Daemon.Effect
import BusAccess.Proofs.Daemon.Host
import BusAccess.Proofs.Daemon.Language
import BusAccess.Proofs.Daemon.Ledger
import BusAccess.Proofs.Daemon.Life
import BusAccess.Proofs.Daemon.Spelling
import BusAccess.Proofs.Everywhere
import BusAccess.Proofs.Json.Laws
import BusAccess.Proofs.Json.Overlay
import BusAccess.Proofs.Keepers
import BusAccess.Proofs.Log.Agreement
import BusAccess.Proofs.Node.Addresses
import BusAccess.Proofs.Node.Coherence
import BusAccess.Proofs.Node.Creation
import BusAccess.Proofs.Node.Descriptors
import BusAccess.Proofs.Node.Devices
import BusAccess.Proofs.Node.Exchange
import BusAccess.Proofs.Node.Isolation
import BusAccess.Proofs.Node.Language
import BusAccess.Proofs.Node.Pins
import BusAccess.Proofs.Node.Setters
import BusAccess.Proofs.Platform.Connection
import BusAccess.Proofs.Registry.Admission
import BusAccess.Proofs.Registry.Diagnostics
import BusAccess.Proofs.Registry.Dispatch
import BusAccess.Proofs.Registry.History
import BusAccess.Proofs.Registry.Naming
import BusAccess.Proofs.Registry.Routing
import BusAccess.Proofs.Registry.Selection
import BusAccess.Proofs.Trace
import BusAccess.Proofs.Uri.Boundary
import BusAccess.Proofs.Uri.BusNumber
import BusAccess.Proofs.Uri.Bytes
import BusAccess.Proofs.Uri.Capture
import BusAccess.Proofs.Uri.Conversion
import BusAccess.Proofs.Uri.Meaning
import BusAccess.Proofs.Uri.Numeral
import BusAccess.Proofs.Uri.Path
import BusAccess.Proofs.Uri.Reader
import BusAccess.Proofs.Uri.Scan
import BusAccess.Proofs.Weaving
import BusAccess.Registry
import BusAccess.Session.Basic
import BusAccess.Session.Command
import BusAccess.Session.Held
import BusAccess.Text.Alphanumeric
import BusAccess.Text.Blank
import BusAccess.Text.Hidden
import BusAccess.Text.Quoted
import BusAccess.Uri.Cursor
import BusAccess.Uri.Integer
import BusAccess.Uri.Reader
