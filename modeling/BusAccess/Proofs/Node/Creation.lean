import BusAccess.Node.Gpio
import BusAccess.Node.I2c
import BusAccess.Node.Spi
import BusAccess.Proofs.Bus.Methods

/-!
# How a bus of the machine is made

The three kinds of bus of the machine itself are made alike.  A connection string that is not
accepted is refused before anything is asked.  Otherwise one request shows whether the bus is there:
whether its node exists, which names stand in the directory of nodes, or whether pins can be
claimed.  A bus that is there is made if there is memory for it.

`Making` lists what can come of this for any such request, and each kind is one instance of it
(`I2c.making_of_create`, `Spi.making_of_create`, `Gpio.making_of_create`).  Everything that is said
elsewhere about how a bus is made goes by these.
-/

set_option autoImplicit false

namespace BusAccess.Node

open Log (Event)
open Program (Trace)

/-- What can come of making `bus`.  It is there if the reply to `q` is one that shows it, its being
`missing` is reported, and so is that it is made. -/
inductive Making {σ : Type} (q : Request) (shows : q.Reply → Prop) (missing : Event)
    (announced : List Event) (bus : Bus σ) : Trace interface → Except Error (Bus σ) → Prop
  | absent {reply : q.Reply} (hs : ¬ shows reply) :
      Making q shows missing announced bus [.asked q reply, .reported missing] (.error .noDevice)
  /-- There is no memory for the bus. -/
  | outOfMemory {reply : q.Reply} (hs : shows reply) :
      Making q shows missing announced bus
        [.asked q reply, .asked .reserve false, .reported (.error "object allocation failed")]
        (.error .noMemory)
  | made {reply : q.Reply} (hs : shows reply) :
      Making q shows missing announced bus
        (.asked q reply :: .asked .reserve true :: announced.map .reported) (.ok bus)

section Making

variable {σ : Type} {q : Request} {shows : q.Reply → Prop} {missing : Event}
  {announced : List Event} {bus : Bus σ} {t : Trace interface} {r : Except Error (Bus σ)}

/-- A bus is only made as the one that was meant to be. -/
theorem Making.eq_of_ok {b : Bus σ} (h : Making q shows missing announced bus t (.ok b)) :
    b = bus := by
  cases h
  rfl

/-- A bus that there may be no memory for is made as it would be otherwise, or not at all. -/
theorem runs_withMemory {made : Program interface (Except Error (Bus σ))}
    (h : (withMemory made).Runs t r) :
    (∃ u, t = .asked .reserve true :: u ∧ made.Runs u r) ∨
      t = [.asked .reserve false, .reported (.error "object allocation failed")] ∧
        r = .error .noMemory := by
  obtain ⟨granted, u, rfl, h₁⟩ := Program.runs_ask.1 h
  cases granted with
  | true => exact .inl ⟨u, rfl, h₁⟩
  | false =>
    obtain ⟨rfl, v, rfl, h₂⟩ := Bus.runs_outOfMemory.1 h₁
    obtain ⟨rfl, -⟩ := Program.runs_done.1 h₂
    exact .inr ⟨rfl, rfl⟩

/-- A bus that is there is made, or there is no memory for it. -/
theorem making_of_shown {reply : q.Reply} (hs : shows reply)
    {made : Program interface (Except Error (Bus σ))}
    (hmade : ∀ {u r}, made.Runs u r → u = announced.map .reported ∧ r = .ok bus)
    (h : (withMemory made).Runs t r) :
    Making q shows missing announced bus (.asked q reply :: t) r := by
  obtain ⟨u, rfl, hu⟩ | ⟨rfl, rfl⟩ := runs_withMemory h
  · obtain ⟨rfl, rfl⟩ := hmade hu
    exact .made hs
  · exact .outOfMemory hs

/-- What is not there is reported, and there is no device. -/
theorem making_of_absent {reply : q.Reply} (hs : ¬ shows reply)
    (h : (Program.report missing (.done (.error .noDevice)) : Program interface _).Runs t r) :
    Making q shows missing announced bus (.asked q reply :: t) r := by
  obtain ⟨u, rfl, hu⟩ := Program.runs_report.1 h
  obtain ⟨rfl, rfl⟩ := Program.runs_done.1 hu
  exact .absent hs

/-- A bus is made with an announcement, or with none. -/
theorem runs_announced {e : Event} {u : Trace interface}
    (h : (Program.report e (.done (.ok bus)) : Program interface _).Runs u r) :
    u = [e].map .reported ∧ r = .ok bus := by
  obtain ⟨v, rfl, hv⟩ := Program.runs_report.1 h
  obtain ⟨rfl, rfl⟩ := Program.runs_done.1 hv
  exact ⟨rfl, rfl⟩

end Making

variable {roots : Roots} {t : Trace interface}

/-! ## I2C -/

namespace I2c

variable {params : BusAccess.I2c.Params} {busnum : UInt32} {r : Except Error (Bus Core)}

/-- A connection string that is not accepted is refused at once. -/
theorem create_of_error {e : Error} (he : chooseBus params.uri params.busnum = .error e) :
    create roots params = .done (.error e) := by
  rw [create, he]

/-- A bus is made if its node exists. -/
theorem making_of_create (hb : chooseBus params.uri params.busnum = .ok busnum)
    (h : (create roots params).Runs t r) :
    Making (.present (nodePath roots busnum)) (· = true) (.debug "no i2c device node")
      [.debug "linuxdev i2c bus created"] (.new name { path := nodePath roots busnum }) t r := by
  rw [create, hb] at h
  obtain ⟨present, u, rfl, h₁⟩ := Program.runs_ask.1 h
  cases present with
  | true => exact making_of_shown rfl runs_announced h₁
  | false => exact making_of_absent Bool.false_ne_true h₁

theorem runs_create {b : Bus Core} (h : (create roots params).Runs t (.ok b)) :
    ∃ path, b = .new name { path } := by
  cases hb : chooseBus params.uri params.busnum with
  | error e =>
    rw [create_of_error hb] at h
    exact absurd (Program.runs_done.1 h).2 nofun
  | ok busnum => exact ⟨_, (making_of_create hb h).eq_of_ok⟩

end I2c

/-! ## SPI -/

namespace Spi

variable {params : BusAccess.Spi.Params} {busnum : UInt32} {r : Except Error (Bus Core)}

theorem create_of_error {e : Error} (he : chooseBus params.uri params.busnum = .error e) :
    create roots params = .done (.error e) := by
  rw [create, he]

/-- What a new bus keeps. -/
def newCore (roots : Roots) (params : BusAccess.Spi.Params) (busnum : UInt32) : Core :=
  { busnum, directory := roots.dev, speed := params.speed, mode := params.mode }

/-- A bus is made if there is a node of it in the directory. -/
theorem making_of_create (hb : chooseBus params.uri params.busnum = .ok busnum)
    (h : (create roots params).Runs t r) :
    Making (.list roots.dev) (fun files ↦ (files.getD []).any (isNodeOf busnum) = true)
      (.debug "no spidev nodes") [.debug "linuxdev spi bus created"]
      (.new name (newCore roots params busnum)) t r := by
  rw [create, hb] at h
  obtain ⟨files, u, rfl, h₁⟩ := Program.runs_ask.1 h
  split at h₁
  case isTrue hs => exact making_of_shown hs runs_announced h₁
  case isFalse hs => exact making_of_absent hs h₁

theorem runs_create {b : Bus Core} (h : (create roots params).Runs t (.ok b)) :
    ∃ busnum, b = .new name
      { busnum, directory := roots.dev, speed := params.speed, mode := params.mode } := by
  cases hb : chooseBus params.uri params.busnum with
  | error e =>
    rw [create_of_error hb] at h
    exact absurd (Program.runs_done.1 h).2 nofun
  | ok busnum => exact ⟨busnum, (making_of_create hb h).eq_of_ok⟩

/-- A bus is made if there is a node of it and memory. -/
theorem create_runs {files : List String} (hb : chooseBus params.uri params.busnum = .ok busnum)
    (hn : files.any (isNodeOf busnum) = true) :
    (create roots params).Runs
      [.asked (.list roots.dev) (some files), .asked .reserve true,
        .reported (.debug "linuxdev spi bus created")]
      (.ok (.new name
        { busnum, directory := roots.dev, speed := params.speed, mode := params.mode })) := by
  rw [create, hb]
  refine .ask ?_
  rw [Option.getD_some, if_pos hn]
  exact .ask (.report (.done _))

end Spi

/-! ## GPIO -/

namespace Gpio

variable {params : BusAccess.Gpio.Params} {r : Except Error (Bus Core)}

theorem create_of_error {e : Error} (he : parse params.uri = .error e) :
    create roots params = .done (.error e) := by
  rw [create, he]

/-- A controller is made if pins can be claimed. -/
theorem making_of_create {busnum : Option UInt32} (hb : parse params.uri = .ok busnum)
    (h : (create roots params).Runs t r) :
    Making (.present (inDirectory roots.gpio "export")) (· = true)
      (.debug "no sysfs gpio interface") [] (.new name { directory := roots.gpio }) t r := by
  rw [create, hb] at h
  obtain ⟨present, u, rfl, h₁⟩ := Program.runs_ask.1 h
  cases present with
  | true => exact making_of_shown rfl Program.runs_done.1 h₁
  | false => exact making_of_absent Bool.false_ne_true h₁

theorem runs_create {b : Bus Core} (h : (create roots params).Runs t (.ok b)) :
    b = .new name { directory := roots.gpio } := by
  cases hb : parse params.uri with
  | error e =>
    rw [create_of_error hb] at h
    exact absurd (Program.runs_done.1 h).2 nofun
  | ok busnum => exact (making_of_create hb h).eq_of_ok

end Gpio

end BusAccess.Node
