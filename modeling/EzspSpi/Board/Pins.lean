import EzspSpi.Board.Settings
import EzspSpi.Host.Gpio

/-!
# Requesting the lines

`pins_open` and `pins_close` of `board.c`, with the line requests of `gpio.c`.
-/

namespace EzspSpi

open Program

variable {σ : Type} [Kernel σ]

def gpioRequestOutput (offset : BitVec 32) (value : Bool) : Host σ Int := do
  let fd ← call (I := host) (.requestOutput offset value)
  match fd with
  | some fd => pure fd
  | none => die

/-- For lines that may belong to someone else: `-1` instead of dying. -/
def gpioTryOutput (offset : BitVec 32) (value : Bool) : Host σ Int := do
  let fd ← call (I := host) (.requestOutput offset value)
  pure (fd.elim (-1) fun fd => fd)

def gpioRequestInputEdges (offset : BitVec 32) : Host σ Int := do
  let fd ← call (I := host) (.requestInputEdges offset)
  pure (fd.elim (-1) fun fd => fd)

/-- nSSEL_INT: its descriptor and `cs_follows`.  "follow" starts deasserted,
"low" and "high" pin it. -/
def nsselIntOpen (cfg : LineCfg) : Host σ (Int × Bool) :=
  if cfg.nsselIntMode = ascii "input" then pure (-1, false)
  else do
    let fd ← gpioRequestOutput cfg.nsselIntLine
      (decide (cfg.nsselIntMode ≠ ascii "low"))
    pure (fd, decide (cfg.nsselIntMode = ascii "follow"))

/-- The chip select, which a kernel that still drives it may refuse. -/
def csOpen (cfg : LineCfg) : Host σ Int :=
  if cfg.csLine = 0 then pure (-1) else gpioTryOutput cfg.csLine true

/-- The lines once `pins_autodetect` has settled them, and `cs_follows`. -/
def pinsRequest (cfg : LineCfg) : Host σ (Pins × Bool) := do
  -- nRESET and nWAKE idle high
  let reset ← gpioRequestOutput cfg.resetLine true
  let wake ← gpioRequestOutput cfg.wakeLine true
  let (nsselInt, csFollows) ← nsselIntOpen cfg
  let cs ← csOpen cfg
  let hint ← gpioRequestInputEdges cfg.intLine
  pure (⟨reset, wake, nsselInt, cs, hint⟩, csFollows)

def pinsOpen (cfg : LineCfg) : Host σ (Pins × Bool) := do
  let cfg ← pinsAutodetect cfg
  pinsRequest cfg

def closeHeld (fd : Int) : Host σ Unit :=
  onlyIf (0 ≤ fd) (call (I := host) (.close fd))

def pinsClose (p : Pins) : Host σ Pins := do
  closeHeld p.cs
  closeHeld p.reset
  closeHeld p.wake
  closeHeld p.nsselInt
  closeHeld p.hint
  pure ⟨-1, -1, -1, -1, -1⟩

end EzspSpi
