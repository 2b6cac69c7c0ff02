import Mathlib.Data.BitVec
import Mathlib.Data.Fintype.Pi
import Mathlib.Logic.Function.Basic

/-!
# Constants and structures of `ezsp-spi.h`

The protocol constants, the part of the configuration the modelled code reads,
the pin descriptors and the bridge state.  A byte buffer with a length is the
list of the bytes below that length; nothing reads past it.
-/

namespace EzspSpi

abbrev Byte := BitVec 8

def spiCmdEzspFrame : Byte := 0xFE
def spiFrameTerminator : Byte := 0xA7
def spiIdle : Byte := 0xFF
def spiErrReset : Byte := 0x00
def spiErrUnsupported : Byte := 0x04

def ezspVersion : Byte := 0x00
def ezspCallback : Byte := 0x06
def ezspNoCallbacks : Byte := 0x07

def ashFlag : Byte := 0x7E
def ashEsc : Byte := 0x7D
def ashXon : Byte := 0x11
def ashXoff : Byte := 0x13
def ashSub : Byte := 0x18
def ashCancel : Byte := 0x1A

def ashCtrlRst : Byte := 0xC0
def ashCtrlRstack : Byte := 0xC1
def ashResetSoftware : Byte := 0x0B

/-- EZSP frame plus control byte. -/
abbrev ashMaxFrame : ℕ := 140

/-- Frame numbers are three bits. -/
abbrev ashWindow : ℕ := 8

/-- The settings of `struct cfg` that the transaction layer and the bridge
read. -/
structure Cfg where
  waitBytes : ℕ
  wakeHandshake : Bool
  deriving DecidableEq, Repr

/-- The process-wide variables these functions read: `cfg` and
`cs_follows`. -/
structure Globals where
  cfg : Cfg
  csFollows : Bool
  deriving DecidableEq, Repr

/-- Line descriptors; a negative one stands for a line that is not held. -/
structure Pins where
  reset : Int
  wake : Int
  nsselInt : Int
  cs : Int
  hint : Int
  deriving DecidableEq, Repr

inductive RspClass where
  | idle
  | reset
  | error
  | version
  | status
  | ezsp
  | other
  deriving DecidableEq, Repr

/-- `struct bridge`.  `rx` holds the first `rxlen` bytes of the receive buffer
and `sent n` the first `len` bytes of slot `n`, so an empty slot is one never
used since the session began. -/
structure Bridge where
  p : Pins
  srv : Int
  cli : Int
  ready : Bool
  negotiated : Bool
  frm : Byte
  ack : Byte
  cbseq : Byte
  ver : Int
  rx : List Byte
  esc : Bool
  sent : Fin ashWindow → List Byte
  deriving DecidableEq

/-- The slot of a frame number: `n & 0x07`. -/
def slot (n : Byte) : Fin ashWindow := Fin.ofNat ashWindow (n &&& 0x07).toNat

/-- The number after `n` in three bits: `(n + 1) & 0x07`. -/
def nextNumber (n : Byte) : Byte := (n + 1) &&& 0x07

theorem nextNumber_toNat (n : Byte) :
    (nextNumber n).toNat = (n.toNat + 1) % 8 := by
  simp only [nextNumber]
  revert n
  decide

theorem nextNumber_le (n : Byte) : (nextNumber n).toNat ≤ 7 := by
  rw [nextNumber_toNat]
  omega

theorem slot_val (n : Byte) : (slot n).val = n.toNat % 8 := by
  simp only [slot]
  revert n
  decide

end EzspSpi
