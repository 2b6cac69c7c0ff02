import EzspSpi.Ash.Wired

/-!
# An NCP with callbacks queued

The NCP as the bridge needs it to be: it speaks one EZSP version, keeps a queue
of callbacks, holds nHOST_INT low exactly while there is one, and answers each
command with one EZSP frame after some wait states.  The kernel around it is
anything that has such an NCP behind the SPI device and the lines, and a
client that takes what is written to it.
-/

namespace EzspSpi

open Program

variable {σ : Type} [Kernel σ] (g : Globals)

/-- The EZSP version in use, the callbacks in the order in which they arose,
and the bytes that are clocked out next. -/
structure CallbackNcp where
  ver : Int
  queue : List (List Byte)
  pending : List Byte
  deriving DecidableEq, Repr

/-- The rounds of a write come to an end with all of `left` bytes written. -/
def Delivers : (left : ℕ) → List WriteResult → Prop
  | 0, _ => True
  | left + 1, .wrote n :: rounds => 0 < n ∧ Delivers (left + 1 - n) rounds
  | left + 1, .interrupted :: rounds => Delivers (left + 1) rounds
  | _ + 1, _ => False

/-- A command sent in the state `s` is going to be answered with this frame,
within the wait states the host allows. -/
def AnswersWith (ncp : σ → CallbackNcp) (s : σ) (tx frame : List Byte)
    (after : CallbackNcp) : Prop :=
  (Kernel.answer (.spiTransfer tx false true) s).1 ≠ none ∧
    ∃ waits < g.cfg.waitBytes,
      ncp (Kernel.answer (.spiTransfer tx false true) s).2 =
        { after with pending := ezspResponse waits frame }

/-- The surroundings have such an NCP on the SPI device and the lines of `p`,
and a client that takes what it is sent. -/
structure Attached (p : Pins) (ncp : σ → CallbackNcp) : Prop where
  /-- nHOST_INT is low exactly while a callback is queued. -/
  line : ∀ s, (Kernel.answer (.gpioGetValue p.hint) s).1 =
    some (decide ((ncp s).queue = []))
  read : ∀ s, ncp (Kernel.answer (.gpioGetValue p.hint) s).2 = ncp s
  /-- nWAKE can be driven. -/
  wake : ∀ s high, (Kernel.answer (.gpioSetValue p.wake high) s).1 = true ∧
    ncp (Kernel.answer (.gpioSetValue p.wake high) s).2 = ncp s
  /-- So can the chip selects that are held. -/
  select : ∀ s fd high, 0 ≤ fd → fd = p.cs ∨ fd = p.nsselInt →
    (Kernel.answer (.gpioSetValue fd high) s).1 = true ∧
      ncp (Kernel.answer (.gpioSetValue fd high) s).2 = ncp s
  drain : ∀ s, ncp (Kernel.answer (.gpioDrainEdges p.hint) s).2 = ncp s
  wait : ∀ s ms,
    (∃ round ∈ (Kernel.answer (.gpioWaitEdges p.hint ms) s).1,
      round.IsFinal) ∧
      ncp (Kernel.answer (.gpioWaitEdges p.hint ms) s).2 = ncp s
  write : ∀ s fd buf, 0 ≤ fd →
    Delivers buf.length (Kernel.answer (.write fd buf) s).1 ∧
      ncp (Kernel.answer (.write fd buf) s).2 = ncp s
  /-- Idle bytes clock out what is pending. -/
  clock : ∀ s n keepCs, n ≤ (ncp s).pending.length →
    ((Kernel.answer (.spiTransfer (List.replicate n spiIdle) true keepCs)
      s).1.map fun rx => rx.toList) = some ((ncp s).pending.take n) ∧
    ncp (Kernel.answer (.spiTransfer (List.replicate n spiIdle) true keepCs)
      s).2 = { ncp s with pending := (ncp s).pending.drop n }
  /-- A poll in the layout of the NCP's version takes the first callback. -/
  poll : ∀ s seq frame rest, (ncp s).queue = frame :: rest →
    AnswersWith g ncp s (ezspCommand (callbackPoll (ncp s).ver seq)) frame
      { ncp s with queue := rest }

/-- The NCP, and what is written to clients. -/
def writesView (ncp : σ → CallbackNcp) :
    View host σ CallbackNcp (Int × List Byte) := ⟨ncp, written⟩

instance : Clocking CallbackNcp where
  pending v := v.pending
  clocking v bytes := { v with pending := bytes }
  pending_clocking _ _ := rfl
  clocking_clocking _ _ _ := rfl

section Transactions

variable {g} {p : Pins} {ncp : σ → CallbackNcp} (hncp : Attached g p ncp)
  {v : CallbackNcp}

namespace Attached

include hncp

theorem wired : Wired p ncp where
  read := hncp.read
  wake := hncp.wake
  select := hncp.select
  drain := hncp.drain
  wait := hncp.wait
  clock := hncp.clock

theorem gpioGet_quietly :
    Quietly (writesView ncp) v (gpioGet p.hint : Host σ (Option Bool))
      fun level v' => level = some (decide (v.queue = [])) ∧ v' = v := by
  rw [gpioGet]
  apply Quietly.call fun _ => rfl
  rintro s rfl
  exact ⟨hncp.line s, hncp.read s⟩

/-- A relayed frame brings back the frame that answers it, cut to
`outmax`. -/
theorem ezspRelay_quietly {ezsp frame : List Byte} {after : CallbackNcp}
    (hpos : ezsp ≠ []) (hlen : ezsp.length ≤ ashMaxFrame)
    (hframe : frame.length ≤ 255)
    (hanswer : ∀ s, ncp s = v →
      AnswersWith g ncp s (ezspCommand ezsp) frame after) (outmax : ℕ) :
    Quietly (writesView ncp) v
      (ezspRelay g p ezsp outmax : Host σ (Option (List Byte)))
      fun reply v' => reply = some (frame.take outmax) ∧
        v' = { after with pending := [] } :=
  hncp.wired.ezspRelay_quietly hpos hlen hframe hanswer outmax

end Attached

end Transactions

end EzspSpi
