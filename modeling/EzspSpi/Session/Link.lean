import EzspSpi.Core.Transducer
import EzspSpi.Session.Observer
import EzspSpi.Spi.Exchange

/-!
# The bridge as a relay

What the bridge is for, without its buffers, counters and slots: a machine
that hears of clients, of their frames and of the EZSP frames the NCP answers
with, and sends frames to the client.  A second machine reads what the bridge
hears off a trace, the NCP's answers off the bus.
-/

namespace EzspSpi

open Program Transducer

/-! ## The relay -/

/-- What a bridge hears. -/
inductive Heard where
  /-- A client was accepted. -/
  | accepted (fd : ℕ)
  /-- It sent this frame. -/
  | frame (f : List Byte)
  /-- The NCP answered the client's command with this EZSP frame. -/
  | reply (ezsp : List Byte)
  /-- It answered a poll for callbacks. -/
  | callback (ezsp : List Byte)
  deriving DecidableEq, Repr

/-- The relay between two things it hears. -/
structure Link where
  client : Option ℕ
  /-- The client has sent an RST. -/
  linked : Bool
  /-- The EZSP version the client and the NCP agreed on. -/
  ver : Int
  /-- The number of the client's next DATA frame. -/
  next : Byte
  /-- The client's last command. -/
  asked : List Byte
  /-- The DATA frames sent since the last RST. -/
  log : List (List Byte)
  deriving DecidableEq, Repr

namespace Link

def start : Link := ⟨none, false, 4, 0, [], []⟩

/-- Frames on their way to the client. -/
def send (L : Link) (frames : List (List Byte)) : List (Int × List Byte) :=
  match L.client with
  | none => []
  | some fd => frames.map fun frame => ((fd : Int), ashEncode frame)

/-- The next DATA frame: its number, the number expected of the client, and
the EZSP frame masked. -/
def dataFrame (L : Link) (ezsp : List Byte) : List Byte :=
  ((BitVec.ofNat 8 (L.log.length % 8) <<< 4) ||| L.next) :: ashMask ezsp

/-- Pass on an EZSP frame, if it fits. -/
def pass (L : Link) (ezsp : List Byte) : Link × List (Int × List Byte) :=
  if ezsp = [] ∨ ashMaxFrame ≤ ezsp.length then (L, [])
  else
    ({ L with log := L.log ++ [L.dataFrame ezsp] }, L.send [L.dataFrame ezsp])

/-- The frames from number `n` on, of which at most seven are sent again. -/
def unreceived (L : Link) (n : Byte) : List (List Byte) :=
  L.log.drop (L.log.length -
    min ((L.log.length + 8 - n.toNat) % 8) L.log.length)

/-- A DATA frame was accepted: its number is acknowledged, and the answer to
the command in it is awaited. -/
def expect (L : Link) (f : List Byte) : Link :=
  { L with next := nextNumber (frameNumber f), asked := ashMask f.tail }

/-- A frame from the client. -/
def receive (L : Link) (f : List Byte) : Link × List (Int × List Byte) :=
  match frameKind f with
  | .rst =>
      ({ L with linked := true, ver := 4, next := 0, log := [] },
        L.send [rstackFrame])
  | .ack => (L, [])
  | .nak => (L, L.send ((L.unreceived (ackNumber f)).map setRetransmit))
  | .error => (L, [])
  | .data =>
      if L.linked = true ∧ 1 ≤ f.length - 1 ∧ f.length - 1 ≤ ashMaxFrame then
        (L.expect f, L.send [[0x80 ||| (L.expect f).next]])
      else (L, [])

/-- The version the answer to the client's command announces, if it answers a
version command. -/
def adopt (L : Link) (ezsp : List Byte) : Link :=
  match sniffVersion L.ver L.asked ezsp with
  | none => L
  | some ver => { L with ver := ver.toNat }

/-- An answer to a poll that brings a callback. -/
def IsCallback (ver : Int) (ezsp : List Byte) : Prop :=
  (ezspLayout ver).2 < ezsp.length ∧
    ezsp.getD (ezspLayout ver).2 0 ≠ ezspNoCallbacks

instance (ver : Int) (ezsp : List Byte) : Decidable (IsCallback ver ezsp) :=
  inferInstanceAs (Decidable (_ ∧ _))

def step (L : Link) : Heard → Link × List (Int × List Byte)
  | .accepted fd => ({ start with client := some fd }, [])
  | .frame f => L.receive f
  | .reply ezsp => (L.adopt ezsp).pass ezsp
  | .callback ezsp => if IsCallback L.ver ezsp then L.pass ezsp else (L, [])

end Link

def relay : Machine Heard (Int × List Byte) Link := ⟨Link.start, Link.step⟩

/-! ## Reading a trace -/

/-- A transfer or a GPIO line, or the version read off the answer before it is
passed on. -/
def isBus : HostEvent → Bool
  | .call (.spiTransfer _ _ _) _ => true
  | .call (.gpioSetValue _ _) _ => true
  | .call (.gpioGetValue _) _ => true
  | .call (.gpioWaitEdges _ _) _ => true
  | .call (.gpioDrainEdges _) _ => true
  | .note (.negotiated _) => true
  | _ => false

/-- The bus since a command was begun, and what its answer will be heard
as. -/
def Reader : Type := Option ((List Byte → Heard) × List HostEvent)

namespace Reader

/-- The answer so far: the EZSP frame of the last response. -/
def answer : Reader → List Heard
  | none => []
  | some (hear, bus) =>
      (((exchanges bus).getLast?.bind Exchange.frame?).map hear).toList

/-- What an event tells by itself. -/
def tells : HostEvent → List Heard
  | .call (.accept _) (some fd) => [.accepted fd]
  | .note (.handleFrame _ f) => [.frame f]
  | _ => []

/-- The reader after an event off the bus, which ends the command before
it. -/
def begin : HostEvent → Reader
  | .note (.relay _ _) => some (.reply, [])
  | .note (.relayCallback _) => some (.callback, [])
  | _ => none

def step (R : Reader) (e : HostEvent) : Reader × List Heard :=
  if isBus e then (R.map fun cmd => (cmd.1, cmd.2 ++ [e]), [])
  else (begin e, R.answer ++ tells e)

end Reader

def reader : Machine HostEvent Heard Reader := ⟨none, Reader.step⟩

/-! ## What the bridge owes its clients -/

/-- What a bridge writes, and to whom. -/
def writtenAt : HostEvent → List (Int × List Byte)
  | .call (.write fd buf) _ => [(fd, buf)]
  | _ => []

/-- A byte is clocked, or the bridge waits for its clients. -/
def WaitsAt : HostEvent → Prop
  | .call (.spiTransfer _ _ _) _ => True
  | .call (.poll _ _) _ => True
  | _ => False

/-- The relay, fed with what the bridge hears. -/
def relayPacing : Pacing host (Int × List Byte) (Reader × Link) where
  machine := reader.cascade relay
  written := writtenAt
  waits := WaitsAt

/-- What the relay sends for all that was heard over a trace. -/
def relayed (t : List HostEvent) : List (Int × List Byte) :=
  relay.output Link.start (reader.output none t)

theorem relayPacing_output (t : List HostEvent) :
    relayPacing.output t = relayed t :=
  Machine.output_cascade reader relay none Link.start t

end EzspSpi
