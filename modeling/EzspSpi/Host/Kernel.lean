import EzspSpi.Core.History
import EzspSpi.Host.Header
import Mathlib.Data.Vector.Basic

/-!
# The kernel calls of the program

The interface between the program and everything around it: the NCP behind the
SPI device and the GPIO lines, the client behind its socket, and the kernel in
between.  A loop that only repeats one call until it gets a final answer
(`write_all`, `gpio_wait_falling`) is one request answered with the results of
its rounds.
-/

namespace EzspSpi

open Program

/-- What one round of `gpio_wait_falling` gets from `poll` and `read`. -/
inductive EdgeWait where
  | interrupted
  | failed
  | timeout
  | shortRead
  | rising
  | falling (elapsedMs : ℕ)
  deriving DecidableEq, Repr

/-- What one `write` call of `write_all` gets; `interrupted` is `EINTR` or
`EAGAIN`, and `sigpipe` the signal whose default action ends the process. -/
inductive WriteResult where
  | wrote (n : ℕ)
  | interrupted
  | failed
  | sigpipe
  deriving DecidableEq, Repr

/-- The `revents` of one descriptor that `cmd_bridge` looks at. -/
structure Revents where
  pollin : Bool
  pollerr : Bool
  pollhup : Bool
  deriving DecidableEq, Repr

inductive PollResult where
  | interrupted
  | failed
  | ready (revents : ℕ → Revents)

/-- What `read` gets from a client socket; no bytes at all is the end of the
stream, and `interrupted` is `EINTR` or `EAGAIN`. -/
inductive ReadResult where
  | bytes (bytes : List Byte)
  | interrupted
  | failed
  deriving DecidableEq, Repr

inductive Call where
  /-- `SPI_IOC_MESSAGE(1)` with these bytes; `keepRx` says whether a receive
  buffer is given. -/
  | spiTransfer (tx : List Byte) (keepRx : Bool) (csChange : Bool)
  | gpioSetValue (fd : Int) (high : Bool)
  | gpioGetValue (fd : Int)
  | gpioWaitEdges (fd : Int) (timeoutMs : ℕ)
  | gpioDrainEdges (fd : Int)
  | gpioReadEdge (fd : Int)
  | poll (fds : List Int) (timeoutMs : ℕ)
  | accept (srv : Int)
  | read (fd : Int)
  | write (fd : Int) (buf : List Byte)
  | close (fd : Int)
  /-- The line of `/tmp/sysinfo/board_name`, if the file can be opened. -/
  | boardName
  /-- `GPIO_V2_GET_LINE_IOCTL` for an output that starts at this level, by
  `gpio_request_output` and `gpio_try_output`. -/
  | requestOutput (offset : BitVec 32) (high : Bool)
  /-- The same for an input with both edges. -/
  | requestInputEdges (offset : BitVec 32)
  /-- `control_query`: whether a daemon took the request. -/
  | controlQuery (cmd : List Byte)
  | controlListen
  /-- The `poll` of `cmd_run`, which looks at the events and not at what
  `poll` returns; there are none where it fails. -/
  | pollEvents (fds : List Int) (timeoutMs : Int)
  /-- A single `write` whose result is ignored. -/
  | writeOnce (fd : Int) (buf : List Byte)
  | time
  | rand
  | hostname

/-- A transfer returns as many bytes as it sends, or fails; a line reads high,
low or not at all; a descriptor handed out is never negative. -/
abbrev Call.Resp : Call → Type
  | .spiTransfer tx _ _ => Option (List.Vector Byte tx.length)
  | .gpioSetValue _ _ => Bool
  | .gpioGetValue _ => Option Bool
  | .gpioWaitEdges _ _ => List EdgeWait
  | .gpioDrainEdges _ => Unit
  | .gpioReadEdge _ => Unit
  | .poll _ _ => PollResult
  | .accept _ => Option ℕ
  | .read _ => ReadResult
  | .write _ _ => List WriteResult
  | .close _ => Unit
  | .boardName => Option (List Byte)
  | .requestOutput _ _ => Option ℕ
  | .requestInputEdges _ => Option ℕ
  | .controlQuery _ => Bool
  | .controlListen => Option ℕ
  | .pollEvents _ _ => ℕ → Revents
  | .writeOnce _ _ => WriteResult
  | .time => Int
  | .rand => ℕ
  | .hostname => Option (List Byte)

/-- The procedure entries and assignments that the trace records besides the
kernel calls, each with the values it works on. -/
inductive Note where
  /-- `bridge_handle_frame(b, f, len)` is entered. -/
  | handleFrame (b : Bridge) (f : List Byte)
  /-- `bridge_handle_frame`, entered with `b` and `f`, calls `ezsp_relay`. -/
  | relay (b : Bridge) (f : List Byte)
  /-- `ezsp_relay_callback(b, ..)` is entered. -/
  | relayCallback (b : Bridge)
  /-- `ash_send_data` stores this frame in `b->sent[b->frm]`. -/
  | store (body : List Byte)
  /-- `b->negotiated` is set, with `b->ver` at this version. -/
  | negotiated (ver : Byte)
  /-- A command of the router calls `ncp_reset`. -/
  | reset

abbrev host : Interface := ⟨Call, Call.Resp, Note⟩

abbrev Kernel (σ : Type) := Surroundings host σ
abbrev Host (σ : Type) := Prog host σ
abbrev HostEvent := Event host

/-- A GPIO line event or call that leaves the bus and the socket alone. -/
def IsGpio : HostEvent → Prop
  | .call (.gpioSetValue _ _) _ => True
  | .call (.gpioGetValue _) _ => True
  | .call (.gpioWaitEdges _ _) _ => True
  | .call (.gpioDrainEdges _) _ => True
  | _ => False

variable {σ : Type} [Kernel σ]

/-- `die`: the process ends with an error. -/
def die {α : Type} : Host σ α := halt .exit

end EzspSpi
