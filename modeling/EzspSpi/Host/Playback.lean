import EzspSpi.Host.Kernel

/-!
# Surroundings that play back a script

Surroundings simple enough to compute with: every ioctl succeeds, nHOST_INT
stays asserted, a write takes the whole buffer, and the bytes of the NCP, the
results of `poll`, the accepted descriptors and the client's data come from
lists.  Where a list has run out the NCP is idle and nothing happens on the
sockets.
-/

namespace EzspSpi

open Program

structure Playback where
  miso : List Byte
  polls : List (List Revents)
  accepts : List ℕ
  reads : List ReadResult

namespace Playback

/-- The next bytes the NCP clocks out, as many as are asked for. -/
def clockOut (n : ℕ) (miso : List Byte) : List.Vector Byte n :=
  List.Vector.ofFn fun i => miso.getD i spiIdle

/-- The events of one `poll`, in the order of the poll set. -/
def revents (events : List Revents) (i : ℕ) : Revents :=
  events.getD i ⟨false, false, false⟩

def pollResult (events : List Revents) : PollResult := .ready (revents events)

instance : Kernel Playback where
  answer
    | .spiTransfer tx true _, s =>
        (some (clockOut tx.length s.miso),
          { s with miso := s.miso.drop tx.length })
    | .spiTransfer tx false _, s => (some (clockOut tx.length []), s)
    | .gpioSetValue _ _, s => (true, s)
    | .gpioGetValue _, s => (some false, s)
    | .gpioWaitEdges _ _, s => ([.falling 0], s)
    | .gpioDrainEdges _, s => ((), s)
    | .gpioReadEdge _, s => ((), s)
    | .poll _ _, s =>
        (pollResult (s.polls.headD []), { s with polls := s.polls.tail })
    | .accept _, s => (s.accepts.head?, { s with accepts := s.accepts.tail })
    | .read _, s =>
        (s.reads.headD .interrupted, { s with reads := s.reads.tail })
    | .write _ buf, s => ([.wrote buf.length], s)
    | .close _, s => ((), s)
    | .boardName, s => (none, s)
    | .requestOutput _ _, s => (none, s)
    | .requestInputEdges _, s => (none, s)
    | .controlQuery _, s => (false, s)
    | .controlListen, s => (none, s)
    | .pollEvents _ _, s =>
        (revents (s.polls.headD []), { s with polls := s.polls.tail })
    | .writeOnce _ buf, s => (.wrote buf.length, s)
    | .time, s => (0, s)
    | .rand, s => (0, s)
    | .hostname, s => (none, s)

end Playback

/-- What a call gets where nothing happens: no bytes, no events and no other
process. -/
def quietAnswer : (c : Call) → c.Resp
  | .spiTransfer tx _ _ => some (Playback.clockOut tx.length [])
  | .gpioSetValue _ _ => true
  | .gpioGetValue _ => some true
  | .gpioWaitEdges _ _ => [.timeout]
  | .gpioDrainEdges _ => ()
  | .gpioReadEdge _ => ()
  | .poll _ _ => Playback.pollResult []
  | .accept _ => none
  | .read _ => .interrupted
  | .write _ buf => [.wrote buf.length]
  | .close _ => ()
  | .boardName => none
  | .requestOutput _ _ => none
  | .requestInputEdges _ => none
  | .controlQuery _ => false
  | .controlListen => none
  | .pollEvents _ _ => Playback.revents []
  | .writeOnce _ buf => .wrote buf.length
  | .time => 0
  | .rand => 0
  | .hostname => none

/-- A board of this name with every line free: each request is granted, under
the next descriptor. -/
structure Bench where
  name : Option (List Byte)
  nextFd : ℕ

instance : Kernel Bench where
  answer
    | .boardName, s => (s.name, s)
    | .requestOutput _ _, s => (some s.nextFd, { s with nextFd := s.nextFd + 1 })
    | .requestInputEdges _, s => (some s.nextFd, { s with nextFd := s.nextFd + 1 })
    | c, s => (quietAnswer c, s)

/-- Picking an event out of a recorded trace. -/
theorem split_at {t : List HostEvent} {n : ℕ} {e : HostEvent}
    (he : t[n]? = some e) : t = t.take n ++ e :: t.drop (n + 1) := by
  obtain ⟨hlt, hget⟩ := List.getElem?_eq_some_iff.mp he
  rw [← hget, ← List.drop_eq_getElem_cons hlt, List.take_append_drop]

end EzspSpi
