import EzspSpi.Ash.Loop

/-!
# Sessions as seen from outside

What a run amounts to for its client, read off the trace alone: the
connection, the handshake, the DATA frames sent since the last reset and how
many of them are acknowledged, and the client's own DATA frames.  Nothing here
looks into the bridge.
-/

namespace EzspSpi

open Program

variable {σ : Type} [Kernel σ] (g : Globals)

/-- What a frame from the client asks for. -/
inductive FrameKind where
  | rst
  | ack
  | nak
  | error
  | data
  deriving DecidableEq, Repr

/-- The kinds in the order in which `bridge_handle_frame` tells them apart. -/
def frameKind (f : List Byte) : FrameKind :=
  let ctrl := f.headD 0
  if ctrl = ashCtrlRst then .rst
  else if ctrl &&& 0xE0 = 0x80 then .ack
  else if ctrl &&& 0xE0 = 0xA0 then .nak
  else if ctrl &&& 0x80 ≠ 0 then .error
  else .data

/-- The number in the low bits of an ACK, NAK or DATA frame: every frame
before it has been received, and a NAK asks for it. -/
def ackNumber (f : List Byte) : Byte := f.headD 0 &&& 0x07

/-- `bridge_handle_frame` by the kind of frame. -/
theorem bridgeHandleFrame_eq (b : Bridge) (f : List Byte) :
    (bridgeHandleFrame g b f : Host σ Bridge) =
      (do
        note (.handleFrame b f)
        match frameKind f with
        | .rst => bridgeReset b
        | .ack => pure b
        | .nak => do
            ashRetransmit b (ackNumber f)
            pure b
        | .error => pure b
        | .data =>
            if b.ready = false then pure b else bridgeHandleData g b f) := by
  rw [bridgeHandleFrame, frameKind, ackNumber]
  dsimp only
  split_ifs <;> rfl

structure Session where
  /-- The client accepted last. -/
  client : Option ℕ
  /-- It has sent an RST. -/
  reset : Bool
  /-- An RSTACK was written to it. -/
  answered : Bool
  /-- A version was negotiated since the last accept or RST. -/
  negotiated : Bool
  /-- The DATA frames stored since the last accept or RST. -/
  log : List (List Byte)
  /-- How many of them the client has acknowledged. -/
  acked : ℕ
  /-- How many DATA frames the client has had relayed since then. -/
  delivered : ℕ
  /-- All of these in the whole run were numbered one after the other. -/
  inOrder : Bool
  deriving DecidableEq, Repr

namespace Session

def start : Session := ⟨none, false, false, false, [], 0, 0, true⟩

/-- DATA frames sent and not yet acknowledged. -/
def unacked (S : Session) : ℕ := S.log.length - S.acked

/-- An acknowledgement is cumulative; one beyond the frames sent is void. -/
def acknowledge (S : Session) (n : Byte) : Session :=
  let acked := S.acked + (n.toNat + 8 - S.acked % 8) % 8
  if acked ≤ S.log.length then { S with acked := acked } else S

/-- A DATA frame that counts: it comes after an RST and carries an EZSP
frame. -/
def Accepts (S : Session) (f : List Byte) : Prop :=
  S.reset = true ∧ 1 ≤ f.length - 1 ∧ f.length - 1 ≤ ashMaxFrame

instance (S : Session) (f : List Byte) : Decidable (S.Accepts f) :=
  inferInstanceAs (Decidable (_ ∧ _))

/-- Such a frame is in turn if it carries the number of those before it. -/
def deliver (S : Session) (f : List Byte) : Session :=
  if S.Accepts f then
    { S with
      delivered := S.delivered + 1
      inOrder := S.inOrder && decide ((frameNumber f).toNat = S.delivered % 8) }
  else S

/-- A frame from the client. -/
def receive (S : Session) (f : List Byte) : Session :=
  match frameKind f with
  | .rst =>
      { S with
        reset := true
        negotiated := false
        log := []
        acked := 0
        delivered := 0 }
  | .ack => S.acknowledge (ackNumber f)
  | .nak => S.acknowledge (ackNumber f)
  | .error => S
  | .data => (S.acknowledge (ackNumber f)).deliver f

def step (S : Session) : HostEvent → Session
  | .call (.accept _) (some fd) =>
      { start with client := some fd, inOrder := S.inOrder }
  | .call (.write _ buf) _ =>
      if buf = ashEncode rstackFrame then { S with answered := true } else S
  | .note (.handleFrame _ f) => S.receive f
  | .note (.store body) => { S with log := S.log ++ [body] }
  | .note (.negotiated _) => { S with negotiated := true }
  | _ => S

end Session

/-- The session after a trace. -/
def session (t : List HostEvent) : Session := t.foldl Session.step Session.start

@[simp]
theorem session_concat (t : List HostEvent) (e : HostEvent) :
    session (t ++ [e]) = (session t).step e := by
  rw [session, List.foldl_append, session]
  rfl

/-- Events that tell an observer nothing. -/
def IsSilent (e : HostEvent) : Prop := ∀ S : Session, S.step e = S

theorem IsGpio.isSilent {e : HostEvent} (he : IsGpio e) : IsSilent e := by
  intro S
  cases e with
  | note n => exact he.elim
  | call c r => cases c <;> first | rfl | exact he.elim

/-! ## Acknowledgements -/

namespace Session

/-- No more frames are acknowledged than were sent. -/
def Sound (S : Session) : Prop := S.acked ≤ S.log.length

@[simp]
theorem acknowledge_log (S : Session) (n : Byte) :
    (S.acknowledge n).log = S.log := by
  rw [acknowledge]
  split <;> rfl

theorem acked_le_acknowledge (S : Session) (n : Byte) :
    S.acked ≤ (S.acknowledge n).acked := by
  rw [acknowledge]
  split
  · exact Nat.le_add_right _ _
  · exact le_rfl

theorem Sound.acknowledge {S : Session} (hS : S.Sound) (n : Byte) :
    (S.acknowledge n).Sound := by
  rw [Session.acknowledge]
  split
  · rename_i hle
    exact hle
  · exact hS

@[simp]
theorem deliver_log (S : Session) (f : List Byte) :
    (S.deliver f).log = S.log := by
  rw [deliver]
  split <;> rfl

@[simp]
theorem deliver_acked (S : Session) (f : List Byte) :
    (S.deliver f).acked = S.acked := by
  rw [deliver]
  split <;> rfl

end Session

end EzspSpi
