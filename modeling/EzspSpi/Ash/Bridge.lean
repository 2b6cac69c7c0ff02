import EzspSpi.Ash.Frame
import EzspSpi.Spi.Transaction

/-!
# The ASH bridge

The functions of `bridge.c` between the client's bytes and the NCP: sending
and resending frames, relaying EZSP frames and callbacks, and the receiver.
Each takes the bridge state and returns it as the function leaves it.
-/

namespace EzspSpi

open Program

variable {σ : Type} [Kernel σ] (g : Globals)

/-! ## Sending -/

/-- The rounds of `write_all` with `left` bytes to go: whether all of them
were written. -/
def writeRounds : (left : ℕ) → List WriteResult → Host σ Bool
  | 0, _ => pure true
  | _ + 1, [] => halt .stuck
  | left + 1, .wrote n :: rounds =>
      if 0 < n then writeRounds (left + 1 - n) rounds else pure false
  | left + 1, .interrupted :: rounds => writeRounds (left + 1) rounds
  | _ + 1, .failed :: _ => pure false
  | _ + 1, .sigpipe :: _ => halt .killed

def writeAll (fd : Int) (buf : List Byte) : Host σ Bool := do
  let rounds ← call (I := host) (.write fd buf)
  writeRounds buf.length rounds

def ashSend (b : Bridge) (frame : List Byte) : Host σ Bool :=
  if b.cli < 0 ∨ frame.length + 2 > ashMaxFrame + 2 then pure false
  else writeAll b.cli (ashEncode frame)

def ashSendAck (b : Bridge) : Host σ Unit :=
  discard (ashSend b [0x80 ||| (b.ack &&& 0x07)])

/-- The DATA frame `ash_send_data` builds around an EZSP frame. -/
def ashDataFrame (b : Bridge) (ezsp : List Byte) : List Byte :=
  (((b.frm &&& 0x07) <<< 4) ||| (b.ack &&& 0x07)) :: ashMask ezsp

/-- Hand one EZSP frame to the client as an ASH DATA frame. -/
def ashSendData (b : Bridge) (ezsp : List Byte) : Host σ Bridge :=
  if ezsp.length + 1 > ashMaxFrame then pure b
  else do
    let body := ashDataFrame b ezsp
    note (.store body)
    let b' := { b with
      sent := Function.update b.sent (slot b.frm) body
      frm := nextNumber b.frm }
    let _ ← ashSend b' body
    pure b'

/-- The frame with the retransmit bit set. -/
def setRetransmit : List Byte → List Byte
  | [] => []
  | ctrl :: rest => (ctrl ||| 0x08) :: rest

/-- The loop of `ash_retransmit` from frame number `n`.  The numbers repeat
with period eight, so a loop that has not met `b->frm` after nine tests never
does. -/
def retransmitFrom (b : Bridge) : (tests : ℕ) → (n : Byte) → Host σ Unit
  | 0, _ => halt .stuck
  | tests + 1, n =>
      if n = b.frm then pure ()
      else do
        onlyIf (b.sent (slot n) ≠ [])
          (discard (ashSend b (setRetransmit (b.sent (slot n)))))
        retransmitFrom b tests (nextNumber n)

/-- Resend everything from the requested frame number up to what was sent. -/
def ashRetransmit (b : Bridge) (n : Byte) : Host σ Unit :=
  retransmitFrom b 9 n

/-! ## Relaying -/

/-- An EZSP frame wrapped as an SPI command. -/
def ezspCommand (ezsp : List Byte) : List Byte :=
  [spiCmdEzspFrame, BitVec.ofNat 8 ezsp.length] ++ ezsp ++ [spiFrameTerminator]

/-- `ezsp_relay`: the reply, or `none` for `-1`. -/
def ezspRelay (p : Pins) (ezsp : List Byte) (outmax : ℕ) :
    Host σ (Option (List Byte)) :=
  if ezsp.length = 0 ∨ ezsp.length > 255 ∨
      ezsp.length + 3 > ashMaxFrame + 8 then pure none
  else do
    let (cls, rx) ← doCmd g p (ezspCommand ezsp) 260 true
    if cls ≠ .ezsp then pure none
    else
      let len := min (rx.getD 1 0).toNat outmax
      pure (some ((rx.drop 2).take len))

/-- Header length and frame id offset for an EZSP version. -/
def ezspLayout (ver : Int) : ℕ × ℕ :=
  if ver ≥ 8 then (5, 3)
  else if ver ≥ 5 then (5, 4)
  else (3, 2)

/-- The `callback` command in the layout of a version. -/
def callbackPoll (ver : Int) (seq : Byte) : List Byte :=
  if ver ≥ 8 then [seq, 0x00, 0x01, ezspCallback, 0x00]
  else if ver ≥ 5 then [seq, 0x00, 0xFF, 0x00, ezspCallback]
  else [seq, 0x00, ezspCallback]

/-- `ezsp_relay_callback`: one queued callback, or no bytes for an empty
queue. -/
def ezspRelayCallback (b : Bridge) (outmax : ℕ) :
    Host σ (Bridge × List Byte) := do
  note (.relayCallback b)
  let (_, idOff) := ezspLayout b.ver
  let b' := { b with cbseq := b.cbseq + 1 }
  let reply ← ezspRelay g b.p (callbackPoll b.ver b.cbseq) outmax
  match reply with
  | none => pure (b', [])
  | some out =>
      if out.length ≤ idOff then pure (b', [])
      -- the queue is empty; not something to forward
      else if out.getD idOff 0 = ezspNoCallbacks then pure (b', [])
      else pure (b', out)

/-- The loop of `bridge_drain_callbacks`, bounded against a stuck
nHOST_INT. -/
def drainRounds : (rounds : ℕ) → Bridge → Host σ Bridge
  | 0, b => pure b
  | rounds + 1, b => do
      let level ← gpioGet b.p.hint
      if level ≠ some false then pure b
      else do
        let (b, frame) ← ezspRelayCallback g b ashMaxFrame
        if frame = [] then pure b
        else do
          let b ← ashSendData b frame
          drainRounds rounds b

def bridgeDrainCallbacks (b : Bridge) : Host σ Bridge :=
  if b.cli < 0 ∨ b.ready = false ∨ b.negotiated = false ∨ b.p.hint < 0 then
    pure b
  else drainRounds g 32 b

/-! ## Receiving -/

def rstackFrame : List Byte := [ashCtrlRstack, 0x02, ashResetSoftware]

def bridgeReset (b : Bridge) : Host σ Bridge := do
  ncpReset b.p
  let b := { b with frm := 0, ack := 0, ver := 4, sent := fun _ => [] }
  let _ ← ashSend b rstackFrame
  pure { b with ready := true, negotiated := false }

/-- The frame number a DATA frame carries. -/
def frameNumber (f : List Byte) : Byte := (f.headD 0 >>> 4) &&& 0x07

/-- The version a reply announces, where the bridge takes it for the answer to
a version command. -/
def sniffVersion (ver : Int) (ezsp resp : List Byte) : Option Byte :=
  let (hdr, idOff) := ezspLayout ver
  if idOff < ezsp.length ∧ ezsp.getD idOff 0 = ezspVersion ∧
      hdr < resp.length then
    let neg := resp.getD hdr 0
    if 4 ≤ neg ∧ neg ≤ 13 then some neg else none
  else none

/-- Adopt whatever version the two of them just agreed on. -/
def adoptVersion (b : Bridge) (ezsp resp : List Byte) : Host σ Bridge :=
  match sniffVersion b.ver ezsp resp with
  | none => pure b
  | some neg => do
      note (.negotiated neg)
      pure { b with ver := neg.toNat, negotiated := true }

/-- The DATA branch of `bridge_handle_frame`, from the test for an empty or
oversized payload on. -/
def bridgeHandleData (b : Bridge) (f : List Byte) : Host σ Bridge :=
  let plen := f.length - 1
  if plen = 0 ∨ plen > ashMaxFrame then pure b
  else do
    let ezsp := ashMask f.tail
    -- acknowledged before touching SPI
    let b' := { b with ack := nextNumber (frameNumber f) }
    ashSendAck b'
    note (.relay b f)
    let reply ← ezspRelay g b'.p ezsp ashMaxFrame
    match reply with
    | none => pure b'
    | some resp =>
        if resp = [] then pure b'
        else do
          let b' ← adoptVersion b' ezsp resp
          let b' ← ashSendData b' resp
          bridgeDrainCallbacks g b'

/-- One complete, unescaped, CRC-checked ASH frame from the client. -/
def bridgeHandleFrame (b : Bridge) (f : List Byte) : Host σ Bridge := do
  note (.handleFrame b f)
  let ctrl := f.headD 0
  if ctrl = ashCtrlRst then bridgeReset b
  -- ACK
  else if ctrl &&& 0xE0 = 0x80 then pure b
  -- NAK
  else if ctrl &&& 0xE0 = 0xA0 then do
    ashRetransmit b (ctrl &&& 0x07)
    pure b
  -- RSTACK or ERROR from a host
  else if ctrl &&& 0x80 ≠ 0 then pure b
  -- DATA before RST
  else if b.ready = false then pure b
  else bridgeHandleData g b f

/-- Whether the last two bytes received are the CRC of those before them. -/
def ashChecked (rx : List Byte) : Bool :=
  let len := rx.length - 2
  let want := ((rx.getD len 0).setWidth 16 <<< 8) |||
    (rx.getD (len + 1) 0).setWidth 16
  ashCrc (rx.take len) = want

/-- What a FLAG does: hand on the frame before it if its CRC is right, and
start over. -/
def bridgeFlag (b : Bridge) : Host σ Bridge := do
  let b ←
    if 3 ≤ b.rx.length ∧ ashChecked b.rx = true then
      bridgeHandleFrame g b (b.rx.take (b.rx.length - 2))
    else pure b
  pure { b with rx := [], esc := false }

/-- One byte of the client's stream. -/
def bridgeFeedByte (b : Bridge) (c : Byte) : Host σ Bridge :=
  if c = ashXon ∨ c = ashXoff then pure b
  else if c = ashCancel then pure { b with rx := [], esc := false }
  else if c = ashSub then pure { b with rx := [], esc := true }
  else if c = ashEsc then pure { b with esc := true }
  else if c = ashFlag then bridgeFlag g b
  else
    let c' := if b.esc then c ^^^ 0x20 else c
    if b.rx.length < ashMaxFrame * 2 then
      pure { b with rx := b.rx ++ [c'], esc := false }
    else pure { b with rx := [], esc := false }

def bridgeFeed (b : Bridge) (buf : List Byte) : Host σ Bridge :=
  buf.foldlM (bridgeFeedByte g) b

end EzspSpi
