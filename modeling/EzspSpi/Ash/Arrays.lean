import EzspSpi.Ash.Loop
import EzspSpi.Core.Buffer

/-!
# The data path on its arrays

The same functions once more, on the arrays of the source and with each access
by its index: `rx[260]` and `pad[260]` of a transaction, `tx[148]` of a relayed
frame, `f[8]` of a callback poll, `buf[288]` of an encoded frame, the bodies of
140 bytes, `ash_rand[256]`, the eight slots and the receive buffer of 280
bytes.  An access out of bounds does `oob`, and a cell not written so far holds
`junk`.
-/

namespace EzspSpi.Arrays

open Program

variable {σ : Type} [Kernel σ] (oob : ∀ β : Type, Host σ β) (junk : Byte)
  (g : Globals)

/-- `struct bridge` with its arrays, and with frame numbers of three bits. -/
structure BridgeArrays where
  p : Pins
  srv : Int
  cli : Int
  ready : Bool
  negotiated : Bool
  frm : Byte
  frm_le : frm.toNat ≤ 7
  ack : Byte
  ack_le : ack.toNat ≤ 7
  cbseq : Byte
  ver : Int
  rx : Filled Byte (ashMaxFrame * 2)
  esc : Bool
  sent : Fin ashWindow → Filled Byte ashMaxFrame

/-- What the arrays hold. -/
def BridgeArrays.toBridge (m : BridgeArrays) : Bridge where
  p := m.p
  srv := m.srv
  cli := m.cli
  ready := m.ready
  negotiated := m.negotiated
  frm := m.frm
  ack := m.ack
  cbseq := m.cbseq
  ver := m.ver
  rx := m.rx.used
  esc := m.esc
  sent n := (m.sent n).used

/-- An array on the stack. -/
def local' (size : ℕ) : List Byte := List.replicate size junk

def localFilled (size : ℕ) : Filled Byte size := Filled.empty size junk

/-! ## Transactions -/

/-- The first bytes of a response, stored in `rx`: the buffer, how many there
are, and how many the response type leaves to read. -/
def responseHead (rx : List Byte) (b : Byte) (rxlen : ℕ) :
    Host σ (List Byte × ℕ × ℕ) := do
  let rx ← writeAt oob rx 0 b
  if b = spiCmdEzspFrame then
    if 1 < rxlen then do
      let len ← spiIdleByte true
      let rx ← writeAt oob rx 1 len
      pure (rx, 2, len.toNat + 1)
    else pure (rx, 1, 1)
  else if b ≤ spiErrUnsupported then pure (rx, 1, 2)
  else pure (rx, 1, 1)

/-- The final transfer, from `pad` into `rx + n`. -/
def responseTail (p : Pins) (rx : List Byte) (n remain : ℕ) :
    Host σ (ℕ × List Byte) :=
  if remain ≠ 0 then do
    let pad ← readRange oob (List.replicate 260 spiIdle) 0 remain
    let got ← spiRaw pad true (decide (0 ≤ p.cs))
    let rx ← writeRange oob rx n got
    pure (n + remain, rx)
  else if p.cs < 0 then do
    let _ ← spiIdleByte false
    pure (n, rx)
  else pure (n, rx)

def spiTxnFramed (p : Pins) (tx : List Byte) (rxlen : ℕ) :
    Host σ (ℕ × List Byte) := do
  let rx := List.replicate rxlen 0
  csAssert g p
  onlyIf (tx ≠ []) (discard (spiRaw tx false true))
  let b ← waitStates g.cfg.waitBytes
  if b = spiIdle then do
    if 0 ≤ p.cs then csRelease g p else discard (spiIdleByte false)
    pure (0, rx)
  else do
    let (rx, n, remain) ← responseHead oob rx b rxlen
    let (n, rx) ← responseTail oob p rx n (min (min remain (rxlen - n)) 260)
    csRelease g p
    pure (n, rx)

def doCmdOnce (p : Pins) (tx : List Byte) (rxlen : ℕ) :
    Host σ (RspClass × List Byte) := do
  onlyIf (g.cfg.wakeHandshake = true) (ncpWake p)
  let (n, rx) ← spiTxnFramed oob g p tx rxlen
  pure ((classify rx n).1, rx)

def doCmd (p : Pins) (tx : List Byte) (rxlen : ℕ) (retryOnReset : Bool) :
    Host σ (RspClass × List Byte) := do
  let (cls, rx) ← doCmdOnce oob g p tx rxlen
  if cls = .reset ∧ retryOnReset = true then doCmdOnce oob g p tx rxlen
  else pure (cls, rx)

/-! ## Sending -/

/-- `i < len ? frame[i] : tail[i - len]`. -/
def textAt (frame : List Byte) (len : ℕ) (tail : List Byte) (i : ℕ) :
    Host σ Byte :=
  if i < len then readAt oob frame i else readAt oob tail (i - len)

/-- The loop of `ash_send` from index `i`, with `pos` bytes of `buf`
written. -/
def stuffLoop (frame : List Byte) (len : ℕ) (tail : List Byte) :
    (rounds i pos : ℕ) → List Byte → Host σ (ℕ × List Byte)
  | 0, _, pos, buf => pure (pos, buf)
  | rounds + 1, i, pos, buf => do
      let c ← textAt oob frame len tail i
      if ashReserved c = true then do
        let buf ← writeAt oob buf pos ashEsc
        let buf ← writeAt oob buf (pos + 1) (c ^^^ 0x20)
        stuffLoop frame len tail rounds (i + 1) (pos + 2) buf
      else do
        let buf ← writeAt oob buf pos c
        stuffLoop frame len tail rounds (i + 1) (pos + 1) buf

/-- `ash_send` of the first `len` bytes of `frame`. -/
def ashSend (m : BridgeArrays) (frame : List Byte) (len : ℕ) : Host σ Bool :=
  if m.cli < 0 ∨ len + 2 > ashMaxFrame + 2 then pure false
  else do
    let covered ← readRange oob frame 0 len
    let (pos, buf) ← stuffLoop oob frame len (ashTail covered) (len + 2) 0 0
      (local' junk (ashMaxFrame * 2 + 8))
    let buf ← writeAt oob buf pos ashFlag
    let out ← readRange oob buf 0 (pos + 1)
    writeAll m.cli out

def ashSendAck (m : BridgeArrays) : Host σ Unit :=
  discard (ashSend oob junk m [0x80 ||| (m.ack &&& 0x07)] 1)

/-- `dst[d + i] = src[s + i] ^ ash_rand[i]`, from index `i` on. -/
def maskLoop (src : List Byte) (s d : ℕ) :
    (rounds i : ℕ) → List Byte → Host σ (List Byte)
  | 0, _, dst => pure dst
  | rounds + 1, i, dst => do
      let c ← readAt oob src (s + i)
      let r ← readAt oob ashRand i
      let dst ← writeAt oob dst (d + i) (c ^^^ r)
      maskLoop src s d rounds (i + 1) dst

/-- An index into the eight slots. -/
def slotAt (i : ℕ) : Host σ (Fin ashWindow) :=
  if h : i < ashWindow then pure ⟨i, h⟩ else oob (Fin ashWindow)

def ashSendData (m : BridgeArrays) (ezsp : List Byte) (len : ℕ) :
    Host σ BridgeArrays :=
  if len + 1 > ashMaxFrame then pure m
  else do
    let body ← writeAt oob (local' junk ashMaxFrame) 0
      (((m.frm &&& 0x07) <<< 4) ||| (m.ack &&& 0x07))
    let body ← maskLoop oob ezsp 0 1 len 0 body
    let n ← slotAt oob (m.frm &&& 0x07).toNat
    let stored ← Filled.copyFrom oob (m.sent n) body 0 (len + 1)
    note (.store stored.used)
    let m' := { m with
      sent := Function.update m.sent n stored
      frm := nextNumber m.frm
      frm_le := nextNumber_le m.frm }
    let _ ← ashSend oob junk m' body (len + 1)
    pure m'

def retransmitFrom (m : BridgeArrays) : (tests : ℕ) → (n : Byte) → Host σ Unit
  | 0, _ => halt .stuck
  | tests + 1, n =>
      if n = m.frm then pure ()
      else do
        let i ← slotAt oob (n &&& 0x07).toNat
        let len := (m.sent i).len
        onlyIf (len ≠ 0) (do
          let body ← copyRange oob (local' junk ashMaxFrame) 0
            (m.sent i).cells 0 len
          let ctrl ← readAt oob body 0
          let body ← writeAt oob body 0 (ctrl ||| 0x08)
          discard (ashSend oob junk m body len))
        retransmitFrom m tests (nextNumber n)

def ashRetransmit (m : BridgeArrays) (n : Byte) : Host σ Unit :=
  retransmitFrom oob junk m 9 n

/-! ## Relaying -/

/-- `ezsp_relay` of the first `inlen` bytes of `in'` into `out`. -/
def ezspRelay (p : Pins) (in' : List Byte) (inlen : ℕ) {outmax : ℕ}
    (out : Filled Byte outmax) : Host σ (Option (Filled Byte outmax)) :=
  if inlen = 0 ∨ inlen > 255 ∨ inlen + 3 > ashMaxFrame + 8 then pure none
  else do
    let tx ← writeAt oob (local' junk (ashMaxFrame + 8)) 0 spiCmdEzspFrame
    let tx ← writeAt oob tx 1 (BitVec.ofNat 8 inlen)
    let tx ← copyRange oob tx 2 in' 0 inlen
    let tx ← writeAt oob tx (2 + inlen) spiFrameTerminator
    let command ← readRange oob tx 0 (inlen + 3)
    let (cls, rx) ← doCmd oob g p command 260 true
    if cls ≠ .ezsp then pure none
    else do
      let count ← readAt oob rx 1
      let out ← Filled.copyFrom oob out rx 2 (min count.toNat outmax)
      pure (some out)

/-- `f[8]` of a callback poll, and how many bytes of it are in use. -/
def pollFrame (ver : Int) (seq : Byte) : Host σ (ℕ × List Byte) := do
  let f ← writeAt oob (local' junk 8) 0 seq
  if ver ≥ 8 then do
    let f ← writeRange oob f 1 [0x00, 0x01, ezspCallback, 0x00]
    pure (5, f)
  else if ver ≥ 5 then do
    let f ← writeRange oob f 1 [0x00, 0xFF, 0x00, ezspCallback]
    pure (5, f)
  else do
    let f ← writeRange oob f 1 [0x00, ezspCallback]
    pure (3, f)

def ezspRelayCallback (m : BridgeArrays) (out : Filled Byte ashMaxFrame) :
    Host σ (BridgeArrays × Filled Byte ashMaxFrame) := do
  note (.relayCallback m.toBridge)
  let (_, idOff) := ezspLayout m.ver
  let m' := { m with cbseq := m.cbseq + 1 }
  let (n, f) ← pollFrame oob junk m.ver m.cbseq
  let reply ← ezspRelay oob junk g m.p f n out
  match reply with
  | none => pure (m', out.clear)
  | some out =>
      if out.len ≤ idOff then pure (m', out.clear)
      else do
        let id ← readAt oob out.cells idOff
        if id = ezspNoCallbacks then pure (m', out.clear) else pure (m', out)

/-- The rounds of the drain, with the array they share. -/
def drainRounds : (rounds : ℕ) → BridgeArrays → Filled Byte ashMaxFrame →
    Host σ BridgeArrays
  | 0, m, _ => pure m
  | rounds + 1, m, frame => do
      let level ← gpioGet m.p.hint
      if level ≠ some false then pure m
      else do
        let (m, frame) ← ezspRelayCallback oob junk g m frame
        if frame.len = 0 then pure m
        else do
          let m ← ashSendData oob junk m frame.cells frame.len
          drainRounds rounds m frame

def bridgeDrainCallbacks (m : BridgeArrays) : Host σ BridgeArrays :=
  if m.cli < 0 ∨ m.ready = false ∨ m.negotiated = false ∨ m.p.hint < 0 then
    pure m
  else drainRounds oob junk g 32 m (localFilled junk ashMaxFrame)

/-! ## Receiving -/

def bridgeReset (m : BridgeArrays) : Host σ BridgeArrays := do
  ncpReset m.p
  let m := { m with
    frm := 0
    frm_le := Nat.zero_le 7
    ack := 0
    ack_le := Nat.zero_le 7
    ver := 4
    sent := fun _ => localFilled 0 ashMaxFrame }
  let _ ← ashSend oob junk m rstackFrame 3
  pure { m with ready := true, negotiated := false }

/-- The version in a reply of `rlen` bytes to a frame of `plen` bytes. -/
def sniffVersion (ver : Int) (ezsp : List Byte) (plen : ℕ)
    (resp : List Byte) (rlen : ℕ) : Host σ (Option Byte) :=
  let (hdr, idOff) := ezspLayout ver
  if idOff < plen then do
    let id ← readAt oob ezsp idOff
    if id = ezspVersion ∧ hdr < rlen then do
      let neg ← readAt oob resp hdr
      pure (if 4 ≤ neg ∧ neg ≤ 13 then some neg else none)
    else pure none
  else pure none

def adoptVersion (m : BridgeArrays) (ezsp : List Byte) (plen : ℕ)
    (resp : List Byte) (rlen : ℕ) : Host σ BridgeArrays := do
  let version ← sniffVersion oob m.ver ezsp plen resp rlen
  match version with
  | none => pure m
  | some neg => do
      note (.negotiated neg)
      pure { m with ver := neg.toNat, negotiated := true }

/-- The DATA branch of `bridge_handle_frame`, for the first `len` bytes of
`f`. -/
def bridgeHandleData (m : BridgeArrays) (f : List Byte) (len : ℕ) :
    Host σ BridgeArrays :=
  let plen := len - 1
  if plen = 0 ∨ plen > ashMaxFrame then pure m
  else do
    let ezsp ← maskLoop oob f 1 0 plen 0 (local' junk ashMaxFrame)
    let ctrl ← readAt oob f 0
    let m' := { m with
      ack := nextNumber ((ctrl >>> 4) &&& 0x07)
      ack_le := nextNumber_le _ }
    ashSendAck oob junk m'
    note (.relay m.toBridge (f.take len))
    let reply ← ezspRelay oob junk g m'.p ezsp plen
      (localFilled junk ashMaxFrame)
    match reply with
    | none => pure m'
    | some resp =>
        if resp.len = 0 then pure m'
        else do
          let m' ← adoptVersion oob m' ezsp plen resp.cells resp.len
          let m' ← ashSendData oob junk m' resp.cells resp.len
          bridgeDrainCallbacks oob junk g m'

def bridgeHandleFrame (m : BridgeArrays) (f : List Byte) (len : ℕ) :
    Host σ BridgeArrays := do
  note (.handleFrame m.toBridge (f.take len))
  let ctrl ← readAt oob f 0
  if ctrl = ashCtrlRst then bridgeReset oob junk m
  else if ctrl &&& 0xE0 = 0x80 then pure m
  else if ctrl &&& 0xE0 = 0xA0 then do
    ashRetransmit oob junk m (ctrl &&& 0x07)
    pure m
  else if ctrl &&& 0x80 ≠ 0 then pure m
  else if m.ready = false then pure m
  else bridgeHandleData oob junk g m f len

/-- The frame check on a receive buffer with at least three bytes in it. -/
def ashChecked (rx : Filled Byte (ashMaxFrame * 2)) : Host σ Bool := do
  let high ← readAt oob rx.cells (rx.len - 2)
  let low ← readAt oob rx.cells (rx.len - 1)
  let covered ← readRange oob rx.cells 0 (rx.len - 2)
  let want := (high.setWidth 16 <<< 8) ||| low.setWidth 16
  pure (decide (ashCrc covered = want))

def bridgeFlag (m : BridgeArrays) : Host σ BridgeArrays := do
  let m ←
    if 3 ≤ m.rx.len then do
      let ok ← ashChecked oob m.rx
      if ok = true then
        bridgeHandleFrame oob junk g m m.rx.cells (m.rx.len - 2)
      else pure m
    else pure m
  pure { m with rx := m.rx.clear, esc := false }

def bridgeFeedByte (m : BridgeArrays) (c : Byte) : Host σ BridgeArrays :=
  if c = ashXon ∨ c = ashXoff then pure m
  else if c = ashCancel then pure { m with rx := m.rx.clear, esc := false }
  else if c = ashSub then pure { m with rx := m.rx.clear, esc := true }
  else if c = ashEsc then pure { m with esc := true }
  else if c = ashFlag then bridgeFlag oob junk g m
  else
    let c' := if m.esc then c ^^^ 0x20 else c
    if m.rx.len < ashMaxFrame * 2 then do
      let rx ← Filled.push oob m.rx c'
      pure { m with rx := rx, esc := false }
    else pure { m with rx := m.rx.clear, esc := false }

def bridgeFeed (m : BridgeArrays) (buf : List Byte) : Host σ BridgeArrays :=
  buf.foldlM (bridgeFeedByte oob junk g) m

/-! ## The main loop -/

def bridgeInit (p : Pins) (srv : Int) : BridgeArrays where
  p := p
  srv := srv
  cli := -1
  ready := false
  negotiated := false
  frm := 0
  frm_le := Nat.zero_le 7
  ack := 0
  ack_le := Nat.zero_le 7
  cbseq := 0
  ver := 4
  rx := localFilled 0 (ashMaxFrame * 2)
  esc := false
  sent := fun _ => localFilled 0 ashMaxFrame

def bridgeDropClient (m : BridgeArrays) : Host σ BridgeArrays :=
  if m.cli < 0 then pure m
  else do
    call (I := host) (.close m.cli)
    pure { m with cli := -1, rx := m.rx.clear, esc := false }

def bridgeAccepted (m : BridgeArrays) (fd : ℕ) : BridgeArrays :=
  { m with
    cli := fd
    ready := false
    negotiated := false
    rx := m.rx.clear
    esc := false
    frm := 0
    frm_le := Nat.zero_le 7
    ack := 0
    ack_le := Nat.zero_le 7
    ver := 4
    sent := fun _ => localFilled 0 ashMaxFrame }

def bridgeAccept (m : BridgeArrays) : Host σ BridgeArrays := do
  let fd ← call (I := host) (.accept m.srv)
  match fd with
  | none => pure m
  | some fd => do
      let m ← if 0 ≤ m.cli then bridgeDropClient m else pure m
      pure (bridgeAccepted m fd)

def bridgeRead (m : BridgeArrays) : Host σ BridgeArrays := do
  let got ← call (I := host) (.read m.cli)
  match got with
  | .bytes [] => bridgeDropClient m
  | .bytes buf => bridgeFeed oob junk g m buf
  | .interrupted => pure m
  | .failed => bridgeDropClient m

def bridgeServeClient (m : BridgeArrays) (ivCli ivHint : Option ℕ)
    (revents : ℕ → Revents) : Host σ BridgeArrays := do
  onlyIf (ivHint.any (fun iv => (revents iv).pollin) = true)
    (call (I := host) (.gpioReadEdge m.p.hint))
  if ivCli.any (fun iv => (revents iv).pollerr || (revents iv).pollhup) then
    bridgeDropClient m
  else do
    let m ←
      if ivCli.any (fun iv => (revents iv).pollin) then
        bridgeRead oob junk g m
      else pure m
    bridgeDrainCallbacks oob junk g m

def bridgeServe (m : BridgeArrays) (ivCli ivHint : Option ℕ)
    (revents : ℕ → Revents) : Host σ BridgeArrays := do
  let m ← if (revents 0).pollin then bridgeAccept m else pure m
  bridgeServeClient oob junk g m ivCli ivHint revents

def bridgePass (m : BridgeArrays) : Host σ BridgeArrays := do
  let watch ← bridgeWatch m.toBridge
  let cliFds := if 0 ≤ m.cli then [m.cli] else []
  let hintFds := if watch then [m.p.hint] else []
  let ivCli := if 0 ≤ m.cli then some 1 else none
  let ivHint := if watch then some (1 + cliFds.length) else none
  let timeout := if 0 ≤ m.cli ∧ m.p.hint < 0 then 20 else 1000
  let got ← call (I := host) (.poll ([m.srv] ++ cliFds ++ hintFds) timeout)
  match got with
  | .interrupted => pure m
  | .failed => die
  | .ready revents => bridgeServe oob junk g m ivCli ivHint revents

def cmdBridge : (passes : ℕ) → BridgeArrays → Host σ BridgeArrays
  | 0, m => pure m
  | passes + 1, m => do
      let m ← bridgePass oob junk g m
      cmdBridge passes m

end EzspSpi.Arrays
