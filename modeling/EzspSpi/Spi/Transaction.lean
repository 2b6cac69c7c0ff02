import EzspSpi.Host.Gpio

/-!
# EZSP-SPI transactions

`spi.c` and the command layer of `probe.c`: one transfer, one framed
transaction, the classification of its response, and a command that is sent
again once after a reset notification.
-/

namespace EzspSpi

open Program

variable {σ : Type} [Kernel σ] (g : Globals)

/-- One transfer; it dies on a failed ioctl.  The bytes received are the
result, which a caller without a receive buffer ignores. -/
def spiRaw (tx : List Byte) (keepRx keepCs : Bool) : Host σ (List Byte) := do
  let rx ← call (I := host) (.spiTransfer tx keepRx keepCs)
  match rx with
  | some rx => pure rx.toList
  | none => die

/-- One idle byte clocked, and the byte that came back. -/
def spiIdleByte (keepCs : Bool) : Host σ Byte := do
  let rx ← spiRaw [spiIdle] true keepCs
  pure (rx.headD spiIdle)

/-- Both lines of the chip select, driven to one level: `cs_assert` is low and
`cs_release` is high. -/
def csDrive (p : Pins) (level : Bool) : Host σ Unit := do
  onlyIf (0 ≤ p.cs) (gpioSet p.cs level)
  onlyIf (0 ≤ p.nsselInt ∧ g.csFollows = true) (gpioSet p.nsselInt level)

def csAssert (p : Pins) : Host σ Unit := csDrive g p false

def csRelease (p : Pins) : Host σ Unit := csDrive g p true

/-- The wait states: idle bytes until the NCP starts answering, at most
`rounds` of them. -/
def waitStates : (rounds : ℕ) → Host σ Byte
  | 0 => pure spiIdle
  | rounds + 1 => do
      let b ← spiIdleByte true
      if b ≠ spiIdle then pure b else waitStates rounds

/-- The receive buffer of `rxlen` zeros with these bytes at its start. -/
def rxBuffer (received : List Byte) (rxlen : ℕ) : List Byte :=
  received ++ List.replicate (rxlen - received.length) 0

/-- The response up to the point where its length is known, and the number of
bytes the response type leaves to read. -/
def responseHead (b : Byte) (rxlen : ℕ) : Host σ (List Byte × ℕ) :=
  if b = spiCmdEzspFrame then
    -- 0xFE <len> <payload> 0xA7
    if 1 < rxlen then do
      let len ← spiIdleByte true
      pure ([b, len], len.toNat + 1)
    else pure ([b], 1)
  else if b ≤ spiErrUnsupported then
    pure ([b], 2)
  else
    pure ([b], 1)

/-- The final transfer, of exactly the bytes that are left; a kernel-driven
chip select is released with it. -/
def responseTail (p : Pins) (remain : ℕ) : Host σ (List Byte) :=
  if remain ≠ 0 then
    spiRaw (List.replicate remain spiIdle) true (decide (0 ≤ p.cs))
  else if p.cs < 0 then do
    let _ ← spiIdleByte false
    pure []
  else pure []

/-- `spi_txn_framed`: the number of bytes received and the receive buffer. -/
def spiTxnFramed (p : Pins) (tx : List Byte) (rxlen : ℕ) :
    Host σ (ℕ × List Byte) := do
  csAssert g p
  onlyIf (tx ≠ []) (discard (spiRaw tx false true))
  let b ← waitStates g.cfg.waitBytes
  if b = spiIdle then do
    if 0 ≤ p.cs then csRelease g p else discard (spiIdleByte false)
    pure (0, rxBuffer [] rxlen)
  else do
    let (head, remain) ← responseHead b rxlen
    let tail ← responseTail p (min (min remain (rxlen - head.length)) 260)
    csRelease g p
    pure ((head ++ tail).length, rxBuffer (head ++ tail) rxlen)

/-- Index of the first of the first `rxlen` bytes that is not idle. -/
def spiFirstResponse (rx : List Byte) (rxlen : ℕ) : Option ℕ :=
  (rx.take rxlen).findIdx? fun c => decide (c ≠ spiIdle)

/-- `classify`: the class, the first response byte and the byte after it. -/
def classify (rx : List Byte) (rxlen : ℕ) : RspClass × Byte × Byte :=
  match spiFirstResponse rx rxlen with
  | none => (.idle, 0, 0)
  | some i =>
      let first := rx.getD i 0
      let data := if i + 1 < rxlen then rx.getD (i + 1) 0 else 0
      if first = 0xFE then (.ezsp, first, data)
      else if first &&& 0xC0 = 0x80 then (.version, first, data)
      else if first &&& 0xFE = 0xC0 then (.status, first, data)
      else if first = 0x00 then (.reset, first, data)
      else if first ≤ 0x04 then (.error, first, data)
      else (.other, first, data)

/-- One round of `do_cmd`: wake the NCP, run the transaction, classify. -/
def doCmdOnce (p : Pins) (tx : List Byte) (rxlen : ℕ) :
    Host σ (RspClass × List Byte) := do
  onlyIf (g.cfg.wakeHandshake = true) (ncpWake p)
  let (n, rx) ← spiTxnFramed g p tx rxlen
  pure ((classify rx n).1, rx)

/-- `do_cmd`: the class of the response and the receive buffer.  A reset
notification takes the place of the first response after a reset, so the
command is sent once more. -/
def doCmd (p : Pins) (tx : List Byte) (rxlen : ℕ) (retryOnReset : Bool) :
    Host σ (RspClass × List Byte) := do
  let (cls, rx) ← doCmdOnce g p tx rxlen
  if cls = .reset ∧ retryOnReset = true then doCmdOnce g p tx rxlen
  else pure (cls, rx)

/-! ## What a transaction returns -/

/-- A transfer returns as many bytes as it sends. -/
theorem spiRaw_yields (tx : List Byte) (keepRx keepCs : Bool) :
    Yields (fun got => got.length = tx.length)
      (spiRaw tx keepRx keepCs : Host σ (List Byte)) := by
  rw [spiRaw]
  apply Yields.after
  intro answer
  cases answer with
  | none => exact Yields.halt
  | some got => exact Yields.pure got.2

theorem length_rxBuffer {received : List Byte} {rxlen : ℕ}
    (h : received.length ≤ rxlen) :
    (rxBuffer received rxlen).length = rxlen := by
  rw [rxBuffer, List.length_append, List.length_replicate]
  omega

theorem responseHead_yields (b : Byte) {rxlen : ℕ}
    (hrxlen : 1 ≤ rxlen) :
    Yields (fun out => out.1.length ≤ rxlen)
      (responseHead b rxlen : Host σ (List Byte × ℕ)) := by
  rw [responseHead]
  apply Yields.ite
  · intro _
    apply Yields.ite
    · intro hlong
      apply Yields.after
      exact fun _ => Yields.pure hlong
    · exact fun _ => Yields.pure hrxlen
  · intro _
    apply Yields.ite
    · exact fun _ => Yields.pure hrxlen
    · exact fun _ => Yields.pure hrxlen

theorem responseTail_yields (p : Pins) (remain : ℕ) :
    Yields (fun tail => tail.length ≤ remain)
      (responseTail p remain : Host σ (List Byte)) := by
  rw [responseTail]
  apply Yields.ite
  · intro _
    constructor
    intro s got hgot
    have hlength := (spiRaw_yields _ _ _).value s got hgot
    rw [List.length_replicate] at hlength
    exact hlength.le
  · intro _
    apply Yields.ite
    · intro _
      apply Yields.after
      exact fun _ => Yields.pure (Nat.zero_le _)
    · exact fun _ => Yields.pure (Nat.zero_le _)

/-- The receive buffer keeps its size. -/
theorem spiTxnFramed_yields (p : Pins) (tx : List Byte) {rxlen : ℕ}
    (hrxlen : 1 ≤ rxlen) :
    Yields (fun out => out.2.length = rxlen)
      (spiTxnFramed g p tx rxlen : Host σ (ℕ × List Byte)) := by
  rw [spiTxnFramed]
  apply Yields.after
  intro _
  apply Yields.after
  intro _
  apply Yields.after
  intro b
  apply Yields.ite
  · intro _
    have hnothing : Yields (fun out => out.2.length = rxlen)
        (pure (0, rxBuffer [] rxlen) : Host σ (ℕ × List Byte)) :=
      Yields.pure (length_rxBuffer (Nat.zero_le rxlen))
    dsimp only
    apply Yields.ite
    · intro _
      apply Yields.after
      exact fun _ => hnothing
    · intro _
      apply Yields.after
      exact fun _ => hnothing
  · intro _
    apply (responseHead_yields (σ := σ) b hrxlen).bind
    rintro ⟨head, remain⟩ hhead
    dsimp only at hhead ⊢
    apply (responseTail_yields (σ := σ) p
      (min (min remain (rxlen - head.length)) 260)).bind
    intro tail htail
    apply Yields.after
    intro _
    apply Yields.pure
    apply length_rxBuffer
    rw [List.length_append]
    omega

theorem doCmd_yields (p : Pins) (tx : List Byte) {rxlen : ℕ}
    (hrxlen : 1 ≤ rxlen) (retryOnReset : Bool) :
    Yields (fun out => out.2.length = rxlen)
      (doCmd g p tx rxlen retryOnReset :
        Host σ (RspClass × List Byte)) := by
  have honce : Yields (fun out => out.2.length = rxlen)
      (doCmdOnce g p tx rxlen : Host σ (RspClass × List Byte)) := by
    rw [doCmdOnce]
    apply Yields.after
    intro _
    apply (spiTxnFramed_yields (σ := σ) g p tx hrxlen).bind
    rintro ⟨n, rx⟩ hlength
    exact Yields.pure hlength
  rw [doCmd]
  apply honce.bind
  rintro ⟨cls, rx⟩ hlength
  apply Yields.ite
  · exact fun _ => honce
  · exact fun _ => Yields.pure hlength

end EzspSpi
