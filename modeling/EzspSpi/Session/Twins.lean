import EzspSpi.Core.Twin
import EzspSpi.Session.Upkeep
import Mathlib.Data.Fintype.Basic

/-!
# What a client can tell of the bridge

The view from the client's side, and one rule for each function between the
client and the NCP: from bridge states that differ in the descriptor of the
client and the sequence number of the callback polls only, the function asks
and says the same as long as it is told the same.
-/

namespace EzspSpi

open Program

variable {σ τ : Type} [Kernel σ] [Kernel τ] (g : Globals)

/-- The kinds of calls that tell the bridge something. -/
inductive Channel where
  /-- Bytes of the NCP that are looked at. -/
  | response
  /-- A command clocked out. -/
  | command
  /-- A line driven. -/
  | drive
  /-- The level of a line. -/
  | level
  /-- The edges on a line. -/
  | edges
  | poll
  | accept
  | read
  | write
  deriving DecidableEq, Repr

instance : Fintype Channel where
  elems := {.response, .command, .drive, .level, .edges, .poll, .accept, .read,
    .write}
  complete k := by cases k <;> decide

/-- The events of a poll on the listening socket and the client. -/
inductive PollSeen where
  | interrupted
  | failed
  | ready (server client : Revents)
  deriving DecidableEq, Repr

/-- What the bridge looks at in the result of a poll, apart from the edge on
nHOST_INT. -/
def PollResult.seen : PollResult → PollSeen
  | .interrupted => .interrupted
  | .failed => .failed
  | .ready revents => .ready (revents 0) (revents 1)

/-- What the bridge is told: by the NCP, its interrupt line, the client and
the kernel. -/
inductive Told where
  | reply (rx : Option (List Byte))
  | commanded (ok : Bool)
  | driven (ok : Bool)
  | level (level : Option Bool)
  | edges (rounds : List EdgeWait)
  | polled (seen : PollSeen)
  | connected (new : Bool)
  | data (result : ReadResult)
  | wrote (rounds : List WriteResult)
  deriving DecidableEq, Repr

/-- An event as the client's side sees it: what the bridge is told, and the
frames it writes. -/
def witnessed : HostEvent → List (Sight (List Byte) Channel Told)
  | .call (.spiTransfer _ true _) rx =>
      [.told .response (.reply (rx.map (·.toList)))]
  | .call (.spiTransfer _ false _) rx => [.told .command (.commanded rx.isSome)]
  | .call (.gpioSetValue _ _) ok => [.told .drive (.driven ok)]
  | .call (.gpioGetValue _) level => [.told .level (.level level)]
  | .call (.gpioWaitEdges _ _) rounds => [.told .edges (.edges rounds)]
  | .call (.poll _ _) result => [.told .poll (.polled result.seen)]
  | .call (.accept _) fd => [.told .accept (.connected fd.isSome)]
  | .call (.read _) result => [.told .read (.data result)]
  | .call (.write _ buf) rounds => [.said buf, .told .write (.wrote rounds)]
  | _ => []

/-- What the bridge is told on a channel, call by call. -/
def toldOn (k : Channel) (t : List HostEvent) : List Told :=
  (sights witnessed t).filterMap (Sight.toldOn? k)

/-- The frames written in a trace, as they are on the wire. -/
def sentIn (t : List HostEvent) : List (List Byte) :=
  (sights witnessed t).filterMap Sight.said?

/-! ## Transactions -/

private theorem twin_of_call {c d : Call}
    {Q : Call.Resp c → Call.Resp d → Prop}
    (h : ∀ r r', Parted (witnessed (.call c r)) (witnessed (.call d r')) ∨
      (witnessed (.call c r) = witnessed (.call d r') ∧ Q r r')) :
    Twin witnessed Q (call (I := host) c : Host σ _)
      (call (I := host) d : Host τ _) := Twin.call h

/-- A call that is told one thing, on the same channel by both. -/
private theorem twin_of_told {c d : Call} (channel : Channel)
    {f : Call.Resp c → Told} {k : Call.Resp d → Told}
    (hf : ∀ r, witnessed (.call c r) = [.told channel (f r)])
    (hk : ∀ r, witnessed (.call d r) = [.told channel (k r)])
    {Q : Call.Resp c → Call.Resp d → Prop}
    (hQ : ∀ r r', f r = k r' → Q r r') :
    Twin witnessed Q (call (I := host) c : Host σ _)
      (call (I := host) d : Host τ _) := by
  apply twin_of_call
  intro r r'
  rw [hf, hk]
  by_cases heq : f r = k r'
  · exact Or.inr ⟨by rw [heq], hQ r r' heq⟩
  · exact Or.inl (Parted.head heq [] [])

theorem gpioSet_twin (fd : Int) (value : Bool) :
    Twin witnessed Eq (gpioSet fd value : Host σ Unit)
      (gpioSet fd value : Host τ Unit) := by
  have hcall := twin_of_told (σ := σ) (τ := τ)
    (c := .gpioSetValue fd value) (d := .gpioSetValue fd value) .drive
    (f := Told.driven) (k := Told.driven) (fun _ => rfl) (fun _ => rfl)
    (Q := Eq) fun _ _ heq => Told.driven.inj heq
  rw [gpioSet, gpioSet]
  apply hcall.bind
  rintro ok _ rfl
  exact Twin.ite Iff.rfl (fun _ => Twin.pure rfl) fun _ => Twin.halt

theorem gpioGet_twin (fd : Int) :
    Twin witnessed Eq (gpioGet fd : Host σ (Option Bool))
      (gpioGet fd : Host τ (Option Bool)) :=
  twin_of_told (c := .gpioGetValue fd) (d := .gpioGetValue fd)
    .level (f := Told.level) (k := Told.level) (fun _ => rfl)
    (fun _ => rfl) (Q := Eq) fun _ _ heq => Told.level.inj heq

theorem gpioDrainEvents_twin (fd : Int) :
    Twin witnessed Eq (gpioDrainEvents fd : Host σ Unit)
      (gpioDrainEvents fd : Host τ Unit) :=
  twin_of_call (c := .gpioDrainEdges fd) (d := .gpioDrainEdges fd) (Q := Eq)
    fun _ _ => Or.inr ⟨rfl, rfl⟩

omit [Kernel σ] [Kernel τ] in
private theorem gpioWaitRounds_twin (rounds : List EdgeWait) :
    Twin witnessed Eq (gpioWaitRounds rounds : Host σ (Option ℕ))
      (gpioWaitRounds rounds : Host τ (Option ℕ)) := by
  induction rounds with
  | nil => exact Twin.halt
  | cons round rounds ih =>
      cases round with
      | interrupted => exact ih
      | rising => exact ih
      | failed => exact Twin.pure rfl
      | timeout => exact Twin.pure rfl
      | shortRead => exact Twin.pure rfl
      | falling elapsedMs => exact Twin.pure rfl

theorem gpioWaitFalling_twin (fd : Int) (timeoutMs : ℕ) :
    Twin witnessed Eq (gpioWaitFalling fd timeoutMs : Host σ (Option ℕ))
      (gpioWaitFalling fd timeoutMs : Host τ (Option ℕ)) := by
  have hcall := twin_of_told (σ := σ) (τ := τ)
    (c := .gpioWaitEdges fd timeoutMs) (d := .gpioWaitEdges fd timeoutMs)
    .edges (f := Told.edges) (k := Told.edges) (fun _ => rfl)
    (fun _ => rfl) (Q := Eq) fun _ _ heq => Told.edges.inj heq
  rw [gpioWaitFalling, gpioWaitFalling]
  apply hcall.bind
  rintro rounds _ rfl
  exact gpioWaitRounds_twin rounds

theorem ncpReset_twin (p : Pins) :
    Twin witnessed Eq (ncpReset p : Host σ Unit)
      (ncpReset p : Host τ Unit) := by
  rw [ncpReset, ncpReset]
  apply (gpioSet_twin p.wake true).bind
  intro _ _ _
  apply (gpioSet_twin p.reset false).bind
  intro _ _ _
  apply (Twin.onlyIf (fun _ => gpioDrainEvents_twin p.hint) rfl).bind
  intro _ _ _
  apply (gpioSet_twin p.reset true).bind
  intro _ _ _
  apply Twin.onlyIf _ rfl
  intro _
  exact (gpioWaitFalling_twin p.hint 2000).discard rfl

theorem ncpWake_twin (p : Pins) :
    Twin witnessed Eq (ncpWake p : Host σ Unit)
      (ncpWake p : Host τ Unit) := by
  rw [ncpWake, ncpWake]
  apply Twin.ite Iff.rfl
  · intro _
    apply (gpioSet_twin p.wake false).bind
    exact fun _ _ _ => gpioSet_twin p.wake true
  · intro _
    apply (gpioGet_twin p.hint).bind
    rintro level _ rfl
    apply Twin.ite Iff.rfl
    · exact fun _ => Twin.pure rfl
    · intro _
      apply (gpioDrainEvents_twin p.hint).bind
      intro _ _ _
      apply (gpioSet_twin p.wake false).bind
      intro _ _ _
      apply (gpioWaitFalling_twin p.hint 100).bind
      exact fun _ _ _ => gpioSet_twin p.wake true

/-- Bytes received are part of the view. -/
private theorem spiRaw_twin {tx tx' : List Byte} (keepCs : Bool) :
    Twin witnessed Eq (spiRaw tx true keepCs : Host σ (List Byte))
      (spiRaw tx' true keepCs : Host τ (List Byte)) := by
  have hcall := twin_of_told (σ := σ) (τ := τ)
    (c := .spiTransfer tx true keepCs) (d := .spiTransfer tx' true keepCs)
    .response (f := fun rx => .reply (rx.map (·.toList)))
    (k := fun rx => .reply (rx.map (·.toList))) (fun _ => rfl)
    (fun _ => rfl)
    (Q := fun rx rx' => rx.map (·.toList) = rx'.map (·.toList))
    fun _ _ heq => Told.reply.inj heq
  rw [spiRaw, spiRaw]
  apply hcall.bind
  intro rx rx' hrx
  cases rx with
  | none =>
      cases rx' with
      | none => exact Twin.halt
      | some rx' => cases hrx
  | some rx =>
      cases rx' with
      | none => cases hrx
      | some rx' => exact Twin.pure (Option.some.inj hrx)

/-- A command is not, and what it clocks back is not kept. -/
private theorem spiRaw_command_twin {tx tx' : List Byte} (keepCs : Bool) :
    Twin witnessed Eq (discard (spiRaw tx false keepCs) : Host σ Unit)
      (discard (spiRaw tx' false keepCs) : Host τ Unit) := by
  have hcall := twin_of_told (σ := σ) (τ := τ)
    (c := .spiTransfer tx false keepCs) (d := .spiTransfer tx' false keepCs)
    .command (f := fun rx => .commanded rx.isSome)
    (k := fun rx => .commanded rx.isSome) (fun _ => rfl) (fun _ => rfl)
    (Q := fun rx rx' => rx.isSome = rx'.isSome)
    fun _ _ heq => Told.commanded.inj heq
  have hraw : Twin witnessed (fun _ _ => True)
      (spiRaw tx false keepCs : Host σ (List Byte))
      (spiRaw tx' false keepCs : Host τ (List Byte)) := by
    rw [spiRaw, spiRaw]
    apply hcall.bind
    intro rx rx' hrx
    cases rx with
    | none =>
        cases rx' with
        | none => exact Twin.halt
        | some rx' => cases hrx
    | some rx =>
        cases rx' with
        | none => cases hrx
        | some rx' => exact Twin.pure trivial
  exact hraw.discard rfl

private theorem spiIdleByte_twin (keepCs : Bool) :
    Twin witnessed Eq (spiIdleByte keepCs : Host σ Byte)
      (spiIdleByte keepCs : Host τ Byte) := by
  rw [spiIdleByte, spiIdleByte]
  apply (spiRaw_twin keepCs).bind
  rintro rx _ rfl
  exact Twin.pure rfl

private theorem csDrive_twin (p : Pins) (level : Bool) :
    Twin witnessed Eq (csDrive g p level : Host σ Unit)
      (csDrive g p level : Host τ Unit) := by
  rw [csDrive, csDrive]
  apply (Twin.onlyIf (fun _ => gpioSet_twin p.cs level) rfl).bind
  intro _ _ _
  exact Twin.onlyIf (fun _ => gpioSet_twin p.nsselInt level) rfl

private theorem waitStates_twin (rounds : ℕ) :
    Twin witnessed Eq (waitStates rounds : Host σ Byte)
      (waitStates rounds : Host τ Byte) := by
  induction rounds with
  | zero => exact Twin.pure rfl
  | succ rounds ih =>
      rw [waitStates, waitStates]
      apply (spiIdleByte_twin true).bind
      rintro b _ rfl
      exact Twin.ite Iff.rfl (fun _ => Twin.pure rfl) fun _ => ih

private theorem responseHead_twin (b : Byte) (rxlen : ℕ) :
    Twin witnessed Eq (responseHead b rxlen : Host σ (List Byte × ℕ))
      (responseHead b rxlen : Host τ (List Byte × ℕ)) := by
  rw [responseHead, responseHead]
  apply Twin.ite Iff.rfl
  · intro _
    apply Twin.ite Iff.rfl
    · intro _
      apply (spiIdleByte_twin true).bind
      rintro len _ rfl
      exact Twin.pure rfl
    · exact fun _ => Twin.pure rfl
  · intro _
    exact Twin.ite Iff.rfl (fun _ => Twin.pure rfl) fun _ => Twin.pure rfl

private theorem responseTail_twin (p : Pins) (remain : ℕ) :
    Twin witnessed Eq (responseTail p remain : Host σ (List Byte))
      (responseTail p remain : Host τ (List Byte)) := by
  rw [responseTail, responseTail]
  apply Twin.ite Iff.rfl
  · exact fun _ => spiRaw_twin _
  · intro _
    apply Twin.ite Iff.rfl
    · intro _
      exact (spiIdleByte_twin false).bind fun _ _ _ => Twin.pure rfl
    · exact fun _ => Twin.pure rfl

theorem spiTxnFramed_twin (p : Pins) {tx tx' : List Byte}
    (htx : tx ≠ []) (htx' : tx' ≠ []) (rxlen : ℕ) :
    Twin witnessed Eq (spiTxnFramed g p tx rxlen : Host σ (ℕ × List Byte))
      (spiTxnFramed g p tx' rxlen : Host τ (ℕ × List Byte)) := by
  rw [spiTxnFramed, spiTxnFramed, onlyIf, if_pos htx, onlyIf, if_pos htx']
  apply (csDrive_twin g p false).bind
  intro _ _ _
  apply (spiRaw_command_twin true).bind
  intro _ _ _
  apply (waitStates_twin _).bind
  rintro b _ rfl
  apply Twin.ite Iff.rfl
  · intro _
    apply Twin.ite Iff.rfl
    · intro _
      exact (csDrive_twin g p true).bind fun _ _ _ => Twin.pure rfl
    · intro _
      have hidle := (spiIdleByte_twin (σ := σ) (τ := τ) false).discard
        (P := Eq) rfl
      exact hidle.bind fun _ _ _ => Twin.pure rfl
  · intro _
    apply (responseHead_twin b rxlen).bind
    rintro ⟨head, remain⟩ _ rfl
    apply (responseTail_twin p _).bind
    rintro tail _ rfl
    exact (csDrive_twin g p true).bind fun _ _ _ => Twin.pure rfl

theorem doCmd_twin (p : Pins) {tx tx' : List Byte} (htx : tx ≠ [])
    (htx' : tx' ≠ []) (rxlen : ℕ) (retryOnReset : Bool) :
    Twin witnessed Eq
      (doCmd g p tx rxlen retryOnReset : Host σ (RspClass × List Byte))
      (doCmd g p tx' rxlen retryOnReset : Host τ (RspClass × List Byte)) := by
  have honce : Twin witnessed Eq
      (doCmdOnce g p tx rxlen : Host σ (RspClass × List Byte))
      (doCmdOnce g p tx' rxlen : Host τ (RspClass × List Byte)) := by
    rw [doCmdOnce, doCmdOnce]
    apply (Twin.onlyIf (fun _ => ncpWake_twin p) rfl).bind
    intro _ _ _
    apply (spiTxnFramed_twin g p htx htx' rxlen).bind
    rintro ⟨n, rx⟩ _ rfl
    exact Twin.pure rfl
  rw [doCmd, doCmd]
  apply honce.bind
  rintro ⟨cls, rx⟩ _ rfl
  exact Twin.ite Iff.rfl (fun _ => honce) fun _ => Twin.pure rfl

/-! ## Frames to the client -/

/-- The same but for the client's descriptor and the sequence number of the
callback polls. -/
structure Alike (b b' : Bridge) : Prop where
  eq : b' = { b with cli := b'.cli, cbseq := b'.cbseq }
  cli : 0 ≤ b.cli ↔ 0 ≤ b'.cli

theorem Alike.elim {b b' : Bridge} (h : Alike b b') :
    ∃ cli cbseq, b' = { b with cli := cli, cbseq := cbseq } ∧
      (0 ≤ b.cli ↔ 0 ≤ cli) :=
  ⟨b'.cli, b'.cbseq, h.eq, h.cli⟩

omit [Kernel σ] [Kernel τ] in
private theorem writeRounds_twin (left : ℕ) (rounds : List WriteResult) :
    Twin witnessed Eq (writeRounds left rounds : Host σ Bool)
      (writeRounds left rounds : Host τ Bool) := by
  induction rounds generalizing left with
  | nil =>
      cases left with
      | zero => exact Twin.pure rfl
      | succ left => exact Twin.halt
  | cons round rounds ih =>
      cases left with
      | zero => exact Twin.pure rfl
      | succ left =>
          cases round with
          | wrote n =>
              exact Twin.ite Iff.rfl (fun _ => ih _) fun _ => Twin.pure rfl
          | interrupted => exact ih _
          | failed => exact Twin.pure rfl
          | sigpipe => exact Twin.halt

private theorem writeAll_twin (fd fd' : Int) (buf : List Byte) :
    Twin witnessed Eq (writeAll fd buf : Host σ Bool)
      (writeAll fd' buf : Host τ Bool) := by
  have hcall : Twin witnessed Eq
      (call (I := host) (.write fd buf) : Host σ (List WriteResult))
      (call (I := host) (.write fd' buf) : Host τ (List WriteResult)) := by
    apply twin_of_call (c := .write fd buf) (d := .write fd' buf) (Q := Eq)
    intro rounds rounds'
    by_cases heq : rounds = rounds'
    · exact Or.inr ⟨by rw [heq]; rfl, heq⟩
    · have hne : Told.wrote rounds ≠ Told.wrote rounds' :=
        fun h => heq (Told.wrote.inj h)
      exact Or.inl ((Parted.head hne [] []).after [.said buf])
  rw [writeAll, writeAll]
  apply hcall.bind
  rintro rounds _ rfl
  exact writeRounds_twin _ rounds

theorem ashSend_twin {b b' : Bridge} (hcli : 0 ≤ b.cli ↔ 0 ≤ b'.cli)
    (frame : List Byte) :
    Twin witnessed Eq (ashSend b frame : Host σ Bool)
      (ashSend b' frame : Host τ Bool) := by
  have hgone : b.cli < 0 ↔ b'.cli < 0 := by rw [← not_le, hcli, not_le]
  rw [ashSend, ashSend]
  apply Twin.ite
  · rw [hgone]
  · exact fun _ => Twin.pure rfl
  · exact fun _ => writeAll_twin b.cli b'.cli _

theorem ashSendData_twin {b b' : Bridge} (hb : Alike b b')
    (ezsp : List Byte) :
    Twin witnessed Alike (ashSendData b ezsp : Host σ Bridge)
      (ashSendData b' ezsp : Host τ Bridge) := by
  obtain ⟨cli, cbseq, rfl, hcli⟩ := hb.elim
  rw [ashSendData, ashSendData]
  apply Twin.ite Iff.rfl
  · exact fun _ => Twin.pure hb
  · intro _
    apply (Twin.note (Q := Eq) rfl rfl).bind
    intro _ _ _
    apply (ashSend_twin hcli _).bind
    exact fun _ _ _ => Twin.pure ⟨rfl, hcli⟩

private theorem retransmitFrom_twin {b b' : Bridge} (hb : Alike b b')
    (tests : ℕ) (n : Byte) :
    Twin witnessed Eq (retransmitFrom b tests n : Host σ Unit)
      (retransmitFrom b' tests n : Host τ Unit) := by
  obtain ⟨cli, cbseq, rfl, hcli⟩ := hb.elim
  induction tests generalizing n with
  | zero => exact Twin.halt
  | succ tests ih =>
      rw [retransmitFrom, retransmitFrom]
      apply Twin.ite Iff.rfl
      · exact fun _ => Twin.pure rfl
      · intro _
        apply (Twin.onlyIf (Q := Eq) (fun _ => ?_) rfl).bind
        · exact fun _ _ _ => ih _
        · exact (ashSend_twin hcli _).discard rfl

/-! ## Callbacks -/

theorem ezspRelay_twin (p : Pins) {ezsp ezsp' : List Byte}
    (hlen : ezsp.length = ezsp'.length) (outmax : ℕ) :
    Twin witnessed Eq
      (ezspRelay g p ezsp outmax : Host σ (Option (List Byte)))
      (ezspRelay g p ezsp' outmax : Host τ (Option (List Byte))) := by
  rw [ezspRelay, ezspRelay]
  apply Twin.ite
  · rw [hlen]
  · exact fun _ => Twin.pure rfl
  · intro _
    apply (doCmd_twin g p (List.cons_ne_nil _ _) (List.cons_ne_nil _ _)
      260 true).bind
    rintro ⟨cls, rx⟩ _ rfl
    exact Twin.ite Iff.rfl (fun _ => Twin.pure rfl) fun _ => Twin.pure rfl

omit [Kernel σ] [Kernel τ] in
private theorem length_callbackPoll_eq (ver : Int) (seq seq' : Byte) :
    (callbackPoll ver seq).length = (callbackPoll ver seq').length := by
  rw [callbackPoll, callbackPoll]
  split_ifs <;> rfl

theorem ezspRelayCallback_twin {b b' : Bridge} (hb : Alike b b')
    (outmax : ℕ) :
    Twin witnessed (fun r r' => Alike r.1 r'.1 ∧ r.2 = r'.2)
      (ezspRelayCallback g b outmax : Host σ (Bridge × List Byte))
      (ezspRelayCallback g b' outmax : Host τ (Bridge × List Byte)) := by
  obtain ⟨cli, cbseq, rfl, hcli⟩ := hb.elim
  have hb' (seq seq' : Byte) : Alike { b with cbseq := seq }
      { b with cli := cli, cbseq := seq' } := ⟨rfl, hcli⟩
  rw [ezspRelayCallback, ezspRelayCallback]
  generalize ezspLayout b.ver = layout
  obtain ⟨hdr, idOff⟩ := layout
  have hnote : Twin witnessed Eq
      (note (Note.relayCallback b) : Host σ Unit)
      (note (Note.relayCallback { b with cli := cli, cbseq := cbseq }) :
        Host τ Unit) := Twin.note rfl rfl
  apply hnote.bind
  intro _ _ _
  apply (ezspRelay_twin g b.p (length_callbackPoll_eq b.ver b.cbseq cbseq)
    outmax).bind
  rintro reply _ rfl
  cases reply with
  | none => exact Twin.pure ⟨hb' _ _, rfl⟩
  | some out =>
      apply Twin.ite Iff.rfl
      · exact fun _ => Twin.pure ⟨hb' _ _, rfl⟩
      · intro _
        exact Twin.ite Iff.rfl (fun _ => Twin.pure ⟨hb' _ _, rfl⟩)
          fun _ => Twin.pure ⟨hb' _ _, rfl⟩

private theorem drainRounds_twin (rounds : ℕ) {b b' : Bridge}
    (hb : Alike b b') :
    Twin witnessed Alike (drainRounds g rounds b : Host σ Bridge)
      (drainRounds g rounds b' : Host τ Bridge) := by
  induction rounds generalizing b b' with
  | zero => exact Twin.pure hb
  | succ rounds ih =>
      have hhint : b'.p.hint = b.p.hint := by rw [hb.eq]
      rw [drainRounds, drainRounds, hhint]
      apply (gpioGet_twin b.p.hint).bind
      rintro level _ rfl
      apply Twin.ite Iff.rfl
      · exact fun _ => Twin.pure hb
      · intro _
        apply (ezspRelayCallback_twin g hb ashMaxFrame).bind
        rintro ⟨c, frame⟩ ⟨c', _⟩ ⟨hc, rfl⟩
        apply Twin.ite Iff.rfl
        · exact fun _ => Twin.pure hc
        · intro _
          exact (ashSendData_twin hc frame).bind fun _ _ hd => ih hd

theorem bridgeDrainCallbacks_twin {b b' : Bridge} (hb : Alike b b') :
    Twin witnessed Alike (bridgeDrainCallbacks g b : Host σ Bridge)
      (bridgeDrainCallbacks g b' : Host τ Bridge) := by
  obtain ⟨cli, cbseq, rfl, hcli⟩ := hb.elim
  have hgone : b.cli < 0 ↔ cli < 0 := by rw [← not_le, hcli, not_le]
  rw [bridgeDrainCallbacks, bridgeDrainCallbacks]
  apply Twin.ite
  · rw [hgone]
  · exact fun _ => Twin.pure hb
  · exact fun _ => drainRounds_twin g 32 hb

/-! ## Frames from the client -/

theorem bridgeReset_twin {b b' : Bridge} (hb : Alike b b') :
    Twin witnessed Alike (bridgeReset b : Host σ Bridge)
      (bridgeReset b' : Host τ Bridge) := by
  obtain ⟨cli, cbseq, rfl, hcli⟩ := hb.elim
  rw [bridgeReset, bridgeReset]
  apply (ncpReset_twin b.p).bind
  intro _ _ _
  apply (ashSend_twin hcli rstackFrame).bind
  exact fun _ _ _ => Twin.pure ⟨rfl, hcli⟩

omit [Kernel σ] [Kernel τ] in
private theorem adoptVersion_twin {b b' : Bridge} (hb : Alike b b')
    (ezsp resp : List Byte) :
    Twin witnessed Alike (adoptVersion b ezsp resp : Host σ Bridge)
      (adoptVersion b' ezsp resp : Host τ Bridge) := by
  obtain ⟨cli, cbseq, rfl, hcli⟩ := hb.elim
  rw [adoptVersion, adoptVersion]
  cases sniffVersion b.ver ezsp resp with
  | none => exact Twin.pure hb
  | some neg =>
      apply (Twin.note (Q := Eq) rfl rfl).bind
      exact fun _ _ _ => Twin.pure ⟨rfl, hcli⟩

theorem bridgeHandleData_twin {b b' : Bridge} (hb : Alike b b')
    (f : List Byte) :
    Twin witnessed Alike (bridgeHandleData g b f : Host σ Bridge)
      (bridgeHandleData g b' f : Host τ Bridge) := by
  obtain ⟨cli, cbseq, rfl, hcli⟩ := hb.elim
  rw [bridgeHandleData, bridgeHandleData]
  apply Twin.ite Iff.rfl
  · exact fun _ => Twin.pure hb
  intro _
  have hacked : Alike { b with ack := nextNumber (frameNumber f) }
      { b with
        ack := nextNumber (frameNumber f)
        cli := cli
        cbseq := cbseq } := ⟨rfl, hcli⟩
  have hnote : Twin witnessed Eq
      (note (Note.relay b f) : Host σ Unit)
      (note (Note.relay { b with cli := cli, cbseq := cbseq } f) :
        Host τ Unit) := Twin.note rfl rfl
  apply ((ashSend_twin hacked.cli _).discard rfl).bind
  intro _ _ _
  apply hnote.bind
  intro _ _ _
  apply (ezspRelay_twin g b.p rfl ashMaxFrame).bind
  rintro reply _ rfl
  cases reply with
  | none => exact Twin.pure hacked
  | some resp =>
      apply Twin.ite Iff.rfl
      · exact fun _ => Twin.pure hacked
      · intro _
        apply (adoptVersion_twin hacked _ resp).bind
        intro c c' hc
        apply (ashSendData_twin hc resp).bind
        exact fun _ _ hd => bridgeDrainCallbacks_twin g hd

theorem bridgeHandleFrame_twin {b b' : Bridge} (hb : Alike b b')
    (f : List Byte) :
    Twin witnessed Alike (bridgeHandleFrame g b f : Host σ Bridge)
      (bridgeHandleFrame g b' f : Host τ Bridge) := by
  have hready : b'.ready = b.ready := by rw [hb.eq]
  have hnote : Twin witnessed Eq
      (note (Note.handleFrame b f) : Host σ Unit)
      (note (Note.handleFrame b' f) : Host τ Unit) := Twin.note rfl rfl
  rw [bridgeHandleFrame_eq, bridgeHandleFrame_eq, hready]
  apply hnote.bind
  intro _ _ _
  cases frameKind f with
  | rst => exact bridgeReset_twin hb
  | ack => exact Twin.pure hb
  | nak =>
      apply (retransmitFrom_twin hb 9 _).bind
      exact fun _ _ _ => Twin.pure hb
  | error => exact Twin.pure hb
  | data =>
      exact Twin.ite Iff.rfl (fun _ => Twin.pure hb)
        fun _ => bridgeHandleData_twin g hb f

theorem Alike.receive {b b' : Bridge} (hb : Alike b b') (rx : List Byte)
    (esc : Bool) :
    Alike { b with rx := rx, esc := esc } { b' with rx := rx, esc := esc } := by
  obtain ⟨cli, cbseq, rfl, hcli⟩ := hb.elim
  exact ⟨rfl, hcli⟩

private theorem bridgeFlag_twin {b b' : Bridge} (hb : Alike b b') :
    Twin witnessed Alike (bridgeFlag g b : Host σ Bridge)
      (bridgeFlag g b' : Host τ Bridge) := by
  have hrx : b'.rx = b.rx := by rw [hb.eq]
  rw [bridgeFlag, bridgeFlag, hrx]
  by_cases hframe : 3 ≤ b.rx.length ∧ ashChecked b.rx = true
  · rw [if_pos hframe, if_pos hframe]
    apply (bridgeHandleFrame_twin g hb _).bind
    exact fun _ _ hc => Twin.pure (hc.receive [] false)
  · rw [if_neg hframe, if_neg hframe]
    exact Twin.pure (hb.receive [] false)

theorem bridgeFeedByte_twin {b b' : Bridge} (hb : Alike b b') (c : Byte) :
    Twin witnessed Alike (bridgeFeedByte g b c : Host σ Bridge)
      (bridgeFeedByte g b' c : Host τ Bridge) := by
  have hrx : b'.rx = b.rx := by rw [hb.eq]
  have hesc : b'.esc = b.esc := by rw [hb.eq]
  rw [bridgeFeedByte, bridgeFeedByte, hrx, hesc]
  apply Twin.ite Iff.rfl
  · exact fun _ => Twin.pure hb
  intro _
  apply Twin.ite Iff.rfl
  · exact fun _ => Twin.pure (hb.receive [] false)
  intro _
  apply Twin.ite Iff.rfl
  · exact fun _ => Twin.pure (hb.receive [] true)
  intro _
  apply Twin.ite Iff.rfl
  · intro _
    obtain ⟨cli, cbseq, rfl, hcli⟩ := hb.elim
    exact Twin.pure ⟨rfl, hcli⟩
  intro _
  apply Twin.ite Iff.rfl
  · exact fun _ => bridgeFlag_twin g hb
  intro _
  apply Twin.ite Iff.rfl
  · exact fun _ => Twin.pure (hb.receive _ false)
  · exact fun _ => Twin.pure (hb.receive [] false)

theorem bridgeFeed_twin {b b' : Bridge} (hb : Alike b b')
    (buf : List Byte) :
    Twin witnessed Alike (bridgeFeed g b buf : Host σ Bridge)
      (bridgeFeed g b' buf : Host τ Bridge) :=
  Twin.foldlM (fun _ _ c hc => bridgeFeedByte_twin g hc c) buf hb

/-! ## The main loop -/

theorem bridgeDropClient_twin {b b' : Bridge} (hb : Alike b b') :
    Twin witnessed Alike (bridgeDropClient b : Host σ Bridge)
      (bridgeDropClient b' : Host τ Bridge) := by
  obtain ⟨cli, cbseq, rfl, hcli⟩ := hb.elim
  have hgone : b.cli < 0 ↔ cli < 0 := by rw [← not_le, hcli, not_le]
  rw [bridgeDropClient, bridgeDropClient]
  apply Twin.ite hgone
  · exact fun _ => Twin.pure hb
  · intro _
    have hclose := twin_of_call (σ := σ) (τ := τ) (c := .close b.cli)
      (d := .close cli) (Q := fun _ _ => True) fun _ _ => Or.inr ⟨rfl, trivial⟩
    apply hclose.bind
    exact fun _ _ _ => Twin.pure ⟨rfl, Iff.rfl⟩

theorem Alike.accepted {b b' : Bridge} (hp : b.p = b'.p)
    (hsrv : b.srv = b'.srv) (fd fd' : ℕ) :
    Alike (bridgeAccepted b fd) (bridgeAccepted b' fd') := by
  constructor
  · rw [bridgeAccepted, bridgeAccepted, hp, hsrv]
  · exact iff_of_true (Int.natCast_nonneg fd) (Int.natCast_nonneg fd')

private theorem bridgeAccept_twin {b b' : Bridge} (hb : Alike b b') :
    Twin witnessed Alike (bridgeAccept b : Host σ Bridge)
      (bridgeAccept b' : Host τ Bridge) := by
  have hcall := twin_of_told (σ := σ) (τ := τ)
    (c := .accept b.srv) (d := .accept b'.srv)
    .accept (f := fun fd => .connected fd.isSome)
    (k := fun fd => .connected fd.isSome) (fun _ => rfl) (fun _ => rfl)
    (Q := fun fd fd' => fd.isSome = fd'.isSome)
    fun _ _ heq => Told.connected.inj heq
  rw [bridgeAccept, bridgeAccept]
  apply hcall.bind
  intro fd fd' hfd
  cases fd with
  | none =>
      cases fd' with
      | none => exact Twin.pure hb
      | some fd' => cases hfd
  | some fd =>
      cases fd' with
      | none => cases hfd
      | some fd' =>
          have haccepted (c c' : Bridge) (hc : Alike c c') :
              Alike (bridgeAccepted c fd) (bridgeAccepted c' fd') :=
            Alike.accepted (by rw [hc.eq]) (by rw [hc.eq]) fd fd'
          dsimp only
          by_cases hcli : 0 ≤ b.cli
          · rw [if_pos hcli, if_pos (hb.cli.mp hcli)]
            apply (bridgeDropClient_twin hb).bind
            exact fun c c' hc => Twin.pure (haccepted c c' hc)
          · rw [if_neg hcli, if_neg (mt hb.cli.mpr hcli)]
            exact Twin.pure (haccepted b b' hb)

private theorem bridgeRead_twin {b b' : Bridge} (hb : Alike b b') :
    Twin witnessed Alike (bridgeRead g b : Host σ Bridge)
      (bridgeRead g b' : Host τ Bridge) := by
  have hcall := twin_of_told (σ := σ) (τ := τ)
    (c := .read b.cli) (d := .read b'.cli) .read (f := Told.data)
    (k := Told.data) (fun _ => rfl) (fun _ => rfl) (Q := Eq)
    fun _ _ heq => Told.data.inj heq
  rw [bridgeRead, bridgeRead]
  apply hcall.bind
  rintro got _ rfl
  cases got with
  | bytes buf =>
      cases buf with
      | nil => exact bridgeDropClient_twin hb
      | cons c buf => exact bridgeFeed_twin g hb (c :: buf)
  | interrupted => exact Twin.pure hb
  | failed => exact bridgeDropClient_twin hb

/-- The events on the client's descriptor in a pass. -/
def clientEvents (ivCli : Option ℕ) (revents : ℕ → Revents) : Bool × Bool :=
  (ivCli.any fun iv => (revents iv).pollerr || (revents iv).pollhup,
    ivCli.any fun iv => (revents iv).pollin)

/-- An edge on nHOST_INT is consumed without a look at it. -/
theorem bridgeServeClient_twin {b b' : Bridge} (hb : Alike b b')
    {ivCli ivCli' : Option ℕ} (ivHint ivHint' : Option ℕ)
    {revents revents' : ℕ → Revents}
    (hevents : clientEvents ivCli revents = clientEvents ivCli' revents') :
    Twin witnessed Alike
      (bridgeServeClient g b ivCli ivHint revents : Host σ Bridge)
      (bridgeServeClient g b' ivCli' ivHint' revents' : Host τ Bridge) := by
  obtain ⟨hgone, hdata⟩ := Prod.mk.inj hevents
  have hedge {ρ : Type} [Kernel ρ] (c : Prop) [Decidable c] (fd : Int) :
      Hidden witnessed (onlyIf c
        (call (I := host) (.gpioReadEdge fd)) : Host ρ Unit) := by
    rw [onlyIf]
    split
    · exact Hidden.call (I := host) (c := Call.gpioReadEdge fd) fun _ => rfl
    · exact Hidden.pure
  rw [bridgeServeClient, bridgeServeClient, hgone, hdata]
  apply ((hedge _ _).twin (hedge _ _)).bind
  intro _ _ _
  apply Twin.ite Iff.rfl
  · exact fun _ => bridgeDropClient_twin hb
  intro _
  by_cases hread : (ivCli'.any fun iv => (revents' iv).pollin) = true
  · rw [if_pos hread, if_pos hread]
    exact (bridgeRead_twin g hb).bind fun _ _ hc =>
      bridgeDrainCallbacks_twin g hc
  · rw [if_neg hread, if_neg hread]
    exact bridgeDrainCallbacks_twin g hb

private theorem bridgeWatch_twin {b b' : Bridge} (hb : Alike b b') :
    Twin witnessed Eq (bridgeWatch b : Host σ Bool)
      (bridgeWatch b' : Host τ Bool) := by
  obtain ⟨cli, cbseq, rfl, hcli⟩ := hb.elim
  rw [bridgeWatch, bridgeWatch]
  apply Twin.ite (and_congr hcli Iff.rfl)
  · intro _
    apply (gpioGet_twin b.p.hint).bind
    rintro level _ rfl
    exact Twin.pure rfl
  · exact fun _ => Twin.pure rfl

private theorem bridgeServe_twin {b b' : Bridge} (hb : Alike b b')
    {ivCli : Option ℕ} (ivHint ivHint' : Option ℕ)
    {revents revents' : ℕ → Revents}
    (hserver : revents 0 = revents' 0)
    (hclient : clientEvents ivCli revents = clientEvents ivCli revents') :
    Twin witnessed Alike (bridgeServe g b ivCli ivHint revents : Host σ Bridge)
      (bridgeServe g b' ivCli ivHint' revents' : Host τ Bridge) := by
  rw [bridgeServe, bridgeServe, hserver]
  by_cases hnew : (revents' 0).pollin = true
  · rw [if_pos hnew, if_pos hnew]
    apply (bridgeAccept_twin hb).bind
    exact fun _ _ hc => bridgeServeClient_twin g hc ivHint ivHint' hclient
  · rw [if_neg hnew, if_neg hnew]
    exact bridgeServeClient_twin g hb ivHint ivHint' hclient

theorem bridgePass_twin {b b' : Bridge} (hb : Alike b b') :
    Twin witnessed Alike (bridgePass g b : Host σ Bridge)
      (bridgePass g b' : Host τ Bridge) := by
  have hplace : (if 0 ≤ b.cli then some 1 else none) =
      if 0 ≤ b'.cli then some 1 else none := by
    simp only [hb.cli]
  have hpoll (fds fds' : List Int) (timeout timeout' : ℕ) :
      Twin witnessed (fun r r' : PollResult => r.seen = r'.seen)
        (call (I := host) (.poll fds timeout) : Host σ PollResult)
        (call (I := host) (.poll fds' timeout') : Host τ PollResult) :=
    twin_of_told (c := .poll fds timeout) (d := .poll fds' timeout') .poll
      (f := fun r => .polled r.seen) (k := fun r => .polled r.seen)
      (fun _ => rfl) (fun _ => rfl) fun _ _ heq => Told.polled.inj heq
  rw [bridgePass, bridgePass]
  apply (bridgeWatch_twin hb).bind
  rintro watch _ rfl
  dsimp only
  rw [hplace]
  apply (hpoll _ _ _ _).bind
  intro got got' hseen
  cases got with
  | interrupted =>
      cases got' with
      | interrupted => exact Twin.pure hb
      | _ => cases hseen
  | failed =>
      cases got' with
      | failed => exact Twin.halt
      | _ => cases hseen
  | ready revents =>
      cases got' with
      | ready revents' =>
          obtain ⟨hserver, hclient⟩ := PollSeen.ready.inj hseen
          apply bridgeServe_twin g hb _ _ hserver
          split
          · rw [clientEvents, clientEvents, Option.any_some, Option.any_some,
              Option.any_some, Option.any_some, hclient]
          · rfl
      | _ => cases hseen

theorem cmdBridge_twin (passes : ℕ) {b b' : Bridge} (hb : Alike b b') :
    Twin witnessed Alike (cmdBridge g passes b : Host σ Bridge)
      (cmdBridge g passes b' : Host τ Bridge) := by
  induction passes generalizing b b' with
  | zero => exact Twin.pure hb
  | succ passes ih =>
      rw [cmdBridge, cmdBridge]
      exact (bridgePass_twin g hb).bind fun _ _ hc => ih hc

end EzspSpi
