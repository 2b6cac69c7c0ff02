import EzspSpi.Ash.Parts
import EzspSpi.Host.Playback
import EzspSpi.Router.Parts
import EzspSpi.Session.Run

/-!
# What takes a daemon down

Neither daemon ignores SIGPIPE, which a write to a socket raises once the peer
is gone.  `write_all` has an error return and `control_accept` ignores the
result of its `write`, but both are only reached by a process that lives on:
of all that a client can do by leaving, the first write that raises the signal
is exactly what ends a daemon.
-/

namespace EzspSpi

open Program

variable {σ : Type} [Kernel σ]

/-! ## What a call does to the process -/

/-- What the rounds of `write_all`, with so many bytes left, do to the process:
SIGPIPE kills it, and it never returns where they run out, which is a peer
that stays and takes no more.  An error ends neither. -/
def writeFate : (left : ℕ) → List WriteResult → Option Halt
  | 0, _ => none
  | _ + 1, [] => some .stuck
  | left + 1, .wrote n :: rounds =>
      if 0 < n then writeFate (left + 1 - n) rounds else none
  | left + 1, .interrupted :: rounds => writeFate (left + 1) rounds
  | _ + 1, .failed :: _ => none
  | _ + 1, .sigpipe :: _ => some .killed

/-- What a call does to the process: the calls of a transaction, the `poll` of
`cmd_bridge`, and the two writes to a client.  No other call does anything to
it, whatever it returns. -/
def fateOf : HostEvent → Option Halt
  | .call (.write _ buf) rounds => writeFate buf.length rounds
  | .call (.writeOnce _ _) .sigpipe => some .killed
  | .call (.poll _ _) .failed => some .exit
  | e => busFate e

/-- A write to a client that raises SIGPIPE: its peer is gone by then. -/
def RaisesSigpipe (e : HostEvent) : Prop :=
  fateOf e = some .killed

/-- What stops a daemon without any client leaving: an ioctl or a `poll` that
fails, a wait for an edge without end, a write to a client that stays
connected and does not read. -/
def HostStops (e : HostEvent) : Prop :=
  fateOf e = some .exit ∨ fateOf e = some .stuck

/-- What tells a daemon that a client has closed or reset its connection: an
error or the end of the stream on a read, an error on a write, a hangup or an
error on a poll. -/
def TellsOfLeaving : HostEvent → Prop
  | .call (.read _) got => got = .bytes [] ∨ got = .failed
  | .call (.write _ _) rounds => .failed ∈ rounds ∧ .sigpipe ∉ rounds
  | .call (.writeOnce _ _) got => got = .failed
  | .call (.poll _ _) (.ready revents) =>
      ∃ i, (revents i).pollhup = true ∨ (revents i).pollerr = true
  | _ => False

/-- The run gets through all of its passes, unless the host itself stops it. -/
def GoesOn {α : Type} (run : Run host σ α) : Prop :=
  (∃ a, run.outcome = .done a) ∨ ∃ e ∈ run.trace, HostStops e

/-- The trace ends with a drain of the callback queue that goes on for longer
than so many polls and that nothing has stopped. -/
def EndsDraining (σ : Type) [Kernel σ] (g : Globals) (p : Pins) (polls : ℕ)
    (t : List HostEvent) : Prop :=
  ∃ (t₁ : List HostEvent) (r : Router) (out : List Byte) (s : σ),
    t = t₁ ++ (runDrain g p polls r out s).trace ∧
      (runDrain g p polls r out s).outcome = .halt .stuck ∧
      ∀ e ∈ (runDrain g p polls r out s).trace, ¬HostStops e

/-- The run is cut off in such a drain. -/
def StillDraining {α : Type} (g : Globals) (p : Pins) (polls : ℕ)
    (run : Run host σ α) : Prop :=
  run.outcome = .halt .stuck ∧ EndsDraining σ g p polls run.trace

theorem IsPlainCall.fateOf_eq {c : Call} (hc : IsPlainCall c)
    (r : host.Resp c) : fateOf (.call c r) = busFate (.call c r) := by
  cases c with
  | write fd buf => exact hc.elim
  | writeOnce fd buf => exact hc.elim
  | poll fds timeout => exact hc.elim
  | _ => rfl

theorem IsAsideCall.fateOf_eq {c : Call} (hc : IsAsideCall c)
    (r : host.Resp c) : fateOf (.call c r) = none := by
  rw [hc.1.fateOf_eq]
  cases c with
  | spiTransfer tx keepRx keepCs => exact hc.1.elim
  | gpioSetValue fd value => exact (hc.2 trivial).elim
  | gpioWaitEdges fd timeout => exact (hc.2 trivial).elim
  | _ => rfl

theorem writeFate_of_failed {left : ℕ} {rounds : List WriteResult}
    (hfailed : .failed ∈ rounds) (hsignal : .sigpipe ∉ rounds) :
    writeFate left rounds = none := by
  fun_induction writeFate left rounds with
  | case1 rounds => rfl
  | case2 left => exact absurd hfailed List.not_mem_nil
  | case3 left n rounds hn ih =>
      have hlater : .failed ∈ rounds := by simpa using hfailed
      exact ih hlater (List.not_mem_of_not_mem_cons hsignal)
  | case4 left n rounds hn => rfl
  | case5 left rounds ih =>
      have hlater : .failed ∈ rounds := by simpa using hfailed
      exact ih hlater (List.not_mem_of_not_mem_cons hsignal)
  | case6 left rounds => rfl
  | case7 left rounds => exact absurd List.mem_cons_self hsignal

/-- No such news does anything to the process. -/
theorem TellsOfLeaving.fateOf_eq {e : HostEvent} (he : TellsOfLeaving e) :
    fateOf e = none := by
  cases e with
  | note n => exact he.elim
  | call c r =>
      cases c with
      | read fd => rfl
      | write fd buf => exact writeFate_of_failed he.1 he.2
      | writeOnce fd buf => exact he ▸ rfl
      | poll fds timeout =>
          cases r with
          | ready revents => rfl
          | _ => exact he.elim
      | _ => exact he.elim

/-! ## The parts of the daemons -/

section Parts

variable {left : Halt → List HostEvent → Prop}
  (hleft : ∀ why t t', left why t' → left why (t ++ t'))

omit [Kernel σ] in
private theorem writeRounds_fate (bytes : ℕ) (rounds : List WriteResult) :
    (writeFate bytes rounds = none ∧
      ∃ ok, (writeRounds bytes rounds : Host σ Bool) = pure ok) ∨
    ∃ why, writeFate bytes rounds = some why ∧
      (writeRounds bytes rounds : Host σ Bool) = Program.halt why := by
  fun_induction writeFate bytes rounds with
  | case1 rounds => exact Or.inl ⟨rfl, true, by rw [writeRounds]⟩
  | case2 bytes => exact Or.inr ⟨.stuck, rfl, rfl⟩
  | case3 bytes n rounds hn ih =>
      rw [writeRounds, if_pos hn]
      exact ih
  | case4 bytes n rounds hn =>
      exact Or.inl ⟨rfl, false, by rw [writeRounds, if_neg hn]⟩
  | case5 bytes rounds ih => exact ih
  | case6 bytes rounds => exact Or.inl ⟨rfl, false, rfl⟩
  | case7 bytes rounds => exact Or.inr ⟨.killed, rfl, rfl⟩

include hleft

private theorem writeAll_haltsFrom (fd : Int) (buf : List Byte) :
    HaltsFrom fateOf left (writeAll fd buf : Host σ Bool) := by
  apply HaltsFrom.request hleft
  intro rounds
  rcases writeRounds_fate (σ := σ) buf.length rounds with
    ⟨hnone, ok, hrounds⟩ | ⟨why, hsome, hrounds⟩
  · refine Or.inl ⟨hnone, ?_⟩
    rw [hrounds]
    exact HaltsFrom.pure
  · exact Or.inr ⟨why, hsome, hrounds⟩

private theorem writeReply_haltsFrom (fd : Int) (buf : List Byte) :
    HaltsFrom fateOf left (writeReply fd buf : Host σ Unit) := by
  apply HaltsFrom.request hleft
  intro got
  cases got with
  | sigpipe => exact Or.inr ⟨.killed, rfl, rfl⟩
  | _ => exact Or.inl ⟨rfl, HaltsFrom.pure⟩

private theorem transactions_haltFrom (T : List Byte → Prop) : TxnParts
    (fun (α : Type) (m : Host σ α) => HaltsFrom fateOf left m) T := by
  apply txnParts_haltsFrom hleft
  · exact fun _ _ _ _ => rfl
  · exact fun _ hc r => hc.isPlainCall.fateOf_eq r

private theorem bridgeParts_haltsFrom : BridgeParts
    fun (α : Type) (m : Host σ α) => HaltsFrom fateOf left m where
  toTxnParts := transactions_haltFrom hleft _
  note _ _ := HaltsFrom.note rfl
  writeAll := writeAll_haltsFrom hleft

private theorem routerParts_haltsFrom : RouterParts
    (fun (α : Type) (m : Host σ α) => HaltsFrom fateOf left m)
    fun _ => True where
  toTxnParts := transactions_haltFrom hleft _
  routine _ _ := trivial
  call _ hc := HaltsFrom.call hc.fateOf_eq
  writeReply := writeReply_haltsFrom hleft

end Parts

/-! ## The bridge -/

/-- What is left to be explained of the bridge: frames resent up to a number
that is out of range. -/
private def outOfRange (why : Halt) (t : List HostEvent) : Prop :=
  why = .stuck ∧ ∃ b f, .note (.handleFrame b f) ∈ t ∧ ¬b.frm.toNat < 8

private theorem outOfRange_append (why : Halt) (t t' : List HostEvent)
    (h : outOfRange why t') : outOfRange why (t ++ t') := by
  obtain ⟨hwhy, b, f, hmem, hfrm⟩ := h
  exact ⟨hwhy, b, f, List.mem_append_right t hmem, hfrm⟩

private theorem bridgeHandleFrame_haltsFrom (g : Globals) (b : Bridge)
    (f : List Byte) : HaltsFrom fateOf outOfRange
      (bridgeHandleFrame g b f : Host σ Bridge) := by
  by_cases hfrm : b.frm.toNat < 8
  · have hparts := bridgeParts_haltsFrom (σ := σ) outOfRange_append
    have hresend : HaltsFrom fateOf outOfRange
        (ashRetransmit b (ackNumber f) : Host σ Unit) := by
      rw [ashRetransmit_eq_walk hfrm (ackNumber_lt f)]
      exact hparts.forM (fun _ => hparts.discard (hparts.ashSend b _)) _
    obtain ⟨m, hm, heq⟩ := hparts.handled g b f fun _ => hresend
    rw [heq]
    exact hparts.bind (HaltsFrom.note rfl) fun _ => hm
  · have hparts : BridgeParts fun (α : Type) (m : Host σ α) =>
        HaltsFrom fateOf (fun why _ => why = .stuck) m :=
      bridgeParts_haltsFrom fun _ _ _ => id
    obtain ⟨m, hm, heq⟩ := hparts.handled g b f fun _ =>
      hparts.ashRetransmit (HaltsFrom.halt rfl) b _
    rw [heq]
    apply HaltsFrom.note_bind rfl hm
    exact fun why t hwhy => ⟨hwhy, b, f, List.mem_cons_self, hfrm⟩

private theorem cmdBridge_haltsFrom (g : Globals) (passes : ℕ) (b : Bridge) :
    HaltsFrom fateOf outOfRange (cmdBridge g passes b : Host σ Bridge) := by
  have hparts := bridgeParts_haltsFrom (σ := σ) outOfRange_append
  apply hparts.cmdBridge g (bridgeHandleFrame_haltsFrom g)
    fun _ hc => HaltsFrom.call hc.fateOf_eq
  intro fds timeout f hfailed hready
  apply HaltsFrom.request outOfRange_append
  intro got
  cases got with
  | failed => exact Or.inr ⟨.exit, rfl, hfailed⟩
  | interrupted => exact Or.inl ⟨rfl, hready _ PollResult.noConfusion⟩
  | ready revents => exact Or.inl ⟨rfl, hready _ PollResult.noConfusion⟩

/-- A run of the bridge halts exactly at the call that is its fate. -/
theorem cmdBridge_halts_iff (g : Globals) (p : Pins) (srv : Int)
    (passes : ℕ) (s : σ) (why : Halt) :
    (cmdBridge g passes (bridgeInit p srv) s).outcome = .halt why ↔
      ∃ e ∈ (cmdBridge g passes (bridgeInit p srv) s).trace,
        fateOf e = some why := by
  have hhalts := cmdBridge_haltsFrom (σ := σ) g passes (bridgeInit p srv)
  constructor
  · intro hhalt
    rcases hhalts.explained s why hhalt with hmet | ⟨_, b, f, hmem, hfrm⟩
    · exact hmet
    -- the number of the next frame is always in range
    · obtain ⟨t₁, t₂, htrace⟩ := List.append_of_mem hmem
      obtain ⟨hmodels, _⟩ := (cmdBridge_owes g p srv passes s).1 t₁ _ t₂ htrace
      have hfrm' := hmodels.frm
      omega
  · rintro ⟨e, he, hfate⟩
    exact hhalts.met s e he why hfate

/-! ## The router daemon -/

/-- What is left to be explained of the router daemon: such a drain. -/
private def undrained (σ : Type) [Kernel σ] (g : Globals) (p : Pins)
    (polls : ℕ) (why : Halt) (t : List HostEvent) : Prop :=
  why = .stuck ∧ EndsDraining σ g p polls t

private theorem undrained_append (g : Globals) (p : Pins) (polls : ℕ)
    (why : Halt) (t t' : List HostEvent) (h : undrained σ g p polls why t') :
    undrained σ g p polls why (t ++ t') := by
  obtain ⟨hwhy, t₁, r, out, s, rfl, hdrain⟩ := h
  exact ⟨hwhy, t ++ t₁, r, out, s, (List.append_assoc _ _ _).symm, hdrain⟩

private theorem runDrain_haltsFrom (g : Globals) (p : Pins) (polls : ℕ)
    (r : Router) (out : List Byte) :
    HaltsFrom fateOf (undrained σ g p polls)
      (runDrain g p polls r out : Host σ _) := by
  have hparts : RouterParts (fun (α : Type) (m : Host σ α) =>
      HaltsFrom fateOf (fun why _ => why = .stuck) m) fun _ => True :=
    routerParts_haltsFrom fun _ _ _ => id
  have hdrain := hparts.runDrain g p (HaltsFrom.halt rfl) polls r out
  refine ⟨hdrain.met, fun s why hhalt => ?_⟩
  by_cases hmet : ∃ e ∈ (runDrain g p polls r out s).trace, fateOf e = some why
  · exact Or.inl hmet
  · obtain rfl := (hdrain.explained s why hhalt).resolve_left hmet
    refine Or.inr ⟨rfl, [], r, out, s, rfl, hhalt, ?_⟩
    -- what stopped the drain would have been the reason it halted for
    rintro e he (hfate | hfate)
    · have hexit := hdrain.met s e he _ hfate
      rw [hhalt] at hexit
      cases hexit
    · exact hmet ⟨e, he, hfate⟩

private theorem runPasses_haltsFrom (g : Globals) (c : RouterCfg) (p : Pins)
    (polls passes : ℕ) (st : Running) :
    HaltsFrom fateOf (undrained σ g p polls)
      (runPasses g c p polls passes st : Host σ Running) :=
  have hparts := routerParts_haltsFrom (σ := σ) (undrained_append g p polls)
  hparts.runPasses g p (runDrain_haltsFrom g p polls)
    (fun _ _ => HaltsFrom.call fun _ => rfl) c passes st

private theorem cmdRun_haltsFrom (g : Globals) (c : RouterCfg) (p : Pins)
    (polls passes : ℕ) (out : List Byte) (r : Router) :
    HaltsFrom fateOf (undrained σ g p polls)
      (cmdRun g c p polls passes out r : Host σ ℕ) :=
  have hparts := routerParts_haltsFrom (σ := σ) (undrained_append g p polls)
  hparts.cmdRun g p (HaltsFrom.note rfl) trivial trivial
    (runDrain_haltsFrom g p polls) (fun _ _ => HaltsFrom.call fun _ => rfl)
    c passes out r

/-! ## Survival -/

omit [Kernel σ] in
/-- A run that the signal ends has met nothing else that ends it. -/
private theorem not_goesOn_of_killed {α : Type}
    {left : Halt → List HostEvent → Prop} {m : Host σ α}
    (hm : HaltsFrom fateOf left m) {s : σ}
    (hkilled : (m s).outcome = .halt .killed) : ¬GoesOn (m s) := by
  rintro (⟨a, hdone⟩ | ⟨e, he, hexit | hstuck⟩)
  · rw [hkilled] at hdone
    cases hdone
  · have hhalt := hm.met s e he _ hexit
    rw [hkilled] at hhalt
    cases hhalt
  · have hhalt := hm.met s e he _ hstuck
    rw [hkilled] at hhalt
    cases hhalt

omit [Kernel σ] in
/-- A program that halts at such a call, or where `rest` says so, goes on
unless a write raises the signal. -/
private theorem goesOn_or_iff {α : Type} {left : Halt → List HostEvent → Prop}
    {m : Host σ α} (hm : HaltsFrom fateOf left m)
    (rest : Run host σ α → Prop)
    (hrest : ∀ s why, (m s).outcome = .halt why → left why (m s).trace →
      rest (m s))
    (hlive : ∀ s, rest (m s) → (m s).outcome ≠ .halt .killed) (s : σ) :
    (GoesOn (m s) ∨ rest (m s)) ↔ ∀ e ∈ (m s).trace, ¬RaisesSigpipe e := by
  constructor
  · intro h e he hsignal
    have hkilled := hm.met s e he _ hsignal
    exact h.elim (not_goesOn_of_killed hm hkilled)
      fun hrun => hlive s hrun hkilled
  · intro hquiet
    cases houtcome : (m s).outcome with
    | done a => exact Or.inl (Or.inl ⟨a, houtcome⟩)
    | halt why =>
        rcases hm.explained s why houtcome with ⟨e, he, hfate⟩ | hleft
        · cases why with
          | exit => exact Or.inl (Or.inr ⟨e, he, Or.inl hfate⟩)
          | stuck => exact Or.inl (Or.inr ⟨e, he, Or.inr hfate⟩)
          | killed => exact absurd hfate (hquiet e he)
        · exact Or.inr (hrest s why houtcome hleft)

private theorem stillDraining_or_iff {α : Type} {g : Globals} {p : Pins}
    {polls : ℕ} {m : Host σ α}
    (hm : HaltsFrom fateOf (undrained σ g p polls) m) (s : σ) :
    (GoesOn (m s) ∨ StillDraining g p polls (m s)) ↔
      ∀ e ∈ (m s).trace, ¬RaisesSigpipe e := by
  apply goesOn_or_iff hm (StillDraining g p polls)
  · rintro s' why hhalt ⟨rfl, hdrain⟩
    exact ⟨hhalt, hdrain⟩
  · rintro s' ⟨hhalt, _⟩ hkilled
    rw [hhalt] at hkilled
    cases hkilled

/-- Whatever clients do, whenever they close or reset a connection, a daemon
gets through all of its passes exactly if none of its writes raises SIGPIPE:
no read and no write that fails ends it, only what the host itself does to it.
The router daemon does so from its start as from any state of its loop, or it
is still draining the callback queue. -/
theorem daemons_survive_iff (g : Globals) (passes : ℕ) (s : σ) :
    (∀ (p : Pins) (srv : Int),
      GoesOn (cmdBridge g passes (bridgeInit p srv) s) ↔
        ∀ e ∈ (cmdBridge g passes (bridgeInit p srv) s).trace,
          ¬RaisesSigpipe e) ∧
    (∀ (c : RouterCfg) (p : Pins) (polls : ℕ),
      (∀ out r, (GoesOn (cmdRun g c p polls passes out r s) ∨
          StillDraining g p polls (cmdRun g c p polls passes out r s)) ↔
        ∀ e ∈ (cmdRun g c p polls passes out r s).trace, ¬RaisesSigpipe e) ∧
      ∀ st, (GoesOn (runPasses g c p polls passes st s) ∨
          StillDraining g p polls (runPasses g c p polls passes st s)) ↔
        ∀ e ∈ (runPasses g c p polls passes st s).trace,
          ¬RaisesSigpipe e) ∧
    ∀ e, TellsOfLeaving e → ¬RaisesSigpipe e ∧ ¬HostStops e := by
  refine ⟨fun p srv => ?_, fun c p polls => ⟨fun out r => ?_, fun st => ?_⟩,
    fun e he => ?_⟩
  · have hfate : HaltsFrom fateOf nothingLeft
        (cmdBridge g passes (bridgeInit p srv) : Host σ Bridge) :=
      ⟨(cmdBridge_haltsFrom g passes _).met, fun s' why hhalt =>
        Or.inl ((cmdBridge_halts_iff g p srv passes s' why).mp hhalt)⟩
    simpa using goesOn_or_iff hfate (fun _ => False)
      (fun _ _ _ => id) (fun _ => False.elim) s
  · exact stillDraining_or_iff (cmdRun_haltsFrom g c p polls passes out r) s
  · exact stillDraining_or_iff (runPasses_haltsFrom g c p polls passes st) s
  · simp [RaisesSigpipe, HostStops, he.fateOf_eq]

/-! ## Two clients that leave -/

/-- Surroundings that play back a script, with clients that are gone after so
many more writes. -/
structure Departing where
  script : Playback
  writesLeft : ℕ

instance : Kernel Departing where
  answer
    | .write _ buf, s =>
        ([if s.writesLeft = 0 then .sigpipe else .wrote buf.length],
          { s with writesLeft := s.writesLeft - 1 })
    | .writeOnce _ buf, s =>
        (if s.writesLeft = 0 then .sigpipe else .wrote buf.length,
          { s with writesLeft := s.writesLeft - 1 })
    | .controlListen, s => (some 5, s)
    | c, s =>
        let (r, script) := Surroundings.answer (I := host) c s.script
        (r, { s with script := script })

/-- The client connects, sends an RST and a command, takes the RSTACK and is
gone when the bridge acknowledges the command. -/
def goneAtAck : Departing where
  script :=
    { miso := []
      polls := [[⟨true, false, false⟩],
        [⟨false, false, false⟩, ⟨true, false, false⟩]]
      accepts := [9]
      reads := [.bytes (ashEncode [0xC0] ++
        ashEncode (0x00 :: ashMask [0x00, 0x00, 0x00, 0x04]))] }
  writesLeft := 1

/-- The NCP negotiates version 4 and is idle from then on; a client asks
something of the control socket and is gone before the reply. -/
def goneAtReply : Departing where
  script :=
    { miso := [0xFE, 0x07, 0x00, 0x80, 0x00, 0x04, 0x02, 0x00, 0x54, 0xA7]
      polls := [[⟨true, false, false⟩]]
      accepts := [9]
      reads := [.bytes (ascii "help\n")] }
  writesLeft := 0

private def isKilled {α : Type} : Outcome α → Bool
  | .halt .killed => true
  | _ => false

private theorem killed_of_isKilled {α : Type} {outcome : Outcome α}
    (h : isKilled outcome = true) : outcome = .halt .killed := by
  unfold isKilled at h
  split at h
  · rfl
  · exact absurd h Bool.false_ne_true

/-- Each daemon is killed by a client that has left, and does not go on. -/
theorem daemons_killed_by_client :
    (¬∀ (g : Globals) (p : Pins) (srv : Int) (passes : ℕ) (s : Departing),
      GoesOn (cmdBridge g passes (bridgeInit p srv) s)) ∧
    ¬∀ (g : Globals) (c : RouterCfg) (p : Pins) (polls passes : ℕ)
      (out : List Byte) (r : Router) (s : Departing),
      GoesOn (cmdRun g c p polls passes out r s) ∨
        StillDraining g p polls (cmdRun g c p polls passes out r s) := by
  constructor
  · intro hall
    have hkilled : (cmdBridge ⟨⟨2, false⟩, true⟩ 2
        (bridgeInit ⟨3, 4, 5, 7, -1⟩ 8) goneAtAck).outcome = .halt .killed :=
      killed_of_isKilled (by decide +kernel)
    exact not_goesOn_of_killed (cmdBridge_haltsFrom _ _ _) hkilled
      (hall _ _ _ _ _)
  · intro hall
    have hkilled : (cmdRun ⟨⟨2, false⟩, true⟩ defaultCfg ⟨3, 4, 5, 7, -1⟩ 1 1 []
        routerInit goneAtReply).outcome = .halt .killed :=
      killed_of_isKilled (by decide +kernel)
    rcases hall ⟨⟨2, false⟩, true⟩ defaultCfg ⟨3, 4, 5, 7, -1⟩ 1 1 [] routerInit
      goneAtReply with hgoes | ⟨hstuck, _⟩
    · exact not_goesOn_of_killed (cmdRun_haltsFrom _ _ _ _ _ _ _) hkilled hgoes
    · rw [hkilled] at hstuck
      cases hstuck

end EzspSpi
