import EzspSpi.Session.Twins
import EzspSpi.Host.Playback

/-!
# Sessions are isolated

A bridge that has accepted a client, or completed an RST, behaves towards the
client as if nothing had been before: whatever state it was in, it sends the
same frames as any other bridge that is told the same from then on.
-/

namespace EzspSpi

open Program

variable {σ τ : Type} [Kernel σ] [Kernel τ] (g : Globals)

/-- The states of a bridge with these lines and this listening socket: between
the passes of a run, and where a frame from the client is handed on. -/
def Reachable (p : Pins) (srv : Int) (b : Bridge) : Prop :=
  ∃ (ρ : Type) (_ : Kernel ρ) (passes : ℕ) (s : ρ),
    (cmdBridge g passes (bridgeInit p srv) s).outcome = .done b ∨
    ∃ f, .note (.handleFrame b f) ∈
      (cmdBridge g passes (bridgeInit p srv) s).trace

/-- A connected client has sent an RST, of which only the FLAG is missing. -/
structure AwaitsRst (b : Bridge) : Prop where
  connected : 0 ≤ b.cli
  long : 3 ≤ b.rx.length
  checked : ashChecked b.rx = true
  rst : frameKind (b.rx.take (b.rx.length - 2)) = .rst

/-- What follows the accept assignments: the rest of that pass, and any number
of passes. -/
def afterAccept (b : Bridge) (fd : ℕ) (ivCli ivHint : Option ℕ)
    (revents : ℕ → Revents) (passes : ℕ) : Host σ Bridge := do
  let b ← bridgeServeClient g (bridgeAccepted b fd) ivCli ivHint revents
  cmdBridge g passes b

/-- What follows a completed RST: the rest of the bytes read with it, the
drain, and any number of passes. -/
def afterRst (b : Bridge) (rest : List Byte) (passes : ℕ) : Host σ Bridge := do
  let b ← bridgeFeed g b rest
  let b ← bridgeDrainCallbacks g b
  cmdBridge g passes b

/-! ## Reachable states -/

private def fixedLines (p : Pins) (srv : Int) : Contract host where
  event _ e := ∀ b f, e = .note (.handleFrame b f) → b.p = p ∧ b.srv = srv
  halt _ := True

/-- The lines and the listening socket stay as they are. -/
private theorem fixedLines_upkeep (p : Pins) (srv : Int) :
    Upkeep (fixedLines p srv) fun b _ => b.p = p ∧ b.srv = srv where
  halt _ := trivial
  call _ _ _ := by
    intro b f heq
    cases heq
  relay _ _ := by
    intro b f heq
    cases heq
  plain hb _ := hb
  command hb _ := hb
  store hb _ := by
    refine ⟨?_, hb⟩
    intro b f heq
    cases heq
  ack _ hb := hb
  adopt hb _ _ _ := by
    refine ⟨?_, hb⟩
    intro b f heq
    cases heq
  poll hb _ := by
    refine ⟨?_, hb⟩
    intro b f heq
    cases heq
  handle _ hb := by
    intro b f heq
    cases heq
    exact hb
  handled hb _ := hb
  reset hb _ _ := hb
  receive _ hb _ := hb
  drop hb := hb
  accept _ hb _ := hb

theorem Reachable.fixed {p : Pins} {srv : Int} {b : Bridge}
    (hb : Reachable g p srv b) : b.p = p ∧ b.srv = srv := by
  obtain ⟨ρ, hρ, passes, s, hreached⟩ := hb
  obtain ⟨halong, hdone, _⟩ := (fixedLines_upkeep p srv).cmdBridge
    (b := bridgeInit p srv) (h := []) g passes ⟨rfl, rfl⟩ s
  rcases hreached with houtcome | ⟨f, hmem⟩
  · exact hdone b houtcome
  · obtain ⟨t₁, t₂, htrace⟩ := List.append_of_mem hmem
    rw [htrace] at halong
    exact halong.at_event b f rfl

/-! ## Two sessions -/

/-- The bridge once an RST is completed. -/
def bridgeRestarted (b : Bridge) : Bridge :=
  { bridgeFresh b with rx := [], esc := false }

private theorem bridgeFlag_yields {b : Bridge} (hb : AwaitsRst b) :
    Yields (fun b' => b' = bridgeRestarted b)
      (bridgeFlag g b : Host σ Bridge) := by
  have hreset : Yields (fun b' => b' = bridgeFresh b)
      (bridgeReset b : Host σ Bridge) := by
    rw [bridgeReset]
    apply Yields.after
    intro _
    apply Yields.after
    exact fun _ => Yields.pure rfl
  rw [bridgeFlag, if_pos ⟨hb.long, hb.checked⟩]
  apply Yields.bind (P := fun b' => b' = bridgeFresh b)
  · rw [bridgeHandleFrame_eq, hb.rst]
    exact Yields.after fun _ => hreset
  · rintro _ rfl
    exact Yields.pure rfl

private theorem Alike.restarted {b b' : Bridge} (hp : b.p = b'.p)
    (hsrv : b.srv = b'.srv) (hcli : 0 ≤ b.cli) (hcli' : 0 ≤ b'.cli) :
    Alike (bridgeRestarted b) (bridgeRestarted b') := by
  constructor
  · rw [bridgeRestarted, bridgeRestarted, bridgeFresh, bridgeFresh, hp, hsrv]
  · exact iff_of_true hcli hcli'

/-- The same call is answered alike in both traces: each channel agrees call by
call, for as many calls as both made. -/
def AnsweredAlike (t t' : List HostEvent) : Prop :=
  ∀ k, Agree (toldOn k t) (toldOn k t')

/-- Take any two reachable states.  If both accept a client, or both complete
an RST, and from then on the client, the NCP, its interrupt line and the kernel
answer each kind of call alike, call by call, then both send the same frames.
How many calls there are, and which, is not assumed.  The accept may come in
passes with different poll sets, as long as both see the same events for the
client. -/
theorem cmdBridge_isolates (p : Pins) (srv : Int) (b b' : Bridge)
    (hb : Reachable g p srv b) (hb' : Reachable g p srv b') :
    (∀ (fd fd' : ℕ) (ivCli ivCli' ivHint ivHint' : Option ℕ)
      (revents revents' : ℕ → Revents) (passes : ℕ) (s : σ) (s' : τ),
      clientEvents ivCli revents = clientEvents ivCli' revents' →
      AnsweredAlike (afterAccept g b fd ivCli ivHint revents passes s).trace
        (afterAccept g b' fd' ivCli' ivHint' revents' passes s').trace →
      sentIn (afterAccept g b fd ivCli ivHint revents passes s).trace =
        sentIn (afterAccept g b' fd' ivCli' ivHint' revents' passes
          s').trace) ∧
    ∀ (t : σ) (t' : τ) (c c' : Bridge), AwaitsRst b → AwaitsRst b' →
      (bridgeFeedByte g b ashFlag t).outcome = .done c →
      (bridgeFeedByte g b' ashFlag t').outcome = .done c' →
      ∀ (rest : List Byte) (passes : ℕ) (s : σ) (s' : τ),
        AnsweredAlike (afterRst g c rest passes s).trace
          (afterRst g c' rest passes s').trace →
        sentIn (afterRst g c rest passes s).trace =
          sentIn (afterRst g c' rest passes s').trace := by
  obtain ⟨hp, hsrv⟩ := hb.fixed
  obtain ⟨hp', hsrv'⟩ := hb'.fixed
  have hlines : b.p = b'.p := hp.trans hp'.symm
  have hsocket : b.srv = b'.srv := hsrv.trans hsrv'.symm
  constructor
  · intro fd fd' ivCli ivCli' ivHint ivHint' revents revents' passes s s'
      hevents htold
    have hserve := bridgeServeClient_twin (σ := σ) (τ := τ) g
      (Alike.accepted hlines hsocket fd fd') ivHint ivHint' hevents
    exact (hserve.bind fun _ _ hc => cmdBridge_twin g passes hc).said_eq s s'
      htold
  · intro t t' c c' hrst hrst' hdone hdone' rest passes s s' htold
    have hflag {ρ : Type} [Kernel ρ] (d : Bridge) :
        (bridgeFeedByte g d ashFlag : Host ρ Bridge) = bridgeFlag g d := rfl
    rw [hflag] at hdone hdone'
    have hc := (bridgeFlag_yields g hrst).value t c hdone
    have hc' := (bridgeFlag_yields g hrst').value t' c' hdone'
    have halike : Alike c c' := by
      rw [hc, hc']
      exact Alike.restarted hlines hsocket hrst.connected hrst'.connected
    have hfeed := bridgeFeed_twin (σ := σ) (τ := τ) g halike rest
    have hrun := hfeed.bind fun _ _ hd =>
      (bridgeDrainCallbacks_twin g hd).bind fun _ _ he =>
        cmdBridge_twin g passes he
    exact hrun.said_eq s s' htold

/-- A client negotiates version 8 and leaves an RST behind of which the FLAG is
missing. -/
def usedSession : Playback where
  miso := [0xFE, 0x07, 0x00, 0x80, 0x00, 0x08, 0x02, 0x00, 0x54, 0xA7] ++
    [0xFE, 0x05, 0x00, 0x80, 0x01, 0x07, 0x00, 0xA7]
  polls := [[⟨true, false, false⟩],
    [⟨false, false, false⟩, ⟨true, false, false⟩],
    [⟨false, false, false⟩, ⟨true, false, false⟩],
    [⟨false, false, false⟩, ⟨true, false, false⟩]]
  accepts := [9]
  reads := [.bytes (ashEncode [0xC0]),
    .bytes (ashEncode (0x00 :: ashMask [0x00, 0x00, 0x00, 0x08])),
    .bytes (ashEncode [0xC0]).dropLast]

/-- The bridge after that. -/
def usedBridge : Bridge :=
  { bridgeInit ⟨3, 4, 5, 7, 6⟩ 8 with
    cli := 9
    ready := true
    negotiated := true
    frm := 1
    ack := 1
    cbseq := 3
    ver := 8
    rx := [0xC0, 0x38, 0xBC]
    sent := Function.update (fun _ => []) (slot 0)
      (0x01 :: ashMask [0x00, 0x80, 0x00, 0x08, 0x02, 0x00, 0x54]) }

/-- A first client sends as much of an RST. -/
def newSession : Playback where
  miso := []
  polls := [[⟨true, false, false⟩],
    [⟨false, false, false⟩, ⟨true, false, false⟩]]
  accepts := [9]
  reads := [.bytes (ashEncode [0xC0]).dropLast]

def newBridge : Bridge :=
  { bridgeInit ⟨3, 4, 5, 7, 6⟩ 8 with
    cli := 9
    rx := [0xC0, 0x38, 0xBC] }

/-- Now the client negotiates version 4, the NCP has a callback queued, and the
client asks for both frames again.  The RST comes first, unless it has been
completed. -/
def exchange (rst : List ReadResult) : Playback where
  miso := [0xFE, 0x04, 0x00, 0x80, 0x00, 0x04, 0xA7] ++
    [0xFE, 0x03, 0x00, 0x90, 0x19, 0xA7] ++
    [0xFE, 0x03, 0x00, 0x80, 0x07, 0xA7]
  polls := List.replicate 3 [⟨false, false, false⟩, ⟨true, false, false⟩]
  accepts := []
  reads := rst ++
    [.bytes (ashEncode (0x00 :: ashMask [0x00, 0x00, 0x00, 0x04])),
      .bytes (ashEncode [0xA0])]

/-- What follows when a client is accepted. -/
def acceptTrace (b : Bridge) (fd : ℕ) : List HostEvent :=
  (afterAccept ⟨⟨2, true⟩, true⟩ b fd (some 1) none
    (fun i => ⟨decide (i = 0), false, false⟩) 3
    (exchange [.bytes (ashEncode [0xC0])])).trace

/-- And when the RST is completed, with a NAK behind it that asks for nothing. -/
def rstTrace (b : Bridge) : List HostEvent :=
  (afterRst ⟨⟨2, true⟩, true⟩ (bridgeRestarted b) (ashEncode [0xA3]) 2
    (exchange [])).trace

/-- A bridge that has served a client and one that has not send the same six
frames to a client that does the same, and five after an RST. -/
theorem cmdBridge_isolates_exchange :
    (sentIn (acceptTrace usedBridge 12) = sentIn (acceptTrace newBridge 13) ∧
      (sentIn (acceptTrace newBridge 13)).length = 6) ∧
    sentIn (rstTrace usedBridge) = sentIn (rstTrace newBridge) ∧
      (sentIn (rstTrace newBridge)).length = 5 := by
  have hused : (cmdBridge ⟨⟨2, true⟩, true⟩ 4
      (bridgeInit ⟨3, 4, 5, 7, 6⟩ 8) usedSession).outcome =
        .done usedBridge := by decide +kernel
  have hnew : (cmdBridge ⟨⟨2, true⟩, true⟩ 2
      (bridgeInit ⟨3, 4, 5, 7, 6⟩ 8) newSession).outcome =
        .done newBridge := by decide +kernel
  have hrst : (bridgeFeedByte ⟨⟨2, true⟩, true⟩ usedBridge ashFlag
      (exchange [])).outcome = .done (bridgeRestarted usedBridge) ∧
      (bridgeFeedByte ⟨⟨2, true⟩, true⟩ newBridge ashFlag
        (exchange [])).outcome = .done (bridgeRestarted newBridge) := by
    decide +kernel
  have htold : ∀ k, toldOn k (acceptTrace usedBridge 12) =
      toldOn k (acceptTrace newBridge 13) ∧
      toldOn k (rstTrace usedBridge) = toldOn k (rstTrace newBridge) := by
    decide +kernel
  have hlengths : (sentIn (acceptTrace newBridge 13)).length = 6 ∧
      (sentIn (rstTrace newBridge)).length = 5 := by decide +kernel
  have hawaits (b : Bridge) (hcli : 0 ≤ b.cli)
      (hrx : b.rx = [0xC0, 0x38, 0xBC]) : AwaitsRst b := by
    constructor
    · exact hcli
    · rw [hrx]
      exact le_rfl
    · rw [hrx]
      decide
    · rw [hrx]
      rfl
  obtain ⟨haccept, hreset⟩ := cmdBridge_isolates (σ := Playback)
    (τ := Playback) ⟨⟨2, true⟩, true⟩ ⟨3, 4, 5, 7, 6⟩ 8 usedBridge newBridge
    ⟨Playback, inferInstance, 4, usedSession, Or.inl hused⟩
    ⟨Playback, inferInstance, 2, newSession, Or.inl hnew⟩
  have hcli : (0 : Int) ≤ 9 := by decide
  constructor
  · refine ⟨?_, hlengths.1⟩
    exact haccept 12 13 _ _ _ _ _ _ 3 _ _ rfl fun k => .of_eq (htold k).1
  · refine ⟨?_, hlengths.2⟩
    exact hreset _ _ _ _ (hawaits usedBridge hcli rfl)
      (hawaits newBridge hcli rfl) hrst.1 hrst.2 _ 2 _ _
      fun k => .of_eq (htold k).2

end EzspSpi
