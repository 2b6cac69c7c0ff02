import EzspSpi.Session.Run

/-!
# Handshake ordering

Two rules hold in every run: nothing reaches the client or the NCP before the
RSTACK, and no callback is polled before the version is negotiated.
-/

namespace EzspSpi

open Program

variable {σ : Type} [Kernel σ] (g : Globals)

/-- Before the first RST of a connection a NAK finds nothing to resend. -/
private theorem Models.nak_before_rst {b : Bridge} {h : List HostEvent}
    (hb : Models b h) (hreset : (session h).reset = false) {f : List Byte}
    (hf : frameKind f = .nak) :
    (bridgeHandleFrame g b f : Host σ Bridge) =
      (do
        note (.handleFrame b f)
        pure b) := by
  have hlog : (session h).log = [] := hb.fresh (hb.ready.trans hreset)
  have hnothing : (ashRetransmit b (ackNumber f) : Host σ Unit) = pure () := by
    rw [hb.ashRetransmit_eq (ackNumber_lt f), hlog, List.drop_nil]
    rfl
  rw [bridgeHandleFrame_eq, hf]
  dsimp only
  rw [hnothing, pure_bind]

/-- In every run of the bridge, whatever connects, whatever the clients and
the NCP send and whatever the lines do:

1. every write goes to the client accepted last, and is the RSTACK unless the
   RSTACK was written to that client before;
2. every SPI transfer comes after the RSTACK of the current connection;
3. every callback poll comes after a version was negotiated since the last
   accept and the last RST;

and a NAK before the first RST of a connection does nothing at all. -/
theorem cmdBridge_handshake (p : Pins) (srv : Int) (passes : ℕ) (s : σ) :
    (∀ t₁ fd buf r t₂,
      (cmdBridge g passes (bridgeInit p srv) s).trace =
        t₁ ++ .call (.write fd buf) r :: t₂ →
      (0 ≤ fd ∧ (session t₁).client = some fd.toNat) ∧
        (buf = ashEncode rstackFrame ∨ (session t₁).answered = true)) ∧
    (∀ t₁ tx keepRx keepCs r t₂,
      (cmdBridge g passes (bridgeInit p srv) s).trace =
        t₁ ++ .call (.spiTransfer tx keepRx keepCs) r :: t₂ →
      (session t₁).answered = true) ∧
    (∀ t₁ b t₂,
      (cmdBridge g passes (bridgeInit p srv) s).trace =
        t₁ ++ .note (.relayCallback b) :: t₂ →
      (session t₁).negotiated = true) ∧
    ∀ t₁ b f t₂,
      (cmdBridge g passes (bridgeInit p srv) s).trace =
        t₁ ++ .note (.handleFrame b f) :: t₂ →
      (session t₁).reset = false → frameKind f = .nak →
      (bridgeHandleFrame g b f : Host σ Bridge) =
        (do
          note (.handleFrame b f)
          pure b) := by
  obtain ⟨howes, _⟩ := cmdBridge_owes g p srv passes s
  refine ⟨?_, ?_, ?_, ?_⟩
  · intro t₁ fd buf r t₂ htrace
    obtain ⟨frame, rfl, hsend⟩ := howes _ _ _ htrace
    exact ⟨hsend.client, hsend.answered.imp_left (congrArg ashEncode)⟩
  · intro t₁ tx keepRx keepCs r t₂ htrace
    exact howes _ _ _ htrace
  · intro t₁ b t₂ htrace
    exact howes _ _ _ htrace
  · intro t₁ b f t₂ htrace hreset hf
    exact (howes _ _ _ htrace).1.nak_before_rst g hreset hf

end EzspSpi
