import EzspSpi.Host.Playback
import EzspSpi.Session.Run

/-!
# NAK replay

A NAK resends the last frames of the session exactly, from the requested one
on, through any number of wraps of the frame number.
-/

namespace EzspSpi

open Program

variable {σ : Type} [Kernel σ] (g : Globals)

/-- A frame of the log fits a write as it is. -/
private theorem ashSend_resent {X : List Exchange} {b : Bridge}
    {body : List Byte} (hbody : Carried X body) (hcli : 0 ≤ b.cli) :
    (ashSend b (setRetransmit body) : Host σ Bool) =
      writeAll b.cli (ashEncode (setRetransmit body)) := by
  have hlength := hbody.setRetransmit.length
  rw [ashSend, if_neg]
  omega

/-- What handling a NAK comes to. -/
theorem Models.nak_eq {b : Bridge} {h : List HostEvent}
    (hb : Models b h) {f : List Byte} (hf : frameKind f = .nak) :
    (bridgeHandleFrame g b f : Host σ Bridge) =
      (do
        note (.handleFrame b f)
        forM ((session h).log.drop ((session h).log.length -
          min (((session h).log.length + 8 - (ackNumber f).toNat) % 8)
            (session h).log.length)) (resend b)
        pure b) := by
  rw [bridgeHandleFrame_eq, hf]
  dsimp only
  rw [hb.ashRetransmit_eq (ackNumber_lt f)]

/-- In every run, wherever a frame is handled and `T` frames have been stored
since the last RST or accept: the `i`-th of them carries the number
`i mod 8`; `ash_retransmit` from any `n` below eight comes to an end after the
last `min ((T - n) mod 8) T` of them, oldest first, each written whole with
nothing changed but the retransmit bit; and if the frame is a NAK, this is all
that handling it does, the bridge state being what it was. -/
theorem cmdBridge_replays (p : Pins) (srv : Int) (passes : ℕ) (s : σ) :
    ∀ t₁ b f t₂,
      (cmdBridge g passes (bridgeInit p srv) s).trace =
        t₁ ++ .note (.handleFrame b f) :: t₂ →
      (∀ i body, (session t₁).log[i]? = some body →
        (frameNumber body).toNat = i % 8) ∧
      (∀ n : Byte, n.toNat < 8 →
        (ashRetransmit b n : Host σ Unit) =
          forM ((session t₁).log.drop ((session t₁).log.length -
            min (((session t₁).log.length + 8 - n.toNat) % 8)
              (session t₁).log.length)) (resend b)) ∧
      (∀ body ∈ (session t₁).log,
        (ashSend b (setRetransmit body) : Host σ Bool) =
          writeAll b.cli (ashEncode (setRetransmit body))) ∧
      (frameKind f = .nak →
        (bridgeHandleFrame g b f : Host σ Bridge) =
          (do
            note (.handleFrame b f)
            forM ((session t₁).log.drop ((session t₁).log.length -
              min (((session t₁).log.length + 8 - (ackNumber f).toNat) % 8)
                (session t₁).log.length)) (resend b)
            pure b)) := by
  intro t₁ b f t₂ htrace
  obtain ⟨hmodels, hcli⟩ := (cmdBridge_owes g p srv passes s).1 _ _ _ htrace
  refine ⟨hmodels.numbered, ?_, ?_, hmodels.nak_eq g⟩
  · intro n hn
    exact hmodels.ashRetransmit_eq hn
  · intro body hbody
    exact ashSend_resent (hmodels.carried body hbody) hcli

/-- The client gets one reply and asks for it again. -/
def requestedAgain : Playback where
  miso := [0xFE, 0x04, 0x00, 0x80, 0x58, 0x00, 0xA7]
  polls := [[⟨true, false, false⟩],
    [⟨false, false, false⟩, ⟨true, false, false⟩],
    [⟨false, false, false⟩, ⟨true, false, false⟩],
    [⟨false, false, false⟩, ⟨true, false, false⟩]]
  accepts := [9]
  reads := [.bytes (ashEncode [0xC0]),
    .bytes (ashEncode (0x00 :: ashMask [0x00, 0x00, 0x05])),
    .bytes (ashEncode [0xA0])]

def requestedTrace : List HostEvent :=
  (cmdBridge ⟨⟨2, true⟩, true⟩ 4 (bridgeInit ⟨3, 4, 5, 7, 6⟩ 8)
    requestedAgain).trace

private def handledFrame : HostEvent → Option (List Byte)
  | .note (.handleFrame _ f) => some f
  | _ => none

/-- The NAK is answered with the reply, and only that. -/
theorem cmdBridge_replays_reply :
    ∃ b t₂,
      requestedTrace =
        requestedTrace.take 32 ++ .note (.handleFrame b [0xA0]) :: t₂ ∧
      (bridgeHandleFrame ⟨⟨2, true⟩, true⟩ b [0xA0] : Host Playback Bridge) =
        (do
          note (.handleFrame b [0xA0])
          forM [0x01 :: ashMask [0x00, 0x80, 0x58, 0x00]] (resend b)
          pure b) := by
  have hnak : requestedTrace[32]?.bind handledFrame = some [0xA0] := by
    decide +kernel
  have hlog : (session (requestedTrace.take 32)).log =
      [0x01 :: ashMask [0x00, 0x80, 0x58, 0x00]] := by
    decide +kernel
  obtain ⟨e, he, hframe⟩ := Option.bind_eq_some_iff.mp hnak
  cases e with
  | call c r => cases hframe
  | note n =>
      cases n with
      | handleFrame b f =>
          cases hframe
          have hsplit := split_at he
          have hreplay := (cmdBridge_replays ⟨⟨2, true⟩, true⟩
            ⟨3, 4, 5, 7, 6⟩ 8 4 requestedAgain _ b [0xA0] _ hsplit).2.2.2 rfl
          rw [hlog] at hreplay
          exact ⟨b, _, hsplit, hreplay⟩
      | _ => cases hframe

end EzspSpi
