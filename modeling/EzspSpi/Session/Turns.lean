import EzspSpi.Host.Playback
import EzspSpi.Session.Run

/-!
# Commands out of turn

The bridge acknowledges and relays every DATA frame, whatever its number.  So
a command reaches the NCP only in its turn exactly if the client numbers its
frames one after the other: one that sends a frame again has it run again.
-/

namespace EzspSpi

open Program

variable {σ : Type} [Kernel σ] (g : Globals)

/-! ## Once out of order, always out of order -/

private theorem acknowledge_inOrder (S : Session) (n : Byte) :
    (S.acknowledge n).inOrder = S.inOrder := by
  obtain ⟨acked, hacked⟩ := upToAcks_acknowledge S n
  rw [hacked]

private theorem inOrder_of_deliver {S : Session} {f : List Byte}
    (h : (S.deliver f).inOrder = true) : S.inOrder = true := by
  rw [Session.deliver] at h
  split at h
  · exact ((Bool.and_eq_true _ _).mp h).1
  · exact h

private theorem inOrder_of_receive {S : Session} {f : List Byte}
    (h : (S.receive f).inOrder = true) : S.inOrder = true := by
  rw [Session.receive] at h
  split at h
  · exact h
  · rwa [acknowledge_inOrder] at h
  · rwa [acknowledge_inOrder] at h
  · exact h
  · have hacked := inOrder_of_deliver h
    rwa [acknowledge_inOrder] at hacked

private theorem inOrder_of_step {S : Session} {e : HostEvent}
    (h : (S.step e).inOrder = true) : S.inOrder = true := by
  rw [Session.step.eq_def] at h
  split at h
  · exact h
  · split at h
    · exact h
    · exact h
  · exact inOrder_of_receive h
  · exact h
  · exact h
  · exact h

theorem inOrder_of_append {t t' : List HostEvent}
    (h : (session (t ++ t')).inOrder = true) :
    (session t).inOrder = true := by
  induction t' using List.reverseRecOn with
  | nil => rwa [List.append_nil] at h
  | append_singleton t' e ih =>
      rw [← List.append_assoc, session_concat] at h
      exact ih (inOrder_of_step h)

/-! ## When commands are relayed in turn -/

/-- In every run: if the DATA frames the client sends after an RST, each with
an EZSP frame of 1 to 140 bytes, are numbered 0, 1, 2 and so on modulo eight,
then each frame relayed to the NCP has the number the bridge expected.  After
any pass the converse holds too: a frame that repeats or skips a number was
relayed as well. -/
theorem cmdBridge_relays_in_turn_iff (p : Pins) (srv : Int) (passes : ℕ)
    (s : σ) :
    ((session (cmdBridge g passes (bridgeInit p srv) s).trace).inOrder = true →
      ∀ b f, .note (.relay b f) ∈
          (cmdBridge g passes (bridgeInit p srv) s).trace →
        frameNumber f = b.ack) ∧
    ∀ b', (cmdBridge g passes (bridgeInit p srv) s).outcome = .done b' →
      (∀ b f, .note (.relay b f) ∈
          (cmdBridge g passes (bridgeInit p srv) s).trace →
        frameNumber f = b.ack) →
      (session (cmdBridge g passes (bridgeInit p srv) s).trace).inOrder =
        true := by
  obtain ⟨howes, hdone⟩ := cmdBridge_owes g p srv passes s
  constructor
  · intro horder b f hmem
    obtain ⟨t₁, t₂, htrace⟩ := List.append_of_mem hmem
    rw [htrace] at horder
    exact howes _ _ _ htrace (inOrder_of_append horder)
  · intro b' houtcome hturn
    by_contra horder
    obtain ⟨b, f, hmem, hne⟩ :=
      (hdone b' houtcome).accounted (Bool.eq_false_of_not_eq_true horder)
    exact hne (hturn b f hmem)

/-- The client connects, sends an RST, a command in DATA frame 0, and the same
frame once more with the retransmit bit. -/
def repeatedFrame : Playback where
  miso := [0xFE, 0x04, 0x00, 0x80, 0x58, 0x00, 0xA7,
    0xFE, 0x04, 0x00, 0x80, 0x58, 0x00, 0xA7]
  polls := [[⟨true, false, false⟩],
    [⟨false, false, false⟩, ⟨true, false, false⟩],
    [⟨false, false, false⟩, ⟨true, false, false⟩],
    [⟨false, false, false⟩, ⟨true, false, false⟩]]
  accepts := [9]
  reads := [.bytes (ashEncode [0xC0]),
    .bytes (ashEncode (0x00 :: ashMask [0x00, 0x00, 0x05])),
    .bytes (ashEncode (0x08 :: ashMask [0x00, 0x00, 0x05]))]

private def outOfTurn : HostEvent → Bool
  | .note (.relay b f) => decide (frameNumber f ≠ b.ack)
  | _ => false

private theorem mem_of_outOfTurn {t : List HostEvent}
    (ht : t.any outOfTurn = true) :
    ∃ b f, .note (.relay b f) ∈ t ∧ frameNumber f ≠ b.ack := by
  obtain ⟨e, hmem, hout⟩ := List.any_eq_true.mp ht
  cases e with
  | call c r => exact absurd hout Bool.false_ne_true
  | note n =>
      cases n with
      | relay b f => exact ⟨b, f, hmem, of_decide_eq_true hout⟩
      | _ => exact absurd hout Bool.false_ne_true

/-- A retransmitted frame is relayed although the bridge expects the next one,
and the NCP gets its command a second time. -/
theorem cmdBridge_relays_twice :
    (¬∀ b f, .note (.relay b f) ∈
        (cmdBridge ⟨⟨2, true⟩, true⟩ 4 (bridgeInit ⟨3, 4, 5, 7, 6⟩ 8)
          repeatedFrame).trace → frameNumber f = b.ack) ∧
    (exchanges (cmdBridge ⟨⟨2, true⟩, true⟩ 4 (bridgeInit ⟨3, 4, 5, 7, 6⟩ 8)
        repeatedFrame).trace).map Exchange.command =
      [ezspCommand [0x00, 0x00, 0x05], ezspCommand [0x00, 0x00, 0x05]] := by
  constructor
  · intro hturn
    have hany : (cmdBridge ⟨⟨2, true⟩, true⟩ 4
        (bridgeInit ⟨3, 4, 5, 7, 6⟩ 8) repeatedFrame).trace.any outOfTurn =
        true := by
      decide +kernel
    obtain ⟨b, f, hmem, hne⟩ := mem_of_outOfTurn hany
    exact hne (hturn b f hmem)
  · decide +kernel

end EzspSpi
