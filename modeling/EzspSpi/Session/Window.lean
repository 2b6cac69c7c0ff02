import EzspSpi.Host.Playback
import EzspSpi.Session.Backlog
import EzspSpi.Session.Replay

/-!
# The send window

With three-bit numbers at most seven frames can be outstanding, but nothing in
the bridge looks at the client's acknowledgements.  So frames the client may
still NAK are kept exactly in those runs in which the NCP never has a frame to
pass on while seven of the relay's are unacknowledged.
-/

namespace EzspSpi

open Program

variable {σ : Type} [Kernel σ] (g : Globals)

/-! ## Unacknowledged frames along a trace -/

namespace Session

private theorem sound_receive {S : Session} (hS : S.Sound) (f : List Byte) :
    (S.receive f).Sound := by
  rw [receive]
  split
  · exact le_rfl
  · exact hS.acknowledge _
  · exact hS.acknowledge _
  · exact hS
  · rw [Sound, deliver_acked, deliver_log]
    exact hS.acknowledge _

private theorem unacked_receive_le (S : Session) (f : List Byte) :
    (S.receive f).unacked ≤ S.unacked := by
  have hacked : (S.acknowledge (ackNumber f)).unacked ≤ S.unacked := by
    rw [unacked, acknowledge_log]
    exact Nat.sub_le_sub_left (acked_le_acknowledge S _) _
  rw [receive]
  split
  · exact Nat.zero_le _
  · exact hacked
  · exact hacked
  · exact le_rfl
  · rw [unacked, deliver_log, deliver_acked]
    exact hacked

theorem sound_step {S : Session} (hS : S.Sound) (e : HostEvent) :
    (S.step e).Sound := by
  rw [step.eq_def]
  split
  · exact le_rfl
  · split
    · exact hS
    · exact hS
  · exact sound_receive hS _
  · rw [Sound, List.length_append]
    exact hS.trans (Nat.le_add_right _ _)
  · exact hS
  · exact hS

/-- Only storing a frame makes one more outstanding. -/
theorem unacked_step_le (S : Session) {e : HostEvent}
    (he : ∀ body, e ≠ .note (.store body)) : (S.step e).unacked ≤ S.unacked := by
  rw [step.eq_def]
  split
  · exact Nat.zero_le _
  · split
    · exact le_rfl
    · exact le_rfl
  · exact unacked_receive_le S _
  · rename_i body
    exact absurd rfl (he body)
  · exact le_rfl
  · exact le_rfl

theorem unacked_step_store {S : Session} (hS : S.Sound) (body : List Byte) :
    (S.step (.note (.store body))).unacked = S.unacked + 1 := by
  rw [step, unacked, unacked, List.length_append, List.length_singleton]
  exact Nat.sub_add_comm hS

end Session

theorem session_sound (t : List HostEvent) : (session t).Sound := by
  induction t using List.reverseRecOn with
  | nil => exact le_rfl
  | append_singleton t e ih =>
      rw [session_concat]
      exact Session.sound_step ih e

/-- If no frame is stored with seven outstanding, there are never more. -/
private theorem unacked_le_seven {t : List HostEvent}
    (hstore : ∀ t₁ body t₂, t = t₁ ++ .note (.store body) :: t₂ →
      (session t₁).unacked ≤ 6) : (session t).unacked ≤ 7 := by
  induction t using List.reverseRecOn with
  | nil => exact Nat.zero_le _
  | append_singleton t e ih =>
      have hprefix : (session t).unacked ≤ 7 := by
        apply ih
        intro t₁ body t₂ ht
        apply hstore t₁ body (t₂ ++ [e])
        rw [ht, List.append_assoc, List.cons_append]
      rw [session_concat]
      by_cases he : ∃ body, e = .note (.store body)
      · obtain ⟨body, rfl⟩ := he
        rw [Session.unacked_step_store (session_sound t)]
        exact Nat.succ_le_succ (hstore t body [] rfl)
      · have hother : ∀ body, e ≠ .note (.store body) :=
          fun body heq => he ⟨body, heq⟩
        exact (Session.unacked_step_le _ hother).trans hprefix

/-! ## When the window is respected -/

/-- A NAK for the oldest unacknowledged frame resends from that frame on. -/
private theorem Models.nak_oldest {b : Bridge} {h : List HostEvent}
    (hb : Models b h) {f : List Byte} (hf : frameKind f = .nak)
    (holdest : (ackNumber f).toNat = (session h).acked % 8)
    (hwindow : (session h).unacked ≤ 7) :
    (bridgeHandleFrame g b f : Host σ Bridge) =
      (do
        note (.handleFrame b f)
        forM ((session h).log.drop (session h).acked) (resend b)
        pure b) := by
  have hsound : (session h).acked ≤ (session h).log.length := session_sound h
  have hstart : (session h).log.length -
      min (((session h).log.length + 8 - (ackNumber f).toNat) % 8)
        (session h).log.length = (session h).acked := by
    rw [holdest]
    rw [Session.unacked] at hwindow
    omega
  rw [hb.nak_eq g hf, hstart]

/-- In every run, the NCP never brings a frame to pass on while the client has
left seven of those passed on before it unacknowledged, if and only if each
frame stored replaces none but acknowledged ones of its number, at most seven
frames are ever outstanding, and a NAK for the oldest of them resends exactly
from that frame on. -/
theorem cmdBridge_window_iff (p : Pins) (srv : Int) (passes : ℕ) (s : σ) :
    (∀ xs x ys,
      heard (cmdBridge g passes (bridgeInit p srv) s).trace = xs ++ x :: ys →
      (backlog xs).link.Takes x → (backlog xs).outstanding ≤ 6) ↔
    (∀ t₁ body t₂,
      (cmdBridge g passes (bridgeInit p srv) s).trace =
        t₁ ++ .note (.store body) :: t₂ →
      ∀ i old, (session t₁).log[i]? = some old →
        frameNumber old = frameNumber body → i < (session t₁).acked) ∧
    (∀ t₁ t₂,
      (cmdBridge g passes (bridgeInit p srv) s).trace = t₁ ++ t₂ →
      (session t₁).unacked ≤ 7) ∧
    (∀ t₁ b f t₂,
      (cmdBridge g passes (bridgeInit p srv) s).trace =
        t₁ ++ .note (.handleFrame b f) :: t₂ →
      frameKind f = .nak →
      (ackNumber f).toNat = (session t₁).acked % 8 →
      (bridgeHandleFrame g b f : Host σ Bridge) =
        (do
          note (.handleFrame b f)
          forM ((session t₁).log.drop (session t₁).acked) (resend b)
          pure b)) := by
  obtain ⟨howes, _⟩ := cmdBridge_owes g p srv passes s
  obtain ⟨hrelay, _⟩ := cmdBridge_paced g passes (bridgeInit_tracks p srv) s
  generalize (cmdBridge g passes (bridgeInit p srv) s).trace = t
    at howes hrelay ⊢
  have hcounts {t₁ t₂ : List HostEvent} (ht : t = t₁ ++ t₂) :
      (backlog (heard t₁)).outstanding = (session t₁).unacked := by
    rw [ht] at hrelay
    exact (backlog_counts (along_append.mp hrelay).1).outstanding
  constructor
  · intro hheard
    have hstore : ∀ t₁ body t₂, t = t₁ ++ .note (.store body) :: t₂ →
        (session t₁).unacked ≤ 6 := by
      intro t₁ body t₂ ht
      rw [← hcounts ht]
      rw [ht] at hrelay hheard
      obtain ⟨x, ys, hsplit, htakes⟩ := takes_of_store hrelay
      exact hheard _ x ys hsplit htakes
    have hseven : ∀ t₁ t₂, t = t₁ ++ t₂ → (session t₁).unacked ≤ 7 := by
      intro t₁ t₂ ht
      apply unacked_le_seven
      intro u body u' hu
      apply hstore u body (u' ++ t₂)
      rw [ht, hu, List.append_assoc, List.cons_append]
    refine ⟨?_, hseven, ?_⟩
    · intro t₁ body t₂ ht i old hold hsame
      have hstorable : Storable t₁ body := howes _ _ _ ht
      have hnumber := hstorable.numbered i old hold
      rw [hsame, hstorable.number] at hnumber
      obtain ⟨hlt, _⟩ := List.getElem?_eq_some_iff.mp hold
      have hsix := hstore t₁ body t₂ ht
      rw [Session.unacked] at hsix
      omega
    · intro t₁ b f t₂ ht hf holdest
      exact (howes _ _ _ ht).1.nak_oldest g hf holdest (hseven _ _ ht)
  · rintro ⟨_, hseven, _⟩ xs x ys hheard htakes
    obtain ⟨t₁, body, t₂, ht, rfl⟩ := store_of_takes hrelay hheard htakes
    have hafter := hseven (t₁ ++ [.note (.store body)]) t₂ (by rw [ht]; simp)
    rw [session_concat, Session.unacked_step_store (session_sound t₁)] at hafter
    rw [hcounts ht]
    exact Nat.le_of_succ_le_succ hafter

/-- The client negotiates a version, and the NCP has eight callbacks queued
behind the reply. -/
def callbackBurst : Playback where
  miso := [0xFE, 0x04, 0x00, 0x80, 0x00, 0x04, 0xA7] ++
    (List.replicate 8 [0xFE, 0x03, 0x00, 0x90, 0x19, 0xA7]).flatten
  polls := [[⟨true, false, false⟩],
    [⟨false, false, false⟩, ⟨true, false, false⟩],
    [⟨false, false, false⟩, ⟨true, false, false⟩]]
  accepts := [9]
  reads := [.bytes (ashEncode [0xC0]),
    .bytes (ashEncode (0x00 :: ashMask [0x00, 0x00, 0x00, 0x04]))]

private def stored : HostEvent → List Byte
  | .note (.store body) => body
  | _ => []

private theorem split_at_store {t : List HostEvent} {n : ℕ}
    {body : List Byte} (hn : t[n]?.map stored = some body)
    (hbody : body ≠ []) :
    ∃ t₂, t = t.take n ++ .note (.store body) :: t₂ := by
  obtain ⟨e, he, hstored⟩ := Option.map_eq_some_iff.mp hn
  have hsplit := split_at he
  cases e with
  | call c r => exact absurd hstored.symm hbody
  | note m =>
      cases m with
      | store body' =>
          obtain rfl : body' = body := hstored
          exact ⟨_, hsplit⟩
      | _ => exact absurd hstored.symm hbody

/-- The bridge while that happens. -/
def burstTrace : List HostEvent :=
  (cmdBridge ⟨⟨2, true⟩, true⟩ 3 (bridgeInit ⟨3, 4, 5, 7, 6⟩ 8)
    callbackBurst).trace

/-- The ninth frame takes the slot of the first one, which the client has not
acknowledged and could still ask for. -/
theorem cmdBridge_overwrites_unacked :
    ¬∀ t₁ body t₂, burstTrace = t₁ ++ .note (.store body) :: t₂ →
      ∀ i old, (session t₁).log[i]? = some old →
        frameNumber old = frameNumber body → i < (session t₁).acked := by
  intro hkept
  have hstore : (burstTrace[132]?.map stored) =
      some (0x01 :: ashMask [0x00, 0x90, 0x19]) := by
    decide +kernel
  have hfirst : (session (burstTrace.take 132)).log[0]? =
      some (0x01 :: ashMask [0x00, 0x80, 0x00, 0x04]) := by
    decide +kernel
  have hnone : (session (burstTrace.take 132)).acked = 0 := by
    decide +kernel
  obtain ⟨t₂, hsplit⟩ := split_at_store hstore (List.cons_ne_nil _ _)
  have hacked := hkept _ _ t₂ hsplit 0 _ hfirst rfl
  rw [hnone] at hacked
  exact absurd hacked (lt_irrefl 0)

end EzspSpi
