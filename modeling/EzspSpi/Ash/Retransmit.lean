import EzspSpi.Ash.Bridge
import EzspSpi.Core.RingLog

/-!
# Retransmission

The slots of sent frames are a ring of the latest frames, so the loop of
`ash_retransmit`, which stops at the number that comes next, resends the last
frames of the session from the requested one on.
-/

namespace EzspSpi

open Program RingLog

variable {σ : Type} [Kernel σ]

/-- A frame sent once more. -/
def resend (b : Bridge) (body : List Byte) : Host σ Unit :=
  discard (ashSend b (setRetransmit body))

theorem slot_eq_ofNat {n : Byte} {N : ℕ} (hn : n.toNat = N % 8) :
    slot n = Fin.ofNat ashWindow N := by
  apply Fin.ext
  rw [slot_val, hn, Nat.mod_mod]
  rfl

/-- The loop walks the ring, as long as it has not come round. -/
private theorem retransmitFrom_eq_walk (b : Bridge) (k : ℕ) :
    ∀ (tests N : ℕ) (n : Byte), n.toNat = N % 8 → k < tests → k < 8 →
      b.frm.toNat = (N + k) % 8 →
      (retransmitFrom b tests n : Host σ Unit) =
        forM ((walk b.sent N k).filter fun body => decide (body ≠ []))
          (resend b) := by
  induction k with
  | zero =>
      intro tests N n hn htests _ hfrm
      obtain ⟨tests, rfl⟩ := Nat.exists_eq_succ_of_ne_zero htests.ne'
      have hstop : n = b.frm := BitVec.eq_of_toNat_eq (hn.trans hfrm.symm)
      rw [retransmitFrom, if_pos hstop]
      rfl
  | succ k ih =>
      intro tests N n hn htests hk hfrm
      obtain ⟨tests, rfl⟩ := Nat.exists_eq_succ_of_ne_zero
        (Nat.ne_zero_of_lt htests)
      have hgo : n ≠ b.frm := by
        intro heq
        rw [heq] at hn
        omega
      have hnext : (nextNumber n).toNat = (N + 1) % 8 := by
        rw [nextNumber_toNat, hn]
        omega
      have hfrm' : b.frm.toNat = (N + 1 + k) % 8 := by
        rw [hfrm, Nat.add_right_comm, Nat.add_assoc]
      rw [retransmitFrom, if_neg hgo, ih tests (N + 1) (nextNumber n) hnext
        (by omega) (by omega) hfrm', slot_eq_ofNat hn, walk_succ]
      by_cases hempty : b.sent (Fin.ofNat ashWindow N) = []
      · have hunused : ¬(b.sent (Fin.ofNat ashWindow N) ≠ []) :=
          not_not.mpr hempty
        rw [onlyIf, if_neg hunused, pure_bind, List.filter_cons_of_neg]
        simpa using hempty
      · rw [onlyIf, if_pos hempty, List.filter_cons_of_pos, List.forM_cons]
        · rfl
        · simpa using hempty

/-- Between two numbers in range the loop ends, having walked the ring. -/
theorem ashRetransmit_eq_walk {b : Bridge} (hfrm : b.frm.toNat < 8) {n : Byte}
    (hn : n.toNat < 8) :
    (ashRetransmit b n : Host σ Unit) =
      forM ((walk b.sent n.toNat (behind ashWindow b.frm.toNat n.toNat)).filter
        fun body => decide (body ≠ [])) (resend b) := by
  have hbehind : behind ashWindow b.frm.toNat n.toNat < 8 := behind_lt _ _
  have hstop : b.frm.toNat =
      (n.toNat + behind ashWindow b.frm.toNat n.toNat) % 8 :=
    (Nat.mod_eq_of_lt hfrm).symm.trans (add_behind hn).symm
  exact retransmitFrom_eq_walk b _ 9 n.toNat n (Nat.mod_eq_of_lt hn).symm
    (by omega) hbehind hstop

/-- With `T` frames sent in the session, a NAK for `n` resends the last
`min ((T - n) mod 8) T` of them, oldest first. -/
theorem ashRetransmit_eq {b : Bridge} {log : List (List Byte)}
    (hring : Mirrors [] b.sent log) (hfrm : b.frm.toNat = log.length % 8)
    (hlog : ∀ body ∈ log, body ≠ []) {n : Byte} (hn : n.toNat < 8) :
    (ashRetransmit b n : Host σ Unit) =
      forM (log.drop (log.length - min ((log.length + 8 - n.toNat) % 8)
        log.length)) (resend b) := by
  have hrange : b.frm.toNat < 8 := by omega
  have hbehind : behind ashWindow b.frm.toNat n.toNat =
      behind ashWindow log.length n.toNat := by
    simp only [behind, ashWindow, hfrm]
    omega
  rw [ashRetransmit_eq_walk hrange hn, hbehind, hring.walk_filter hlog hn]
  rfl

end EzspSpi
