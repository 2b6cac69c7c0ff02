import EzspSpi.Ash.InBounds
import EzspSpi.Router.Ezsp

/-!
# An EZSP command on its arrays

`ezsp_xfer` once more, with each write to `tx[160]` and each access to
`rx[260]` by its index.  Its guard knows nothing of the header's length, so
what passes it need not fit.
-/

namespace EzspSpi.Arrays

open Program

variable {σ : Type} (oob : ∀ β : Type, Host σ β) (junk : Byte)

def copyParams {size : ℕ} (tx : Filled Byte size) (params : List Byte) :
    Host σ (Filled Byte size) :=
  if params.length ≠ 0 then Filled.append oob tx params params.length
  else pure tx

/-- The frame `ezsp_xfer` puts together in `tx`. -/
def ezspFill (ver : ℕ) (seq frameId : Byte) (params : List Byte) :
    Host σ (Filled Byte 160) := do
  let hdr := (ezspLayout ver).1
  let tx ← Filled.pushAll oob (localFilled junk 160)
    [spiCmdEzspFrame, BitVec.ofNat 8 (params.length + hdr), seq]
  let tx ← Filled.pushAll oob tx (ezspHeader ver frameId)
  let tx ← copyParams oob tx params
  Filled.push oob tx spiFrameTerminator

/-! ## What is written -/

theorem length_ezspHeader (ver : ℕ) (frameId : Byte) :
    (ezspHeader ver frameId).length + 1 = (ezspLayout ver).1 := by
  have hnew : ((ver : Int) ≥ 8) ↔ ver ≥ 8 := Int.ofNat_le
  have hextended : ((ver : Int) ≥ 5) ↔ ver ≥ 5 := Int.ofNat_le
  simp only [ezspHeader, ezspLayout, hnew, hextended]
  split
  · rfl
  · split <;> rfl

theorem ezspLayout_lt (ver : Int) : (ezspLayout ver).2 < (ezspLayout ver).1 := by
  rw [ezspLayout]
  split
  · exact Nat.le_of_ble_eq_true rfl
  · split <;> exact Nat.le_of_ble_eq_true rfl

theorem length_ezspTx (ver : ℕ) (seq frameId : Byte) (params : List Byte) :
    (ezspTx ver seq frameId params).length =
      params.length + (ezspLayout ver).1 + 3 := by
  have hheader := length_ezspHeader ver frameId
  simp only [ezspTx, List.length_append, List.length_cons, List.length_nil]
  omega

/-- A frame whose length byte counts what stands between it and the
terminator. -/
def Framed (frame : List Byte) : Prop :=
  ∃ (count : Byte) (body : List Byte),
    frame = [spiCmdEzspFrame, count] ++ body ++ [spiFrameTerminator] ∧
      count.toNat = body.length

theorem framed_ezspTx {ver : ℕ} {params : List Byte}
    (hlen : params.length + (ezspLayout ver).1 < 256) (seq frameId : Byte) :
    Framed (ezspTx ver seq frameId params) := by
  have hheader := length_ezspHeader ver frameId
  refine ⟨BitVec.ofNat 8 (params.length + (ezspLayout ver).1),
    seq :: ezspHeader ver frameId ++ params, ?_, ?_⟩
  · simp [ezspTx]
  · rw [BitVec.toNat_ofNat, Nat.mod_eq_of_lt hlen, List.length_append,
      List.length_cons]
    omega

/-- Up to the parameters every frame fits. -/
private theorem fillHead_eq (ver : ℕ) (seq frameId count : Byte) :
    ∃ head : Filled Byte 160,
      (do
        let tx ← Filled.pushAll oob (localFilled junk 160)
          [spiCmdEzspFrame, count, seq]
        Filled.pushAll oob tx (ezspHeader ver frameId)) =
          (pure head : Host σ _) ∧
      head.used = [spiCmdEzspFrame, count, seq] ++ ezspHeader ver frameId := by
  have hheader : (ezspHeader ver frameId).length ≤ 4 := by
    rw [ezspHeader]
    split
    · exact le_rfl
    · split <;> simp
  have hempty : (localFilled junk 160).used = [] := Filled.used_empty 160 junk
  obtain ⟨first, hfirst, hused⟩ : ∃ first : Filled Byte 160,
      Filled.pushAll oob (localFilled junk 160) [spiCmdEzspFrame, count, seq] =
          (pure first : Host σ _) ∧
        first.used = (localFilled junk 160).used ++
          [spiCmdEzspFrame, count, seq] :=
    Filled.pushAll_eq oob (Nat.le_of_ble_eq_true rfl)
  rw [hempty, List.nil_append] at hused
  have hlen := congrArg List.length hused
  rw [Filled.length_used] at hlen
  have hroom : first.len + (ezspHeader ver frameId).length ≤ 160 := by
    simp only [hlen, List.length_cons, List.length_nil]
    omega
  obtain ⟨head, hhead, hused'⟩ := Filled.pushAll_eq (σ := σ) oob hroom
  refine ⟨head, ?_, ?_⟩
  · rw [hfirst, pure_bind, hhead]
  · rw [hused', hused]

/-- The rest of a frame, behind its header. -/
private theorem ezspFill_head (ver : ℕ) (seq frameId : Byte)
    (params : List Byte) :
    ∃ head : Filled Byte 160,
      (ezspFill oob junk ver seq frameId params : Host σ _) = (do
        let tx ← copyParams oob head params
        Filled.push oob tx spiFrameTerminator) ∧
      head.used ++ params ++ [spiFrameTerminator] =
        ezspTx ver seq frameId params := by
  obtain ⟨head, hfill, hused⟩ := fillHead_eq (σ := σ) oob junk ver seq frameId
    (BitVec.ofNat 8 (params.length + (ezspLayout ver).1))
  refine ⟨head, ?_, by rw [hused, ezspTx]⟩
  rw [ezspFill, ← bind_assoc, hfill, pure_bind]

private theorem copyParams_eq {size : ℕ} {head : Filled Byte size}
    {params : List Byte} (hfits : head.len + params.length ≤ size) :
    ∃ tx : Filled Byte size, copyParams oob head params = pure tx ∧
      tx.used = head.used ++ params := by
  by_cases hnone : params.length = 0
  · refine ⟨head, if_neg (not_not_intro hnone), ?_⟩
    rw [List.length_eq_zero_iff.mp hnone, List.append_nil]
  · obtain ⟨tx, happend, hused⟩ :=
      Filled.append_eq (σ := σ) oob (a := head) le_rfl hfits
    rw [List.take_length] at hused
    exact ⟨tx, by rw [copyParams, if_pos hnone, happend], hused⟩

/-- A frame that fits is written inside `tx`. -/
theorem ezspFill_eq {ver : ℕ} {params : List Byte}
    (hfits : params.length + (ezspLayout ver).1 + 3 ≤ 160)
    (seq frameId : Byte) :
    ∃ tx : Filled Byte 160,
      (ezspFill oob junk ver seq frameId params : Host σ _) = pure tx ∧
      tx.used = ezspTx ver seq frameId params := by
  obtain ⟨head, hfill, hframe⟩ :=
    ezspFill_head (σ := σ) oob junk ver seq frameId params
  have hlen := congrArg List.length hframe
  simp only [List.length_append, Filled.length_used, List.length_singleton,
    length_ezspTx] at hlen
  have hroom : head.len + params.length ≤ 160 := by omega
  obtain ⟨tx, hcopy, hused⟩ := copyParams_eq oob hroom
  have hcopied := congrArg List.length hused
  rw [Filled.length_used, List.length_append, Filled.length_used] at hcopied
  obtain ⟨whole, hpush, hwhole⟩ := Filled.push_eq (σ := σ) (a := tx) (by omega)
    spiFrameTerminator
  refine ⟨whole, ?_, by rw [hwhole, hused, hframe]⟩
  rw [hfill, hcopy, pure_bind, hpush]

/-- One that does not is written past its end: a write out of bounds that ends
the program ends this one. -/
theorem ezspFill_over {ver : ℕ} {params : List Byte}
    (hover : 160 < params.length + (ezspLayout ver).1 + 3)
    (seq frameId : Byte) :
    (ezspFill (fun _ => halt .killed) junk ver seq frameId params : Host σ _) =
      halt .killed := by
  obtain ⟨head, hfill, hframe⟩ := ezspFill_head (σ := σ)
    (fun _ => halt .killed) junk ver seq frameId params
  have hlen := congrArg List.length hframe
  simp only [List.length_append, Filled.length_used, List.length_singleton,
    length_ezspTx] at hlen
  have hended (f : Filled Byte 160 → Host σ (Filled Byte 160)) :
      (halt .killed >>= f) = halt .killed := rfl
  rw [hfill]
  by_cases hcopy : head.len + params.length ≤ 160
  · obtain ⟨tx, hcopied, hused⟩ :=
      copyParams_eq (σ := σ) (fun _ => halt .killed) hcopy
    have hfull := congrArg List.length hused
    rw [Filled.length_used, List.length_append, Filled.length_used] at hfull
    rw [hcopied, pure_bind, Filled.push, dif_neg (by omega)]
  · have hsome : params.length ≠ 0 := by
      have := head.len_le
      omega
    rw [copyParams, if_pos hsome, Filled.append,
      dif_neg (fun hin => hcopy hin.2), hended]

/-! ## The whole command -/

section Command

variable [Kernel σ] (g : Globals) (p : Pins)

/-- `ezsp_xfer` with its buffers, and with the caller's `payload`. -/
def ezspXfer {payloadMax : ℕ} (r : Router) (frameId : Byte)
    (params : List Byte) (payload : Filled Byte payloadMax) :
    Host σ (Router × Option (Byte × Filled Byte payloadMax)) :=
  if params.length + 5 > 160 then die
  else do
    let (hdr, idOff) := ezspLayout r.ezspVersion
    let tx ← ezspFill oob junk r.ezspVersion r.seq frameId params
    let r' := { r with seq := r.seq + 1 }
    let (cls, rx) ← doCmd oob g p tx.used 260 true
    if cls ≠ .ezsp then pure (r', none)
    else do
      let count ← readAt oob rx 1
      if count.toNat < hdr then pure (r', none)
      else do
        let outId ← readAt oob rx (2 + idOff)
        let payload ← Filled.copyFrom oob payload rx (2 + hdr)
          (min (count.toNat - hdr) payloadMax)
        pure (r', some (outId, payload))

variable {oob}

/-- What it returns, with the payload as a list. -/
def shown {payloadMax : ℕ}
    (out : Router × Option (Byte × Filled Byte payloadMax)) :
    Router × Option (Byte × List Byte) :=
  (out.1, out.2.map fun reply => (reply.1, reply.2.used))

/-- With parameters that fit, the command is the one on lists. -/
theorem ezspXfer_shows {payloadMax : ℕ} (r : Router) (frameId : Byte)
    {params : List Byte}
    (hfits : params.length + (ezspLayout r.ezspVersion).1 + 3 ≤ 160)
    (payload : Filled Byte payloadMax) :
    Shows shown (ezspXfer oob junk g p r frameId params payload : Host σ _)
      (EzspSpi.ezspXfer g p r frameId params payloadMax) := by
  have hheader := length_ezspHeader r.ezspVersion frameId
  have hlayout := ezspLayout_lt r.ezspVersion
  obtain ⟨tx, hfill, hused⟩ :=
    ezspFill_eq (σ := σ) oob junk hfits r.seq frameId
  have hpasses : ¬params.length + 5 > 160 := by
    have : 2 ≤ (ezspHeader r.ezspVersion frameId).length := by
      rw [ezspHeader]
      split
      · exact Nat.le_of_ble_eq_true rfl
      · split <;> exact Nat.le_of_ble_eq_true rfl
    omega
  rw [ezspXfer, EzspSpi.ezspXfer, if_neg hpasses, if_neg hpasses]
  dsimp only
  rw [hfill, pure_bind, hused, doCmd_eq g p _ (Nat.le_of_ble_eq_true rfl)]
  apply (doCmd_yields g p _ (Nat.le_of_ble_eq_true rfl) true).shows
  rintro ⟨cls, rx⟩ hrx
  dsimp only at hrx ⊢
  by_cases hcls : cls ≠ .ezsp
  · rw [if_pos hcls, if_pos (.inl hcls)]
    exact Shows.pure rfl
  · have hbyte : (rx.getD 1 0).toNat < 256 := (rx.getD 1 0).isLt
    rw [if_neg hcls, readAt_getD (by omega) 0, pure_bind]
    by_cases hshort : (rx.getD 1 0).toNat < (ezspLayout r.ezspVersion).1
    · rw [if_pos hshort, if_pos (.inr hshort)]
      exact Shows.pure rfl
    · have hneither : ¬(cls ≠ .ezsp ∨
          (rx.getD 1 0).toNat < (ezspLayout r.ezspVersion).1) :=
        fun heither => heither.elim hcls hshort
      have hroom := Nat.min_le_right
        ((rx.getD 1 0).toNat - (ezspLayout r.ezspVersion).1) payloadMax
      have hread : 2 + (ezspLayout r.ezspVersion).1 +
          min ((rx.getD 1 0).toNat - (ezspLayout r.ezspVersion).1)
            payloadMax ≤ rx.length := by omega
      obtain ⟨payload', hcopy, -, hshown⟩ :=
        Filled.copyFrom_eq (σ := σ) (a := payload) hread hroom
      rw [if_neg hshort, if_neg hneither, readAt_getD (by omega) 0, pure_bind,
        hcopy, pure_bind]
      exact Shows.pure (by rw [shown, Option.map_some, hshown])

end Command

end EzspSpi.Arrays

namespace EzspSpi

open Program Arrays

/-- What the guard of `ezsp_xfer` is for: whatever a write past the end of `tx`
would do, a frame that passes is in `tx`, with the right length byte. -/
def GuardSuffices {σ : Type} (junk : Byte) (ver : ℕ) (seq frameId : Byte)
    (params : List Byte) (s : σ) : Prop :=
  params.length + 5 ≤ 160 →
    ∀ oob : ∀ β : Type, Host σ β, ∃ tx : Filled Byte 160,
      ezspFill oob junk ver seq frameId params s = ⟨.done tx, [], s⟩ ∧
        Framed tx.used

/-- The guard suffices for the frames that fit with their whole header. -/
theorem guardSuffices_iff {σ : Type} (junk : Byte) (ver : ℕ)
    (seq frameId : Byte) (params : List Byte) (s : σ) :
    GuardSuffices junk ver seq frameId params s ↔
      160 < params.length + 5 ∨
        params.length + (ezspLayout ver).1 + 3 ≤ 160 := by
  constructor
  · intro hfill
    by_contra hnot
    obtain ⟨hguard, hover⟩ := not_or.mp hnot
    obtain ⟨tx, hdone, -⟩ :=
      hfill (Nat.not_lt.mp hguard) fun _ => halt .killed
    rw [ezspFill_over junk (Nat.not_le.mp hover), halt_apply] at hdone
    cases congrArg Run.outcome hdone
  · rintro (hdies | hfits) hguard oob
    · exact absurd hguard (Nat.not_le.mpr hdies)
    · obtain ⟨tx, hfill, hused⟩ := ezspFill_eq oob junk hfits seq frameId
      refine ⟨tx, by rw [hfill, pure_apply], ?_⟩
      rw [hused]
      exact framed_ezspTx (by omega) seq frameId

/-- 153 bytes of parameters pass, and their frame of 161 bytes does not fit. -/
theorem guard_passes_overrun :
    ¬∀ (junk : Byte) (ver : ℕ) (seq frameId : Byte) (params : List Byte),
      GuardSuffices junk ver seq frameId params () := by
  intro hall
  obtain ⟨tx, hdone, -⟩ := hall 0 8 0 0 (List.replicate 153 0)
    (by simp) fun _ => halt .killed
  have hkilled : doneWith (fun _ => true)
      (ezspFill (fun _ => halt .killed) 0 8 0 0 (List.replicate 153 0)
        ()).outcome = false := by decide +kernel
  rw [hdone] at hkilled
  cases hkilled

end EzspSpi
