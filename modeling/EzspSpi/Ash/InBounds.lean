import EzspSpi.Ash.Arrays
import EzspSpi.Ash.Receiver

/-!
# Every access lies inside its array

On its arrays the data path does what it does on lists, whatever an access out
of bounds would do and whatever fresh cells hold.  So there is no such access,
and no cell is read before it is written.
-/

namespace EzspSpi.Arrays

open Program ByteStuffing

variable {σ : Type} [Kernel σ] {oob : ∀ β : Type, Host σ β} {junk : Byte}
  (g : Globals)

@[simp]
theorem length_local' (size : ℕ) : (local' junk size).length = size :=
  List.length_replicate

/-! ## The loops -/

omit [Kernel σ] in
private theorem textAt_eq {frame tail : List Byte} {len i : ℕ}
    (hlen : len ≤ frame.length)
    (hi : i < (frame.take len ++ tail).length) :
    (textAt oob frame len tail i : Host σ Byte) =
      pure (frame.take len ++ tail)[i] := by
  have hfront : (frame.take len).length = len := by
    rw [List.length_take, min_eq_left hlen]
  rw [List.length_append, hfront] at hi
  rw [textAt]
  split
  · rename_i hlt
    have hread : i < frame.length := by omega
    rw [readAt_eq hread, List.getElem_append_left (by omega),
      List.getElem_take]
  · rename_i hge
    have hread : i - len < tail.length := by omega
    rw [readAt_eq hread, List.getElem_append_right (by omega)]
    simp only [hfront]

omit [Kernel σ] in
/-- The loop of `ash_send` stuffs what is left of the frame and its CRC. -/
private theorem stuffLoop_eq {frame tail : List Byte} {len : ℕ}
    (hlen : len ≤ frame.length) (rounds i pos : ℕ) (buf : List Byte)
    (hrounds : i + rounds = (frame.take len ++ tail).length)
    (hroom : pos + 2 * rounds ≤ buf.length) :
    (stuffLoop oob frame len tail rounds i pos buf : Host σ _) =
      pure (pos + (stuff ashScheme ((frame.take len ++ tail).drop i)).length,
        overwrite buf pos (stuff ashScheme
          ((frame.take len ++ tail).drop i))) := by
  induction rounds generalizing i pos buf with
  | zero =>
      have hnone : (frame.take len ++ tail).drop i = [] :=
        List.drop_eq_nil_of_le (by omega)
      rw [stuffLoop, hnone]
      simp [stuff]
  | succ rounds ih =>
      have hi : i < (frame.take len ++ tail).length := by omega
      rw [stuffLoop, textAt_eq hlen hi, pure_bind,
        List.drop_eq_getElem_cons hi, stuff_cons]
      generalize (frame.take len ++ tail)[i] = c
      have hpos : pos < buf.length := by omega
      have hstep (written : List Byte) (k : ℕ) (hk : written.length = k)
          (hfits : k ≤ 2) :
          (stuffLoop oob frame len tail rounds (i + 1) (pos + k)
            (overwrite buf pos written) : Host σ _) =
          pure (pos + (written ++ stuff ashScheme
              ((frame.take len ++ tail).drop (i + 1))).length,
            overwrite buf pos (written ++ stuff ashScheme
              ((frame.take len ++ tail).drop (i + 1)))) := by
        have hlength : (overwrite buf pos written).length = buf.length :=
          length_overwrite (by omega)
        rw [ih (i + 1) (pos + k) _ (by omega) (by omega), ← hk,
          overwrite_overwrite _ _ hpos.le, List.length_append, Nat.add_assoc]
      cases hreserved : ashReserved c with
      | true =>
          have hone : stuffOne ashScheme c = [ashEsc, c ^^^ 0x20] :=
            if_pos hreserved
          have hsecond : pos + 1 < (overwrite buf pos [ashEsc]).length := by
            rw [length_overwrite hpos]
            omega
          have hboth : overwrite (overwrite buf pos [ashEsc]) (pos + 1)
              [c ^^^ 0x20] = overwrite buf pos [ashEsc, c ^^^ 0x20] :=
            overwrite_overwrite [ashEsc] [c ^^^ 0x20] hpos.le
          rw [if_pos rfl, writeAt_eq hpos, pure_bind, writeAt_eq hsecond,
            pure_bind, hboth, hone]
          exact hstep [ashEsc, c ^^^ 0x20] 2 rfl le_rfl
      | false =>
          have hone : stuffOne ashScheme c = [c] :=
            if_neg (ne_true_of_eq_false hreserved)
          rw [if_neg Bool.false_ne_true, writeAt_eq hpos, pure_bind, hone]
          exact hstep [c] 1 rfl (by decide)

omit [Kernel σ] in
/-- A masked copy. -/
private theorem maskLoop_eq {src : List Byte} {s d : ℕ} (rounds i : ℕ)
    (dst : List Byte) (hsrc : s + i + rounds ≤ src.length)
    (hrand : i + rounds ≤ 256) (hdst : d + i + rounds ≤ dst.length) :
    (maskLoop oob src s d rounds i dst : Host σ _) =
      pure (overwrite dst (d + i) (((src.drop (s + i)).take rounds).mapIdx
        fun j c => c ^^^ ashRand.getD (i + j) 0)) := by
  induction rounds generalizing i dst with
  | zero => simp [maskLoop]
  | succ rounds ih =>
      have hread : s + i < src.length := by omega
      have hmask : i < ashRand.length := by
        have hlength : ashRand.length = 256 := by decide +kernel
        omega
      have hwrite : d + i < dst.length := by omega
      have hrest := ih (i + 1)
        (overwrite dst (d + i) [src[s + i] ^^^ ashRand[i]])
        (by omega) (by omega) (by rw [length_overwrite hwrite]; omega)
      have hhead : ashRand.getD (i + 0) 0 = ashRand[i] :=
        (List.getElem_eq_getD 0).symm
      rw [maskLoop, readAt_eq hread, pure_bind, readAt_eq hmask, pure_bind,
        writeAt_eq hwrite, pure_bind, hrest,
        List.drop_eq_getElem_cons hread, List.take_succ_cons,
        List.mapIdx_cons, hhead]
      have hnext := overwrite_overwrite [src[s + i] ^^^ ashRand[i]]
        (((src.drop (s + (i + 1))).take rounds).mapIdx
          fun j c => c ^^^ ashRand.getD (i + 1 + j) 0) hwrite.le
      rw [List.length_singleton, Nat.add_assoc d i 1] at hnext
      rw [hnext]
      simp only [List.singleton_append, Nat.add_assoc, Nat.add_comm 1]

omit [Kernel σ] in
/-- Masking from the start of the table. -/
theorem maskLoop_zero {src dst : List Byte} {s d n : ℕ}
    (hsrc : s + n ≤ src.length) (hn : n ≤ ashMaxFrame)
    (hdst : d + n ≤ dst.length) :
    (maskLoop oob src s d n 0 dst : Host σ _) =
      pure (overwrite dst d (ashMask ((src.drop s).take n))) := by
  have hrand : 0 + n ≤ 256 := by
    simp only [ashMaxFrame] at hn
    omega
  rw [maskLoop_eq n 0 dst (by omega) hrand (by omega), ashMask]
  simp

/-! ## Sending -/

theorem ashSend_eq (m : BridgeArrays) {frame : List Byte} {len : ℕ}
    (hlen : len ≤ frame.length) :
    (ashSend oob junk m frame len : Host σ Bool) =
      EzspSpi.ashSend m.toBridge (frame.take len) := by
  have hlength : (frame.take len).length = len := by
    rw [List.length_take, min_eq_left hlen]
  rw [ashSend, EzspSpi.ashSend, hlength]
  by_cases hguard : m.cli < 0 ∨ len + 2 > ashMaxFrame + 2
  · rw [if_pos hguard]
    exact (if_pos hguard).symm
  · have hcovered : 0 + len ≤ frame.length := by omega
    have hfits : len ≤ ashMaxFrame := by omega
    have hbuf : (local' junk (ashMaxFrame * 2 + 8)).length = 288 :=
      length_local' _
    have htext : (frame.take len ++ ashTail (frame.take len)).length =
        len + 2 := by
      rw [List.length_append, hlength, length_ashTail]
    have hstuffed := length_stuff_le ashScheme
      (frame.take len ++ ashTail (frame.take len))
    simp only [ashMaxFrame] at hfits
    rw [if_neg hguard, readRange_eq hcovered, pure_bind, List.drop_zero,
      stuffLoop_eq hlen (len + 2) 0 0 _ (by omega) (by omega), pure_bind,
      List.drop_zero, Nat.zero_add]
    generalize hwire : stuff ashScheme
      (frame.take len ++ ashTail (frame.take len)) = wire at hstuffed
    have hlength' : (wire ++ [ashFlag]).length = wire.length + 1 :=
      List.length_append
    have hlast : wire.length <
        (overwrite (local' junk (ashMaxFrame * 2 + 8)) 0 wire).length := by
      rw [length_overwrite_front (by omega)]
      omega
    have hout : 0 + (wire.length + 1) ≤
        (overwrite (local' junk (ashMaxFrame * 2 + 8)) 0
          (wire ++ [ashFlag])).length := by
      rw [length_overwrite_front (by omega)]
      omega
    dsimp only
    rw [writeAt_eq hlast, pure_bind, overwrite_front rfl, readRange_eq hout,
      pure_bind, List.drop_zero, take_overwrite_front hlength',
      ashEncode_eq_stuff, hwire]
    exact (if_neg hguard).symm

theorem ashSendAck_eq (m : BridgeArrays) :
    (ashSendAck oob junk m : Host σ Unit) =
      EzspSpi.ashSendAck m.toBridge := by
  rw [ashSendAck, ashSend_eq m (Nat.le_refl 1)]
  rfl

omit [Kernel σ] in
private theorem slotAt_eq (n : Byte) :
    (slotAt oob (n &&& 0x07).toNat : Host σ _) = pure (slot n) := by
  have hlt : (n &&& 0x07).toNat < ashWindow := by
    revert n
    decide
  have hslot : (⟨(n &&& 0x07).toNat, hlt⟩ : Fin ashWindow) = slot n :=
    Fin.ext (Nat.mod_eq_of_lt hlt).symm
  rw [slotAt, dif_pos hlt, hslot]

theorem ashSendData_shows (m : BridgeArrays) {ezsp : List Byte} {len : ℕ}
    (hlen : len ≤ ezsp.length) :
    Shows BridgeArrays.toBridge
      (ashSendData oob junk m ezsp len : Host σ BridgeArrays)
      (EzspSpi.ashSendData m.toBridge (ezsp.take len)) := by
  have hlength : (ezsp.take len).length = len := by
    rw [List.length_take, min_eq_left hlen]
  rw [ashSendData, EzspSpi.ashSendData, hlength]
  apply Shows.ite
  · exact fun _ => Shows.pure rfl
  intro hguard
  have hfits : len + 1 ≤ 140 := not_lt.mp hguard
  have hlocal : (local' junk ashMaxFrame).length = 140 := length_local' _
  generalize hctrl : ((m.frm &&& 0x07) <<< 4) ||| (m.ack &&& 0x07) = ctrl
  have hframe : ctrl :: ashMask (ezsp.take len) =
      ashDataFrame m.toBridge (ezsp.take len) := by
    rw [← hctrl]
    rfl
  have hmasked : (ctrl :: ashMask (ezsp.take len)).length = len + 1 := by
    rw [List.length_cons, length_ashMask, hlength]
  have hbuilt : overwrite (overwrite (local' junk ashMaxFrame) 0 [ctrl]) 1
      (ashMask (ezsp.take len)) =
        overwrite (local' junk ashMaxFrame) 0
          (ashDataFrame m.toBridge (ezsp.take len)) := by
    rw [← hframe]
    exact overwrite_front rfl
  have hfirst : (overwrite (local' junk ashMaxFrame) 0 [ctrl]).length =
      140 := by
    rw [length_overwrite_front, hlocal]
    rw [List.length_singleton]
    omega
  rw [writeAt_eq (by omega), pure_bind,
    maskLoop_zero (by omega) (by simp only [ashMaxFrame]; omega) (by omega),
    pure_bind, List.drop_zero]
  rw [hframe] at hmasked
  generalize ashDataFrame m.toBridge (ezsp.take len) = body at *
  have hbody : (overwrite (local' junk ashMaxFrame) 0 body).length = 140 := by
    rw [length_overwrite_front (by omega), hlocal]
  have htaken : (overwrite (local' junk ashMaxFrame) 0 body).take (len + 1) =
      body := take_overwrite_front hmasked
  obtain ⟨stored, hcopy, -, hused⟩ :
      ∃ stored, Filled.copyFrom oob (m.sent (slot m.frm))
          (overwrite (local' junk ashMaxFrame) 0 body) 0 (len + 1) =
            pure stored ∧ stored.len = len + 1 ∧
          stored.used = ((overwrite (local' junk ashMaxFrame) 0 body).drop
            0).take (len + 1) :=
    Filled.copyFrom_eq (by omega) hfits
  rw [List.drop_zero, htaken] at hused
  rw [hbuilt, slotAt_eq, pure_bind, hcopy, pure_bind, hused]
  apply Shows.after
  intro _
  have hstored : (fun n => (Function.update m.sent (slot m.frm) stored n).used) =
      Function.update (fun n => (m.sent n).used) (slot m.frm) body := by
    rw [← hused]
    exact Function.comp_update Filled.used m.sent (slot m.frm) stored
  have hrecorded : BridgeArrays.toBridge { m with
      sent := Function.update m.sent (slot m.frm) stored
      frm := nextNumber m.frm
      frm_le := nextNumber_le m.frm } = { m.toBridge with
      sent := Function.update m.toBridge.sent (slot m.frm) body
      frm := nextNumber m.frm } := by
    simp only [BridgeArrays.toBridge, hstored]
  dsimp only
  rw [ashSend_eq _ (by omega), htaken, hrecorded]
  apply Shows.after
  exact fun _ => Shows.pure hrecorded

/-- A slot sent once more, from a copy with the retransmit bit set. -/
private theorem resendSlot_eq (m : BridgeArrays)
    (stored : Filled Byte ashMaxFrame) :
    (onlyIf (stored.len ≠ 0) (do
      let body ← copyRange oob (local' junk ashMaxFrame) 0 stored.cells 0
        stored.len
      let ctrl ← readAt oob body 0
      let body ← writeAt oob body 0 (ctrl ||| 0x08)
      discard (ashSend oob junk m body stored.len)) : Host σ Unit) =
    onlyIf (stored.used ≠ [])
      (discard (EzspSpi.ashSend m.toBridge (setRetransmit stored.used))) := by
  have hlength : stored.used.length = stored.len := stored.length_used
  by_cases hunused : stored.len = 0
  · have hnil : stored.used = [] :=
      List.eq_nil_of_length_eq_zero (hlength.trans hunused)
    rw [onlyIf, if_neg (not_not.mpr hunused), onlyIf,
      if_neg (not_not.mpr hnil)]
  have hnil : stored.used ≠ [] := by
    intro hnil
    rw [hnil] at hlength
    exact hunused hlength.symm
  have hlocal : (local' junk ashMaxFrame).length = 140 := length_local' _
  have hlen : stored.len ≤ 140 := stored.len_le
  have hcells : stored.cells.length = 140 := stored.size_eq
  have hcopied : (stored.cells.drop 0).take stored.len = stored.used := rfl
  rw [onlyIf, if_pos hunused, onlyIf, if_pos hnil,
    copyRange_eq (by omega) (by omega), pure_bind, hcopied, overwrite_zero]
  obtain ⟨ctrl, rest, hused⟩ := List.exists_cons_of_ne_nil hnil
  rw [hused, List.length_cons] at hlength
  rw [hused, List.cons_append, readAt_eq (Nat.succ_pos _), pure_bind,
    writeAt_eq (Nat.succ_pos _), pure_bind, overwrite_zero]
  generalize (local' junk ashMaxFrame).drop (ctrl :: rest).length = pad
  have hmarked : [(ctrl :: (rest ++ pad))[0] ||| 0x08] ++
      (ctrl :: (rest ++ pad)).drop
        [(ctrl :: (rest ++ pad))[0] ||| 0x08].length =
      ((ctrl ||| 0x08) :: rest) ++ pad := rfl
  have hcovered : stored.len ≤ (((ctrl ||| 0x08) :: rest) ++ pad).length := by
    rw [List.length_append, List.length_cons, hlength]
    exact Nat.le_add_right _ _
  have hresent : ((ctrl ||| 0x08) :: rest).length = stored.len := hlength
  rw [hmarked, ashSend_eq m hcovered, List.take_left' hresent]
  rfl

private theorem retransmitFrom_eq (m : BridgeArrays) (tests : ℕ) (n : Byte) :
    (retransmitFrom oob junk m tests n : Host σ Unit) =
      EzspSpi.retransmitFrom m.toBridge tests n := by
  induction tests generalizing n with
  | zero => rfl
  | succ tests ih =>
      rw [retransmitFrom, EzspSpi.retransmitFrom, slotAt_eq, pure_bind]
      dsimp only
      rw [resendSlot_eq, ih]
      rfl

theorem ashRetransmit_eq (m : BridgeArrays) (n : Byte) :
    (ashRetransmit oob junk m n : Host σ Unit) =
      EzspSpi.ashRetransmit m.toBridge n :=
  retransmitFrom_eq m 9 n

/-! ## Transactions -/

/-- What was received, stored in a buffer of zeros. -/
private theorem overwrite_zeros (received : List Byte) (rxlen : ℕ) :
    overwrite (List.replicate rxlen 0) 0 received =
      rxBuffer received rxlen := by
  rw [overwrite_zero, rxBuffer, List.drop_replicate]

private theorem overwrite_rxBuffer (head tail : List Byte) (rxlen : ℕ) :
    overwrite (rxBuffer head rxlen) head.length tail =
      rxBuffer (head ++ tail) rxlen := by
  rw [← overwrite_zeros, ← overwrite_zeros, overwrite_front rfl]

private theorem responseHead_eq (b : Byte) {rxlen : ℕ} (hrxlen : 1 ≤ rxlen) :
    (responseHead oob (List.replicate rxlen 0) b rxlen : Host σ _) =
      EzspSpi.responseHead b rxlen >>= fun out =>
        pure (rxBuffer out.1 rxlen, out.1.length, out.2) := by
  have hwrite : 0 < (List.replicate rxlen (0 : Byte)).length := by
    rw [List.length_replicate]
    exact hrxlen
  rw [responseHead, EzspSpi.responseHead, writeAt_eq hwrite, pure_bind,
    overwrite_zeros]
  split
  · split
    · rename_i hlong
      have hsecond : 1 < (rxBuffer [b] rxlen).length := by
        rw [length_rxBuffer hrxlen]
        exact hlong
      rw [bind_assoc]
      congr 1
      funext len
      rw [writeAt_eq hsecond, pure_bind, pure_bind]
      have htwo := overwrite_rxBuffer [b] [len] rxlen
      rw [List.length_singleton] at htwo
      rw [htwo]
      rfl
    · rw [pure_bind]
      rfl
  · split <;> rw [pure_bind] <;> rfl

/-- The final transfer fills up what is left of the receive buffer. -/
private theorem responseTail_eq (p : Pins) (head : List Byte)
    (remain : ℕ) {rxlen : ℕ} (hrxlen : head.length ≤ rxlen) :
    (responseTail oob p (rxBuffer head rxlen) head.length
        (min (min remain (rxlen - head.length)) 260) : Host σ _) =
      EzspSpi.responseTail p (min (min remain (rxlen - head.length)) 260) >>=
        fun tail => pure ((head ++ tail).length,
          rxBuffer (head ++ tail) rxlen) := by
  have hroom : min (min remain (rxlen - head.length)) 260 ≤
      rxlen - head.length := by omega
  have hpad : min (min remain (rxlen - head.length)) 260 ≤ 260 := by omega
  generalize min (min remain (rxlen - head.length)) 260 = count at *
  rw [responseTail, EzspSpi.responseTail]
  have hnothing : (head.length, rxBuffer head rxlen) =
      ((head ++ []).length, rxBuffer (head ++ []) rxlen) := by
    rw [List.append_nil]
  split
  · have hcovered : 0 + count ≤ (List.replicate 260 spiIdle).length := by
      rw [List.length_replicate]
      omega
    have hsent : ((List.replicate 260 spiIdle).drop 0).take count =
        List.replicate count spiIdle := by
      rw [List.drop_zero, List.take_replicate, min_eq_left hpad]
    rw [readRange_eq hcovered, pure_bind, hsent]
    apply (spiRaw_yields _ _ _).congr
    intro got hgot
    rw [List.length_replicate] at hgot
    have hfits : head.length + got.length ≤ (rxBuffer head rxlen).length := by
      rw [length_rxBuffer hrxlen]
      omega
    rw [writeRange_eq hfits, pure_bind, overwrite_rxBuffer,
      List.length_append, hgot]
  · split
    · rw [bind_assoc]
      congr 1
      funext _
      rw [pure_bind, hnothing]
    · rw [pure_bind, hnothing]

theorem spiTxnFramed_eq (p : Pins) (tx : List Byte) {rxlen : ℕ}
    (hrxlen : 1 ≤ rxlen) :
    (spiTxnFramed oob g p tx rxlen : Host σ (ℕ × List Byte)) =
      EzspSpi.spiTxnFramed g p tx rxlen := by
  rw [spiTxnFramed, EzspSpi.spiTxnFramed]
  congr 1
  funext _
  congr 1
  funext _
  congr 1
  funext b
  split
  · rfl
  · rw [responseHead_eq b hrxlen, bind_assoc]
    apply (responseHead_yields b hrxlen).congr
    rintro ⟨head, remain⟩ hhead
    rw [pure_bind]
    dsimp only
    rw [responseTail_eq p head remain hhead, bind_assoc]
    congr 1

theorem doCmd_eq (p : Pins) (tx : List Byte) {rxlen : ℕ} (hrxlen : 1 ≤ rxlen)
    (retryOnReset : Bool) :
    (doCmd oob g p tx rxlen retryOnReset : Host σ (RspClass × List Byte)) =
      EzspSpi.doCmd g p tx rxlen retryOnReset := by
  have honce : (doCmdOnce oob g p tx rxlen : Host σ _) =
      EzspSpi.doCmdOnce g p tx rxlen := by
    rw [doCmdOnce, EzspSpi.doCmdOnce, spiTxnFramed_eq g p tx hrxlen]
  rw [doCmd, EzspSpi.doCmd, honce]

/-! ## Relaying -/

private theorem length_ezspCommand (ezsp : List Byte) :
    (ezspCommand ezsp).length = ezsp.length + 3 := by
  simp only [ezspCommand, List.length_append, List.length_cons,
    List.length_nil]
  omega

theorem ezspRelay_shows (p : Pins) {in' : List Byte} {inlen : ℕ}
    (hlen : inlen ≤ in'.length) {outmax : ℕ} (out : Filled Byte outmax) :
    Shows (Option.map Filled.used)
      (ezspRelay oob junk g p in' inlen out : Host σ _)
      (EzspSpi.ezspRelay g p (in'.take inlen) outmax) := by
  have hlength : (in'.take inlen).length = inlen := by
    rw [List.length_take, min_eq_left hlen]
  rw [ezspRelay, EzspSpi.ezspRelay, hlength]
  apply Shows.ite
  · exact fun _ => Shows.pure rfl
  intro hguard
  have hlocal : (local' junk (ashMaxFrame + 8)).length = 148 :=
    length_local' _
  have hfits : inlen + 3 ≤ 148 := by
    simp only [ashMaxFrame] at hguard
    omega
  have hfilled (src : List Byte) (hsrc : src.length ≤ 148) :
      (overwrite (local' junk (ashMaxFrame + 8)) 0 src).length = 148 := by
    rw [length_overwrite_front (hlocal.symm ▸ hsrc), hlocal]
  have hone := hfilled [spiCmdEzspFrame] (by decide)
  have htwo := hfilled ([spiCmdEzspFrame] ++ [BitVec.ofNat 8 inlen])
    (by simp)
  have hmost := hfilled ([spiCmdEzspFrame] ++ [BitVec.ofNat 8 inlen] ++
    in'.take inlen) (by simp; omega)
  have hall := hfilled (ezspCommand (in'.take inlen)) (by
    rw [length_ezspCommand, hlength]
    exact hfits)
  have htype : [spiCmdEzspFrame].length = 1 := rfl
  have hheader : ([spiCmdEzspFrame] ++ [BitVec.ofNat 8 inlen]).length = 2 :=
    rfl
  have hpayload : ([spiCmdEzspFrame] ++ [BitVec.ofNat 8 inlen] ++
      in'.take inlen).length = 2 + inlen := by
    simp only [List.length_append, List.length_singleton, hlength]
  have hcommand : [spiCmdEzspFrame] ++ [BitVec.ofNat 8 inlen] ++
      in'.take inlen ++ [spiFrameTerminator] =
        ezspCommand (in'.take inlen) := by
    rw [ezspCommand, hlength]
    rfl
  have hwhole : (ezspCommand (in'.take inlen)).length = inlen + 3 := by
    rw [length_ezspCommand, hlength]
  rw [writeAt_eq (by omega), pure_bind, writeAt_eq (by omega), pure_bind,
    overwrite_front htype, copyRange_eq (by omega) (by omega), pure_bind,
    List.drop_zero, overwrite_front hheader, writeAt_eq (by omega), pure_bind,
    overwrite_front hpayload, hcommand, readRange_eq (by omega), pure_bind,
    List.drop_zero, take_overwrite_front hwhole, doCmd_eq g p _ (by decide)]
  apply (doCmd_yields g p _ (by decide) true).shows
  rintro ⟨cls, rx⟩ hrx
  dsimp only at hrx ⊢
  apply Shows.ite
  · exact fun _ => Shows.pure rfl
  intro _
  have hone : 1 < rx.length := by omega
  have hcount : rx[1] = rx.getD 1 0 := List.getElem_eq_getD 0
  have hmin : min (rx.getD 1 0).toNat outmax ≤ outmax := Nat.min_le_right _ _
  have hbyte : (rx.getD 1 0).toNat < 256 := (rx.getD 1 0).isLt
  rw [readAt_eq hone, pure_bind, hcount]
  obtain ⟨out', hcopy, -, hused⟩ :
      ∃ out', Filled.copyFrom oob out rx 2 (min (rx.getD 1 0).toNat outmax) =
          pure out' ∧ out'.len = min (rx.getD 1 0).toNat outmax ∧
        out'.used = (rx.drop 2).take (min (rx.getD 1 0).toNat outmax) :=
    Filled.copyFrom_eq (by omega) hmin
  rw [hcopy, pure_bind]
  exact Shows.pure (congrArg some hused)

end EzspSpi.Arrays
