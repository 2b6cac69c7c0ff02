import EzspSpi.Ash.InBounds
import EzspSpi.Session.Upkeep

/-!
# Whole runs stay in bounds

The receiver, the drain and the main loop on their arrays, up to any number of
passes, and the bounds of the bridge state on the way.
-/

namespace EzspSpi.Arrays

open Program ByteStuffing

variable {σ : Type} [Kernel σ] {oob : ∀ β : Type, Host σ β} {junk : Byte}
  (g : Globals)

/-! ## Callbacks -/

omit [Kernel σ] in
/-- `f` holds the poll of this version. -/
private theorem pollFrame_eq (ver : Int) (seq : Byte) :
    ∃ n f, (pollFrame oob junk ver seq : Host σ _) = pure (n, f) ∧
      n ≤ f.length ∧ f.take n = callbackPoll ver seq := by
  have hlocal : (local' junk 8).length = 8 := length_local' 8
  have hone : (overwrite (local' junk 8) 0 [seq]).length = 8 := by
    rw [length_overwrite_front (by simp), hlocal]
  have hfirst : [seq].length = 1 := rfl
  have hfilled (rest : List Byte) (hrest : rest.length ≤ 7) :
      (writeRange oob (overwrite (local' junk 8) 0 [seq]) 1 rest :
          Host σ _) = pure (overwrite (local' junk 8) 0 (seq :: rest)) ∧
      rest.length + 1 ≤
        (overwrite (local' junk 8) 0 (seq :: rest)).length ∧
      (overwrite (local' junk 8) 0 (seq :: rest)).take (rest.length + 1) =
        seq :: rest := by
    have hfits : (seq :: rest).length ≤ (local' junk 8).length := by
      rw [hlocal, List.length_cons]
      omega
    rw [writeRange_eq (by omega), overwrite_front hfirst,
      length_overwrite_front (by omega)]
    exact ⟨rfl, hfits, take_overwrite_front List.length_cons⟩
  rw [pollFrame, callbackPoll, writeAt_eq (by omega), pure_bind]
  split
  · obtain ⟨hwritten, hlen, htake⟩ :=
      hfilled [0x00, 0x01, ezspCallback, 0x00] (by decide)
    rw [hwritten, pure_bind]
    exact ⟨5, _, rfl, hlen, htake⟩
  · split
    · obtain ⟨hwritten, hlen, htake⟩ :=
        hfilled [0x00, 0xFF, 0x00, ezspCallback] (by decide)
      rw [hwritten, pure_bind]
      exact ⟨5, _, rfl, hlen, htake⟩
    · obtain ⟨hwritten, hlen, htake⟩ :=
        hfilled [0x00, ezspCallback] (by decide)
      rw [hwritten, pure_bind]
      exact ⟨3, _, rfl, hlen, htake⟩

omit [Kernel σ] in
/-- A read among the first cells. -/
private theorem readAt_take {buf : List Byte} {n i : ℕ}
    (hn : n ≤ buf.length) (hi : i < n) :
    (readAt oob buf i : Host σ Byte) = pure ((buf.take n).getD i 0) := by
  have hbuf : i < buf.length := hi.trans_le hn
  have htake : i < (buf.take n).length := by
    rw [List.length_take]
    omega
  have hvalue : buf[i] = (buf.take n)[i] := List.getElem_take.symm
  rw [readAt_eq hbuf, hvalue, List.getElem_eq_getD 0]

private theorem len_le_cells {size : ℕ} (a : Filled Byte size) :
    a.len ≤ a.cells.length := a.len_le.trans_eq a.size_eq.symm

theorem ezspRelayCallback_shows (m : BridgeArrays)
    (out : Filled Byte ashMaxFrame) :
    Shows (fun r => (r.1.toBridge, r.2.used))
      (ezspRelayCallback oob junk g m out : Host σ _)
      (EzspSpi.ezspRelayCallback g m.toBridge ashMaxFrame) := by
  obtain ⟨n, f, hpoll, hn, htake⟩ :
      ∃ n f, (pollFrame oob junk m.ver m.cbseq : Host σ _) = pure (n, f) ∧
        n ≤ f.length ∧ f.take n = callbackPoll m.ver m.cbseq :=
    pollFrame_eq m.ver m.cbseq
  rw [ezspRelayCallback, EzspSpi.ezspRelayCallback]
  apply Shows.after
  intro _
  have hver : m.toBridge.ver = m.ver := rfl
  rw [hver]
  generalize ezspLayout m.ver = layout
  obtain ⟨hdr, idOff⟩ := layout
  dsimp only
  rw [hpoll, pure_bind]
  have hrelay : Shows (Option.map Filled.used)
      (ezspRelay oob junk g m.p f n out : Host σ _)
      (EzspSpi.ezspRelay g m.p (f.take n) ashMaxFrame) :=
    ezspRelay_shows g m.p hn out
  rw [htake] at hrelay
  apply hrelay.bind
  intro reply
  cases reply with
  | none => exact Shows.pure (congrArg _ out.used_clear)
  | some out =>
      have hlength : out.used.length = out.len := out.length_used
      dsimp only [Option.map]
      rw [hlength]
      apply Shows.ite
      · exact fun _ => Shows.pure (congrArg _ out.used_clear)
      intro hlong
      rw [readAt_take (len_le_cells out) (not_le.mp hlong), pure_bind]
      apply Shows.ite
      · exact fun _ => Shows.pure (congrArg _ out.used_clear)
      · exact fun _ => Shows.pure rfl

/-- An array with nothing in use holds nothing. -/
private theorem used_eq_nil {size : ℕ} (a : Filled Byte size) :
    a.used = [] ↔ a.len = 0 := by
  rw [← a.length_used, List.length_eq_zero_iff]

private theorem drainRounds_shows (rounds : ℕ) (m : BridgeArrays)
    (frame : Filled Byte ashMaxFrame) :
    Shows BridgeArrays.toBridge
      (drainRounds oob junk g rounds m frame : Host σ BridgeArrays)
      (EzspSpi.drainRounds g rounds m.toBridge) := by
  induction rounds generalizing m frame with
  | zero => exact Shows.pure rfl
  | succ rounds ih =>
      rw [drainRounds, EzspSpi.drainRounds]
      apply Shows.after
      intro level
      apply Shows.ite
      · exact fun _ => Shows.pure rfl
      intro _
      apply (ezspRelayCallback_shows g m frame).bind
      rintro ⟨m', frame'⟩
      dsimp only
      by_cases hnone : frame'.len = 0
      · rw [if_pos hnone, if_pos ((used_eq_nil frame').mpr hnone)]
        exact Shows.pure rfl
      · rw [if_neg hnone, if_neg (mt (used_eq_nil frame').mp hnone)]
        apply (ashSendData_shows m' (len_le_cells frame')).bind
        exact fun m'' => ih m'' frame'

theorem bridgeDrainCallbacks_shows (m : BridgeArrays) :
    Shows BridgeArrays.toBridge
      (bridgeDrainCallbacks oob junk g m : Host σ BridgeArrays)
      (EzspSpi.bridgeDrainCallbacks g m.toBridge) := by
  rw [bridgeDrainCallbacks, EzspSpi.bridgeDrainCallbacks]
  apply Shows.ite
  · exact fun _ => Shows.pure rfl
  · exact fun _ => drainRounds_shows g 32 m _

/-! ## Frames -/

omit g in
theorem bridgeReset_shows (m : BridgeArrays) :
    Shows BridgeArrays.toBridge
      (bridgeReset oob junk m : Host σ BridgeArrays)
      (EzspSpi.bridgeReset m.toBridge) := by
  rw [bridgeReset, EzspSpi.bridgeReset]
  apply Shows.after
  intro _
  dsimp only
  rw [ashSend_eq _ (by decide)]
  apply Shows.after
  exact fun _ => Shows.pure rfl

omit [Kernel σ] in
private theorem sniffVersion_eq (ver : Int) {ezsp : List Byte} {plen : ℕ}
    (hplen : plen ≤ ezsp.length) (resp : Filled Byte ashMaxFrame) :
    (sniffVersion oob ver ezsp plen resp.cells resp.len : Host σ _) =
      pure (EzspSpi.sniffVersion ver (ezsp.take plen) resp.used) := by
  have hlength : (ezsp.take plen).length = plen := by
    rw [List.length_take, min_eq_left hplen]
  rw [sniffVersion, EzspSpi.sniffVersion, hlength, resp.length_used]
  generalize ezspLayout ver = layout
  obtain ⟨hdr, idOff⟩ := layout
  dsimp only
  by_cases hshort : idOff < plen
  · rw [if_pos hshort, readAt_take hplen hshort, pure_bind]
    by_cases hid : (ezsp.take plen).getD idOff 0 = ezspVersion ∧ hdr < resp.len
    · rw [if_pos hid, if_pos ⟨hshort, hid⟩,
        readAt_take (len_le_cells resp) hid.2, pure_bind]
      rfl
    · rw [if_neg hid, if_neg fun h => hid h.2]
  · rw [if_neg hshort, if_neg fun h => hshort h.1]

omit [Kernel σ] in
private theorem adoptVersion_shows (m : BridgeArrays) {ezsp : List Byte}
    {plen : ℕ} (hplen : plen ≤ ezsp.length)
    (resp : Filled Byte ashMaxFrame) :
    Shows BridgeArrays.toBridge
      (adoptVersion oob m ezsp plen resp.cells resp.len : Host σ BridgeArrays)
      (EzspSpi.adoptVersion m.toBridge (ezsp.take plen) resp.used) := by
  have hver : m.toBridge.ver = m.ver := rfl
  rw [adoptVersion, EzspSpi.adoptVersion, sniffVersion_eq m.ver hplen,
    pure_bind, hver]
  cases EzspSpi.sniffVersion m.ver (ezsp.take plen) resp.used with
  | none => exact Shows.pure rfl
  | some neg =>
      apply Shows.after
      exact fun _ => Shows.pure rfl

theorem bridgeHandleData_shows (m : BridgeArrays) {f : List Byte} {len : ℕ}
    (hpos : 1 ≤ len) (hlen : len ≤ f.length) :
    Shows BridgeArrays.toBridge
      (bridgeHandleData oob junk g m f len : Host σ BridgeArrays)
      (EzspSpi.bridgeHandleData g m.toBridge (f.take len)) := by
  have hlength : (f.take len).length = len := by
    rw [List.length_take, min_eq_left hlen]
  rw [bridgeHandleData, EzspSpi.bridgeHandleData, hlength]
  dsimp only
  apply Shows.ite
  · exact fun _ => Shows.pure rfl
  intro hplen
  have hfits : len - 1 ≤ ashMaxFrame := by omega
  have hlocal : (local' junk ashMaxFrame).length = ashMaxFrame :=
    length_local' _
  have hpayload : (f.drop 1).take (len - 1) = (f.take len).tail := by
    rw [← List.drop_one, List.drop_take]
  have hmasked : (ashMask (f.take len).tail).length = len - 1 := by
    rw [length_ashMask, List.length_tail, hlength]
  have hezsp : len - 1 ≤ (overwrite (local' junk ashMaxFrame) 0
      (ashMask (f.take len).tail)).length := by
    rw [length_overwrite_front (by omega), hlocal]
    exact hfits
  have hctrl : (f.take len).getD 0 0 = (f.take len).headD 0 := by
    rw [List.headD_eq_head?_getD, List.head?_eq_getElem?,
      List.getD_eq_getElem?_getD]
  rw [maskLoop_zero (by omega) hfits (by omega), pure_bind, hpayload,
    readAt_take hlen hpos, pure_bind, hctrl, ashSendAck_eq]
  have hzero : (overwrite (local' junk ashMaxFrame) 0
      (ashMask (f.take len).tail)).take (len - 1) =
        ashMask (f.take len).tail :=
    take_overwrite_front hmasked
  generalize overwrite (local' junk ashMaxFrame) 0
    (ashMask (f.take len).tail) = ezsp at hezsp hzero
  apply Shows.after
  intro _
  apply Shows.after
  intro _
  rw [← hzero]
  apply (ezspRelay_shows g m.p hezsp _).bind
  intro reply
  cases reply with
  | none => exact Shows.pure rfl
  | some resp =>
      dsimp only [Option.map]
      by_cases hnone : resp.len = 0
      · rw [if_pos hnone, if_pos ((used_eq_nil resp).mpr hnone)]
        exact Shows.pure rfl
      · rw [if_neg hnone, if_neg (mt (used_eq_nil resp).mp hnone)]
        apply (adoptVersion_shows _ hezsp resp).bind
        intro m₁
        apply (ashSendData_shows m₁ (len_le_cells resp)).bind
        exact fun m₂ => bridgeDrainCallbacks_shows g m₂

theorem bridgeHandleFrame_shows (m : BridgeArrays) {f : List Byte} {len : ℕ}
    (hpos : 1 ≤ len) (hlen : len ≤ f.length) :
    Shows BridgeArrays.toBridge
      (bridgeHandleFrame oob junk g m f len : Host σ BridgeArrays)
      (EzspSpi.bridgeHandleFrame g m.toBridge (f.take len)) := by
  have hctrl : (f.take len).getD 0 0 = (f.take len).headD 0 := by
    rw [List.headD_eq_head?_getD, List.head?_eq_getElem?,
      List.getD_eq_getElem?_getD]
  rw [bridgeHandleFrame, EzspSpi.bridgeHandleFrame]
  apply Shows.after
  intro _
  rw [readAt_take hlen hpos, pure_bind, hctrl]
  apply Shows.ite
  · exact fun _ => bridgeReset_shows m
  intro _
  apply Shows.ite
  · exact fun _ => Shows.pure rfl
  intro _
  apply Shows.ite
  · intro _
    rw [ashRetransmit_eq]
    apply Shows.after
    exact fun _ => Shows.pure rfl
  intro _
  apply Shows.ite
  · exact fun _ => Shows.pure rfl
  intro _
  apply Shows.ite
  · exact fun _ => Shows.pure rfl
  · exact fun _ => bridgeHandleData_shows g m hpos hlen

/-! ## Bytes -/

omit [Kernel σ] in
private theorem ashChecked_eq (rx : Filled Byte (ashMaxFrame * 2))
    (hlen : 3 ≤ rx.len) :
    (ashChecked oob rx : Host σ Bool) =
      pure (EzspSpi.ashChecked rx.used) := by
  have hcells := len_le_cells rx
  have hcovered : rx.used.take (rx.len - 2) =
      (rx.cells.drop 0).take (rx.len - 2) := by
    rw [Filled.used, List.take_take, List.drop_zero, min_eq_left (by omega)]
  have hlow : rx.len - 2 + 1 = rx.len - 1 := by omega
  rw [ashChecked, EzspSpi.ashChecked, readAt_take hcells (by omega), pure_bind,
    readAt_take hcells (by omega), pure_bind, readRange_eq (by omega),
    pure_bind, rx.length_used, hcovered]
  dsimp only
  rw [hlow]
  rfl

theorem bridgeFlag_shows (m : BridgeArrays) :
    Shows BridgeArrays.toBridge
      (bridgeFlag oob junk g m : Host σ BridgeArrays)
      (EzspSpi.bridgeFlag g m.toBridge) := by
  have hlength : m.toBridge.rx.length = m.rx.len := m.rx.length_used
  have hempty : Shows BridgeArrays.toBridge
      (pure { m with rx := m.rx.clear, esc := false } : Host σ BridgeArrays)
      (pure { m.toBridge with rx := [], esc := false }) := Shows.pure rfl
  rw [bridgeFlag, EzspSpi.bridgeFlag, hlength]
  by_cases hlong : 3 ≤ m.rx.len
  · rw [if_pos hlong, ashChecked_eq m.rx hlong, pure_bind]
    cases hchecked : EzspSpi.ashChecked m.rx.used with
    | true =>
        have hcells := len_le_cells m.rx
        have hframe : Shows BridgeArrays.toBridge
            (bridgeHandleFrame oob junk g m m.rx.cells (m.rx.len - 2) :
              Host σ BridgeArrays)
            (EzspSpi.bridgeHandleFrame g m.toBridge
              (m.rx.cells.take (m.rx.len - 2))) :=
          bridgeHandleFrame_shows g m (by omega) (by omega)
        have htake : m.rx.cells.take (m.rx.len - 2) =
            m.toBridge.rx.take (m.rx.len - 2) := by
          have hused : m.toBridge.rx = m.rx.cells.take m.rx.len := rfl
          rw [hused, List.take_take, min_eq_left (by omega)]
        rw [if_pos rfl, if_pos ⟨hlong, hchecked⟩, ← htake]
        apply hframe.bind
        exact fun _ => Shows.pure rfl
    | false =>
        have hbad : ¬(3 ≤ m.rx.len ∧
            EzspSpi.ashChecked m.toBridge.rx = true) :=
          fun h => Bool.false_ne_true (hchecked.symm.trans h.2)
        rw [if_neg Bool.false_ne_true, if_neg hbad]
        exact hempty
  · rw [if_neg hlong, if_neg fun h => hlong h.1]
    exact hempty

theorem bridgeFeedByte_shows (m : BridgeArrays) (c : Byte) :
    Shows BridgeArrays.toBridge
      (bridgeFeedByte oob junk g m c : Host σ BridgeArrays)
      (EzspSpi.bridgeFeedByte g m.toBridge c) := by
  rw [bridgeFeedByte, EzspSpi.bridgeFeedByte]
  apply Shows.ite
  · exact fun _ => Shows.pure rfl
  intro _
  apply Shows.ite
  · exact fun _ => Shows.pure rfl
  intro _
  apply Shows.ite
  · exact fun _ => Shows.pure rfl
  intro _
  apply Shows.ite
  · exact fun _ => Shows.pure rfl
  intro _
  apply Shows.ite
  · exact fun _ => bridgeFlag_shows g m
  intro _
  have hlength : m.toBridge.rx.length = m.rx.len := m.rx.length_used
  rw [hlength]
  apply Shows.ite
  · intro hroom
    obtain ⟨rx, hpush, hused⟩ :
        ∃ rx, Filled.push oob m.rx (if m.esc then c ^^^ 0x20 else c) =
          pure rx ∧
          rx.used = m.rx.used ++ [if m.esc then c ^^^ 0x20 else c] :=
      Filled.push_eq hroom _
    rw [hpush, pure_bind]
    apply Shows.pure
    simp only [BridgeArrays.toBridge, hused]
    rfl
  · exact fun _ => Shows.pure rfl

theorem bridgeFeed_shows (m : BridgeArrays) (buf : List Byte) :
    Shows BridgeArrays.toBridge
      (bridgeFeed oob junk g m buf : Host σ BridgeArrays)
      (EzspSpi.bridgeFeed g m.toBridge buf) := by
  induction buf generalizing m with
  | nil => exact Shows.pure rfl
  | cons c buf ih =>
      rw [bridgeFeed, EzspSpi.bridgeFeed, List.foldlM_cons, List.foldlM_cons]
      exact (bridgeFeedByte_shows g m c).bind ih

/-! ## The main loop -/

omit g in
private theorem bridgeDropClient_shows (m : BridgeArrays) :
    Shows BridgeArrays.toBridge
      (bridgeDropClient m : Host σ BridgeArrays)
      (EzspSpi.bridgeDropClient m.toBridge) := by
  rw [bridgeDropClient, EzspSpi.bridgeDropClient]
  apply Shows.ite
  · exact fun _ => Shows.pure rfl
  · intro _
    apply Shows.after
    exact fun _ => Shows.pure rfl

omit g in
private theorem bridgeAccept_shows (m : BridgeArrays) :
    Shows BridgeArrays.toBridge
      (bridgeAccept m : Host σ BridgeArrays)
      (EzspSpi.bridgeAccept m.toBridge) := by
  have hcli : m.toBridge.cli = m.cli := rfl
  rw [bridgeAccept, EzspSpi.bridgeAccept]
  apply Shows.after
  intro fd
  cases fd with
  | none => exact Shows.pure rfl
  | some fd =>
      dsimp only
      rw [hcli]
      by_cases hcli : 0 ≤ m.cli
      · rw [if_pos hcli, if_pos hcli]
        apply (bridgeDropClient_shows m).bind
        exact fun _ => Shows.pure rfl
      · rw [if_neg hcli, if_neg hcli]
        exact Shows.pure rfl

private theorem bridgeRead_shows (m : BridgeArrays) :
    Shows BridgeArrays.toBridge
      (bridgeRead oob junk g m : Host σ BridgeArrays)
      (EzspSpi.bridgeRead g m.toBridge) := by
  rw [bridgeRead, EzspSpi.bridgeRead]
  apply Shows.after
  intro got
  cases got with
  | bytes buf =>
      cases buf with
      | nil => exact bridgeDropClient_shows m
      | cons c buf => exact bridgeFeed_shows g m (c :: buf)
  | interrupted => exact Shows.pure rfl
  | failed => exact bridgeDropClient_shows m

private theorem bridgeServeClient_shows (m : BridgeArrays)
    (ivCli ivHint : Option ℕ) (revents : ℕ → Revents) :
    Shows BridgeArrays.toBridge
      (bridgeServeClient oob junk g m ivCli ivHint revents :
        Host σ BridgeArrays)
      (EzspSpi.bridgeServeClient g m.toBridge ivCli ivHint revents) := by
  rw [bridgeServeClient, EzspSpi.bridgeServeClient]
  apply Shows.after
  intro _
  apply Shows.ite
  · exact fun _ => bridgeDropClient_shows m
  intro _
  by_cases hpollin : ivCli.any (fun iv => (revents iv).pollin) = true
  · rw [if_pos hpollin, if_pos hpollin]
    exact (bridgeRead_shows g m).bind (bridgeDrainCallbacks_shows g)
  · rw [if_neg hpollin, if_neg hpollin]
    exact bridgeDrainCallbacks_shows g m

private theorem bridgeServe_shows (m : BridgeArrays)
    (ivCli ivHint : Option ℕ) (revents : ℕ → Revents) :
    Shows BridgeArrays.toBridge
      (bridgeServe oob junk g m ivCli ivHint revents : Host σ BridgeArrays)
      (EzspSpi.bridgeServe g m.toBridge ivCli ivHint revents) := by
  rw [bridgeServe, EzspSpi.bridgeServe]
  by_cases hpollin : (revents 0).pollin = true
  · rw [if_pos hpollin, if_pos hpollin]
    apply (bridgeAccept_shows m).bind
    exact fun m' => bridgeServeClient_shows g m' ivCli ivHint revents
  · rw [if_neg hpollin, if_neg hpollin]
    exact bridgeServeClient_shows g m ivCli ivHint revents

theorem bridgePass_shows (m : BridgeArrays) :
    Shows BridgeArrays.toBridge
      (bridgePass oob junk g m : Host σ BridgeArrays)
      (EzspSpi.bridgePass g m.toBridge) := by
  rw [bridgePass, EzspSpi.bridgePass]
  apply Shows.after
  intro watch
  apply Shows.after
  intro got
  cases got with
  | interrupted => exact Shows.pure rfl
  | failed => rfl
  | ready revents => exact bridgeServe_shows g m _ _ revents

theorem cmdBridge_shows (passes : ℕ) (m : BridgeArrays) :
    Shows BridgeArrays.toBridge
      (cmdBridge oob junk g passes m : Host σ BridgeArrays)
      (EzspSpi.cmdBridge g passes m.toBridge) := by
  induction passes generalizing m with
  | zero => exact Shows.pure rfl
  | succ passes ih =>
      rw [cmdBridge, EzspSpi.cmdBridge]
      exact (bridgePass_shows g m).bind ih

/-! ## Bounds of the state -/

/-- Lengths within the arrays, and frame numbers of three bits. -/
structure Bounded (b : Bridge) : Prop where
  rx : b.rx.length ≤ 280
  frm : b.frm.toNat ≤ 7
  ack : b.ack.toNat ≤ 7
  sent : ∀ n, (b.sent n).length ≤ 140

/-- The bounds are in the arrays themselves. -/
theorem BridgeArrays.bounded (m : BridgeArrays) : Bounded m.toBridge where
  rx := m.rx.length_used.trans_le m.rx.len_le
  frm := m.frm_le
  ack := m.ack_le
  sent n := (m.sent n).length_used.trans_le (m.sent n).len_le

/-- Every state the trace shows is within its bounds. -/
private def boundedNotes : Contract host where
  event _ e := ∀ b f, e = .note (.handleFrame b f) ∨ e = .note (.relay b f) ∨
    e = .note (.relayCallback b) → Bounded b
  halt _ := True

private theorem bounded_upkeep : Upkeep boundedNotes fun b _ => Bounded b where
  halt _ := trivial
  call _ _ _ := by
    rintro b f (heq | heq | heq) <;> cases heq
  relay _ hb := by
    rintro b f (heq | heq | heq) <;> cases heq
    exact hb
  plain hb _ := hb
  command hb _ := hb
  store hb hbody := by
    constructor
    · rintro b f (heq | heq | heq) <;> cases heq
    · refine ⟨hb.rx, nextNumber_le _, hb.ack, fun n => ?_⟩
      dsimp only [recordSent]
      rw [Function.update_apply]
      split
      · exact hbody
      · exact hb.sent n
  ack n hb := ⟨hb.rx, hb.frm, nextNumber_le n, hb.sent⟩
  adopt hb _ _ _ := by
    constructor
    · rintro b f (heq | heq | heq) <;> cases heq
    · exact ⟨hb.rx, hb.frm, hb.ack, hb.sent⟩
  poll hb _ := by
    constructor
    · rintro b f (heq | heq | heq) <;> cases heq
      exact hb
    · exact ⟨hb.rx, hb.frm, hb.ack, hb.sent⟩
  handle _ hb := by
    rintro b f (heq | heq | heq) <;> cases heq
    exact hb
  handled hb _ := hb
  reset hb _ _ := ⟨hb.rx, Nat.zero_le 7, Nat.zero_le 7, fun _ => Nat.zero_le _⟩
  receive _ hb hrx := by
    refine ⟨?_, hb.frm, hb.ack, hb.sent⟩
    rcases hrx with rfl | rfl | ⟨c, hroom, rfl⟩
    · exact Nat.zero_le _
    · exact hb.rx
    · simp only [ashMaxFrame] at hroom
      rw [List.length_append, List.length_singleton]
      omega
  drop hb := ⟨Nat.zero_le _, hb.frm, hb.ack, hb.sent⟩
  accept _ _ _ :=
    ⟨Nat.zero_le _, Nat.zero_le 7, Nat.zero_le 7, fun _ => Nat.zero_le _⟩

/-- No access out of bounds, for any client, any NCP and any number of passes.
The bridge on its arrays, where an access out of bounds does `oob` and a fresh
cell holds `junk`, does the same whatever these two are, and it is the bridge
on lists.  Each state has at most 280 received bytes, frame numbers of three
bits and at most 140 bytes in a slot: on the arrays by their construction, and
so on lists, before the first pass, at each entry of a function that the trace
shows and after the last pass. -/
theorem cmdBridge_in_bounds (p : Pins) (srv : Int) (passes : ℕ) :
    (∀ (oob : ∀ β : Type, Host σ β) (junk : Byte),
      (do
        let m ← cmdBridge oob junk g passes (bridgeInit p srv)
        pure m.toBridge : Host σ Bridge) =
          EzspSpi.cmdBridge g passes (EzspSpi.bridgeInit p srv)) ∧
    (∀ m : BridgeArrays, Bounded m.toBridge) ∧
    ∀ s : σ,
      (∀ e ∈ (EzspSpi.cmdBridge g passes (EzspSpi.bridgeInit p srv) s).trace,
        ∀ b f, e = .note (.handleFrame b f) ∨ e = .note (.relay b f) ∨
          e = .note (.relayCallback b) → Bounded b) ∧
      ∀ b, (EzspSpi.cmdBridge g passes
        (EzspSpi.bridgeInit p srv) s).outcome = .done b → Bounded b := by
  refine ⟨fun oob junk => cmdBridge_shows g passes (bridgeInit p srv),
    BridgeArrays.bounded, fun s => ?_⟩
  have hstart : Bounded (EzspSpi.bridgeInit p srv) :=
    (bridgeInit p srv).bounded
  obtain ⟨halong, hdone, _⟩ :=
    bounded_upkeep.cmdBridge (h := []) g passes hstart s
  refine ⟨fun e he => ?_, hdone⟩
  obtain ⟨t₁, t₂, htrace⟩ := List.append_of_mem he
  rw [htrace] at halong
  exact halong.at_event

end EzspSpi.Arrays
