import EzspSpi.Ash.Retransmit
import EzspSpi.Ash.Version
import EzspSpi.Session.LinkSteps
import EzspSpi.Session.Steps

/-!
# Handling one frame as the relay does

One rule for each function of the bridge that sends to the client, up to
`bridge_handle_frame`: the bridge writes what the relay sends, and its state
reflects the relay's again.
-/

namespace EzspSpi

open Program RingLog Transducer

variable {σ : Type} [Kernel σ] (g : Globals)

/-! ## Sending -/

theorem Reflects.send {b : Bridge} {L : Link} (hb : Reflects b L)
    (hcli : 0 ≤ b.cli) (frames : List (List Byte)) :
    L.send frames = frames.map fun frame => (b.cli, ashEncode frame) := by
  rw [Link.send, hb.client hcli]
  dsimp only
  rw [Int.toNat_of_nonneg hcli]

/-- A frame that is due is written. -/
theorem ashSend_paced {b : Bridge} {L : Link} {h : List HostEvent}
    {frame : List Byte} {due : List (Int × List Byte)} (hcli : 0 ≤ b.cli)
    (hlen : frame.length ≤ ashMaxFrame)
    (hh : Stands L ((b.cli, ashEncode frame) :: due) L.log h) :
    Holds relayContract h (ashSend b frame : Host σ Bool)
      fun _ h' => Stands L due L.log h' := by
  have hdue (rounds : List WriteResult) :
      (b.cli, ashEncode frame) :: due ++ relay.output L
          (Reader.tells (.call (.write b.cli (ashEncode frame)) rounds)) =
        writtenAt (.call (.write b.cli (ashEncode frame)) rounds) ++ due :=
    List.append_nil _
  have hwrite (rounds : List WriteResult) :=
    hh.event rfl (List.append_nil _) (hdue rounds) False.elim
  apply (ashSend_holds relayContract_halt hcli hlen
    fun rounds => (hwrite rounds).1).mono
  rintro _ _ ⟨rounds, rfl⟩
  exact (hwrite rounds).2

private theorem three_bits {n : Byte} (hn : n &&& 0x07 = n) :
    n.toNat < 8 := by
  revert n
  decide

/-- The frame the bridge builds is the one the relay does. -/
theorem Reflects.dataFrame {b : Bridge} {L : Link} (hb : Reflects b L)
    (ezsp : List Byte) : ashDataFrame b ezsp = L.dataFrame ezsp := by
  rw [ashDataFrame, Link.dataFrame, hb.three, hb.next, low_bits, hb.frm,
    Nat.mod_mod]

/-- One frame more in the ring and in the log. -/
theorem Reflects.push {b : Bridge} {L : Link} {body : List Byte}
    (hb : Reflects b L) (hbody : body ≠ [] ∧ body.length ≤ ashMaxFrame) :
    Reflects (recordSent b body) { L with log := L.log ++ [body] } where
  client := hb.client
  linked := hb.linked
  ver := hb.ver
  next := hb.next
  three := hb.three
  frm := by
    rw [recordSent, nextNumber_toNat, hb.frm, List.length_append,
      List.length_singleton, Nat.mod_add_mod]
  ring := by
    rw [recordSent, slot_eq_ofNat hb.frm]
    exact hb.ring.push body
  sent := by
    intro body' hmem
    rcases List.mem_append.mp hmem with hold | hnew
    · exact hb.sent body' hold
    · exact List.mem_singleton.mp hnew ▸ hbody

/-- `ash_send_data` writes what the relay passes on, and drops what it
drops. -/
theorem ashSendData_paced {b : Bridge} {L : Link} {h : List HostEvent}
    {ezsp : List Byte} (hb : Reflects b L) (hcli : 0 ≤ b.cli)
    (hezsp : ezsp ≠ [])
    (hh : Stands (L.pass ezsp).1 (L.pass ezsp).2 L.log h) :
    Holds relayContract h
      (ashSendData b (ezsp.take ashMaxFrame) : Host σ Bridge) Serves := by
  by_cases hfits : ashMaxFrame ≤ ezsp.length
  · have hlong : (ezsp.take ashMaxFrame).length + 1 > ashMaxFrame := by
      rw [List.length_take, min_eq_left hfits]
      exact Nat.lt_succ_self _
    have hdropped : L.pass ezsp = (L, []) := if_pos (Or.inr hfits)
    rw [hdropped] at hh
    rw [ashSendData, if_pos hlong]
    exact Holds.pure ⟨⟨L, hb, hh⟩, hcli⟩
  · have hshort : ezsp.length < ashMaxFrame := not_le.mp hfits
    have hwhole : ezsp.take ashMaxFrame = ezsp :=
      List.take_of_length_le hshort.le
    have hroom : ¬(ezsp.length + 1 > ashMaxFrame) := by omega
    have hpass : L.pass ezsp =
        ({ L with log := L.log ++ [L.dataFrame ezsp] },
          L.send [L.dataFrame ezsp]) :=
      if_neg fun hdrop => hdrop.elim hezsp hfits
    have hlength : (L.dataFrame ezsp).length ≤ ashMaxFrame := by
      rw [Link.dataFrame, List.length_cons, length_ashMask]
      exact hshort
    rw [hpass, hb.send hcli] at hh
    rw [hwhole, ashSendData, if_neg hroom, hb.dataFrame]
    obtain ⟨hstore, hh'⟩ := hh.event
      (e := .note (.store (L.dataFrame ezsp))) rfl rfl
      (List.append_nil _) False.elim
    apply Holds.bind
    apply Holds.note hstore
    apply (ashSend_paced hcli hlength hh').seq
    intro _ h' hsent
    apply Holds.pure
    exact ⟨⟨_, hb.push ⟨List.cons_ne_nil _ _, hlength⟩, hsent⟩, hcli⟩

/-! ## Callbacks -/

/-- The header fields of an answer are not touched by cutting it. -/
private theorem getD_take {frame : List Byte} {i : ℕ} (hi : i < ashMaxFrame) :
    (frame.take ashMaxFrame).getD i 0 = frame.getD i 0 := by
  rw [List.getD_eq_getElem?_getD, List.getD_eq_getElem?_getD,
    List.getElem?_take_of_lt hi]

private theorem lt_length_take {frame : List Byte} {i : ℕ}
    (hi : i < ashMaxFrame) :
    i < (frame.take ashMaxFrame).length ↔ i < frame.length := by
  rw [List.length_take, lt_min_iff]
  exact and_iff_right hi

private theorem ezspLayout_snd_lt (ver : Int) :
    (ezspLayout ver).2 < ashMaxFrame := by
  rw [ezspLayout]
  split_ifs <;> decide

private theorem isCallback_take (ver : Int) (frame : List Byte) :
    Link.IsCallback ver (frame.take ashMaxFrame) ↔
      Link.IsCallback ver frame := by
  have hlt := ezspLayout_snd_lt ver
  rw [Link.IsCallback, Link.IsCallback, lt_length_take hlt, getD_take hlt]

/-- `ezsp_relay_callback` hands on the answers that are callbacks. -/
private theorem ezspRelayCallback_eq (b : Bridge) (outmax : ℕ) :
    (ezspRelayCallback g b outmax : Host σ (Bridge × List Byte)) =
      (do
        note (.relayCallback b)
        let reply ← ezspRelay g b.p (callbackPoll b.ver b.cbseq) outmax
        pure ({ b with cbseq := b.cbseq + 1 },
          match reply with
          | none => []
          | some out => if Link.IsCallback b.ver out then out else [])) := by
  rw [ezspRelayCallback]
  generalize hlayout : ezspLayout b.ver = layout
  obtain ⟨hdr, idOff⟩ := layout
  dsimp only
  congr 1
  funext _
  congr 1
  funext reply
  cases reply with
  | none => rfl
  | some out =>
      have hcallback : Link.IsCallback b.ver out ↔
          idOff < out.length ∧ out.getD idOff 0 ≠ ezspNoCallbacks := by
        rw [Link.IsCallback, hlayout]
      dsimp only
      by_cases hshort : out.length ≤ idOff
      · rw [if_pos hshort, if_neg fun h =>
          absurd (hcallback.mp h).1 (not_lt.mpr hshort)]
      · rw [if_neg hshort]
        by_cases hnone : out.getD idOff 0 = ezspNoCallbacks
        · rw [if_pos hnone, if_neg fun h => (hcallback.mp h).2 hnone]
        · rw [if_neg hnone, if_pos (hcallback.mpr ⟨not_le.mp hshort, hnone⟩)]

/-- The bridge may count its polls. -/
theorem Reflects.polled {b : Bridge} {L : Link} (hb : Reflects b L)
    (n : Byte) : Reflects { b with cbseq := n } L :=
  ⟨hb.client, hb.linked, hb.ver, hb.next, hb.three, hb.frm, hb.ring, hb.sent⟩

private theorem relay_callback (L : Link) (frame : List Byte) :
    relay.after L [.callback frame] =
        (if Link.IsCallback L.ver frame then L.pass frame else (L, [])).1 ∧
      relay.output L [.callback frame] =
        (if Link.IsCallback L.ver frame then L.pass frame else (L, [])).2 :=
  ⟨rfl, List.append_nil _⟩

private theorem callbackRound_paced {b : Bridge} {h : List HostEvent}
    (hb : Serves b h) :
    Holds relayContract h (ezspRelayCallback g b ashMaxFrame :
        Host σ (Bridge × List Byte)) fun out h' =>
      (out.2 = [] → Serves out.1 h') ∧
        (out.2 ≠ [] → Holds relayContract h'
          (ashSendData out.1 out.2 : Host σ Bridge) Serves) := by
  obtain ⟨⟨L, hreflects, hh⟩, hcli⟩ := hb
  have hpolled := hreflects.polled (b.cbseq + 1)
  have hdue : ([] : List (Int × List Byte)) ++ relay.output L
      (Reader.tells (.note (.relayCallback b))) =
        writtenAt (.note (.relayCallback b)) ++ [] := rfl
  have hkept : L.log ++ storedAt (.note (.relayCallback b)) = L.log :=
    List.append_nil _
  obtain ⟨howing, hstate, hlog⟩ := hh.concat rfl hkept hdue
  have hasking : Asking .callback L (h ++ [.note (.relayCallback b)]) :=
    ⟨howing, hstate, hlog⟩
  have hnote : relayContract.event h (.note (.relayCallback b)) :=
    hh.keeps howing False.elim hkept
  rw [ezspRelayCallback_eq]
  apply Holds.bind
  apply Holds.note hnote
  apply (ezspRelay_paced g b.p hasking (callbackPoll_ne_nil _ _)
    (length_callbackPoll _ _)).seq
  rintro reply h' ⟨answer, rfl, hstands⟩
  apply Holds.pure
  cases answer with
  | none =>
      exact ⟨fun _ => ⟨⟨L, hpolled, hstands⟩, hcli⟩, fun hne => absurd rfl hne⟩
  | some frame =>
      obtain ⟨hafter, hout⟩ := relay_callback L frame
      rw [Option.map_some, Option.toList_some, hafter, hout,
        hreflects.ver] at hstands
      rw [Option.map_some]
      dsimp only
      by_cases hcallback : Link.IsCallback b.ver frame
      · rw [if_pos hcallback] at hstands
        rw [if_pos ((isCallback_take _ _).mpr hcallback)]
        have hframe : frame ≠ [] :=
          List.ne_nil_of_length_pos (Nat.zero_lt_of_lt hcallback.1)
        constructor
        · intro hnil
          rw [List.take_eq_nil_iff] at hnil
          exact (hnil.elim (absurd · (by decide)) hframe).elim
        · intro _
          exact ashSendData_paced hpolled hcli hframe hstands
      · rw [if_neg hcallback] at hstands
        rw [if_neg fun htake => hcallback ((isCallback_take _ _).mp htake)]
        exact ⟨fun _ => ⟨⟨L, hpolled, hstands⟩, hcli⟩,
          fun hne => absurd rfl hne⟩

private theorem callbackLevel_paced {b : Bridge} {h : List HostEvent}
    (level : Option Bool) (hb : Serves b h) :
    relayContract.event h (.call (.gpioGetValue b.p.hint) level) ∧
      Serves b (h ++ [.call (.gpioGetValue b.p.hint) level]) := by
  obtain ⟨⟨L, hreflects, hh⟩, hcli⟩ := hb
  obtain ⟨hevent, hh'⟩ :=
    hh.gpio (e := .call (.gpioGetValue b.p.hint) level) trivial
  exact ⟨hevent, ⟨L, hreflects, hh'⟩, hcli⟩

/-- Collecting callbacks keeps pace. -/
theorem bridgeDrainCallbacks_paced {b : Bridge} {h : List HostEvent}
    (hb : Tracks b h) :
    Holds relayContract h (bridgeDrainCallbacks g b : Host σ Bridge)
      fun b' h' => Tracks b' h' ∧ (0 ≤ b.cli → 0 ≤ b'.cli) := by
  rw [bridgeDrainCallbacks]
  by_cases hidle : b.cli < 0 ∨ b.ready = false ∨ b.negotiated = false ∨
      b.p.hint < 0
  · rw [if_pos hidle]
    exact Holds.pure ⟨hb, id⟩
  · rw [if_neg hidle]
    have hcli : 0 ≤ b.cli := not_lt.mp fun hneg => hidle (Or.inl hneg)
    apply (drainRounds_holds g (fun _ _ level => callbackLevel_paced level)
      (fun _ _ => callbackRound_paced g) 32 b h ⟨hb, hcli⟩).mono
    intro b' h' hserves
    exact ⟨hserves.1, fun _ => hserves.2⟩

/-! ## RST and NAK -/

private theorem bridgeReset_paced {b : Bridge} {L : Link}
    {h : List HostEvent} (hb : Reflects b L) (hcli : 0 ≤ b.cli)
    (hh : Stands { L with linked := true, ver := 4, next := 0, log := [] }
      (L.send [rstackFrame]) [] h) :
    Holds relayContract h (bridgeReset b : Host σ Bridge) Serves := by
  rw [hb.send hcli] at hh
  rw [bridgeReset]
  have hreset : Holds relayContract h (ncpReset b.p : Host σ Unit)
      fun _ h' => Stands _ _ [] h' :=
    (ncpReset_emits b.p).holds (fun h' e he hh' => hh'.gpio he)
      (fun _ _ => trivial) hh
  apply hreset.seq
  intro _ h' hh'
  apply (ashSend_paced hcli (by decide) hh').seq
  intro _ h'' hh''
  apply Holds.pure
  refine ⟨⟨_, ?_, hh''⟩, hcli⟩
  constructor
  · exact hb.client
  · rfl
  · rfl
  · rfl
  · show (0 : Byte) &&& 0x07 = 0
    decide
  · rfl
  · exact mirrors_nil
  · exact fun _ hmem => absurd hmem List.not_mem_nil

/-- Frames that are due again are written in turn. -/
private theorem forM_resend_paced {b : Bridge} {L : Link} (hcli : 0 ≤ b.cli)
    {bodies : List (List Byte)} {h : List HostEvent}
    (hbodies : ∀ body ∈ bodies, body ≠ [] ∧ body.length ≤ ashMaxFrame)
    (hh : Stands L (bodies.map fun body =>
      (b.cli, ashEncode (setRetransmit body))) L.log h) :
    Holds relayContract h (forM bodies (resend b) : Host σ PUnit)
      fun _ h' => Stands L [] L.log h' := by
  induction bodies generalizing h with
  | nil => exact Holds.pure hh
  | cons body bodies ih =>
      have hlength : (setRetransmit body).length ≤ ashMaxFrame := by
        cases body with
        | nil => exact Nat.zero_le _
        | cons ctrl rest => exact (hbodies _ List.mem_cons_self).2
      rw [List.forM_cons, resend]
      apply Holds.bind
      apply ((ashSend_paced hcli hlength hh).seq _).mono
      · intro _ h' hh'
        exact ih (fun body' hmem => hbodies body' (List.mem_cons_of_mem _ hmem))
          hh'
      · intro _ h' hh'
        exact Holds.pure hh'

theorem ackNumber_toNat_lt (f : List Byte) : (ackNumber f).toNat < 8 := by
  rw [ackNumber]
  apply three_bits
  rw [BitVec.and_assoc, BitVec.and_self]

private theorem ashRetransmit_paced {b : Bridge} {L : Link}
    {h : List HostEvent} {f : List Byte} (hb : Reflects b L)
    (hcli : 0 ≤ b.cli)
    (hh : Stands L (L.send ((L.unreceived (ackNumber f)).map setRetransmit))
      L.log h) :
    Holds relayContract h (ashRetransmit b (ackNumber f) : Host σ Unit)
      fun _ h' => Stands L [] L.log h' := by
  rw [hb.send hcli, List.map_map] at hh
  rw [ashRetransmit_eq hb.ring hb.frm (fun body hmem => (hb.sent body hmem).1)
    (ackNumber_toNat_lt f)]
  exact forM_resend_paced hcli
    (fun body hmem => hb.sent body (List.mem_of_mem_drop hmem)) hh

/-! ## DATA -/

private theorem nextNumber_and (n : Byte) :
    nextNumber n &&& 0x07 = nextNumber n := by
  rw [nextNumber, BitVec.and_assoc, BitVec.and_self]

/-- The bridge and the relay both expect the number after this frame's. -/
private theorem Reflects.expect {b : Bridge} {L : Link} (hb : Reflects b L)
    (f : List Byte) :
    Reflects { b with ack := nextNumber (frameNumber f) } (L.expect f) :=
  ⟨hb.client, hb.linked, hb.ver, rfl, nextNumber_and _, hb.frm, hb.ring,
    hb.sent⟩

omit [Kernel σ] in
/-- The bridge adopts the version that the relay does. -/
private theorem adoptVersion_paced {b : Bridge} {L K : Link}
    {h : List HostEvent} {frame : List Byte}
    {due : List (Int × List Byte)} {kept : List (List Byte)}
    (hb : Reflects b L) (hh : Stands K due kept h) :
    Holds relayContract h
      (adoptVersion b L.asked (frame.take ashMaxFrame) : Host σ Bridge)
      fun b' h' => Reflects b' (L.adopt frame) ∧ b'.cli = b.cli ∧
        Stands K due kept h' := by
  rw [adoptVersion, sniffVersion_take]
  cases hsniff : sniffVersion b.ver L.asked frame with
  | none =>
      have hadopt : L.adopt frame = L := by
        rw [Link.adopt, hb.ver, hsniff]
      rw [hadopt]
      exact Holds.pure ⟨hb, rfl, hh⟩
  | some neg =>
      have hadopt : L.adopt frame = { L with ver := neg.toNat } := by
        rw [Link.adopt, hb.ver, hsniff]
      rw [hadopt]
      obtain ⟨hevent, hh'⟩ := hh.quiet (e := .note (.negotiated neg)) rfl
        ⟨rfl, rfl⟩ False.elim
      apply Holds.bind
      apply Holds.note hevent
      apply Holds.pure
      exact ⟨⟨hb.client, hb.linked, rfl, hb.next, hb.three, hb.frm, hb.ring,
        hb.sent⟩, rfl, hh'⟩

private theorem relay_reply (L : Link) (frame : List Byte) :
    relay.after L [.reply frame] = ((L.adopt frame).pass frame).1 ∧
      relay.output L [.reply frame] = ((L.adopt frame).pass frame).2 :=
  ⟨rfl, List.append_nil _⟩

theorem Link.adopt_log (L : Link) (frame : List Byte) :
    (L.adopt frame).log = L.log := by
  rw [Link.adopt]
  split <;> rfl

/-- An empty answer is passed over, and announces no version. -/
private theorem relay_reply_nil (L : Link) :
    relay.after L [.reply []] = L ∧ relay.output L [.reply []] = [] := by
  have hadopt : L.adopt [] = L := by
    have hnone : sniffVersion L.ver L.asked [] = none :=
      if_neg fun h => absurd h.2.2 (Nat.not_lt_zero _)
    rw [Link.adopt, hnone]
  obtain ⟨hafter, hout⟩ := relay_reply L []
  rw [hafter, hout, hadopt, Link.pass, if_pos (Or.inl rfl)]
  exact ⟨rfl, rfl⟩

/-- Once the answer to the client's command is there. -/
private theorem reply_paced {b : Bridge} {L : Link} {h : List HostEvent}
    (hb : Reflects b L) (hcli : 0 ≤ b.cli) (answer : Option (List Byte))
    (hh : Stands (relay.after L (answer.map .reply).toList)
      (relay.output L (answer.map .reply).toList) L.log h) :
    Holds relayContract h
      (match answer.map fun frame => frame.take ashMaxFrame with
      | none => pure b
      | some resp =>
          if resp = [] then pure b
          else do
            let b' ← adoptVersion b L.asked resp
            let b' ← ashSendData b' resp
            bridgeDrainCallbacks g b' : Host σ Bridge) Serves := by
  cases answer with
  | none => exact Holds.pure ⟨⟨L, hb, hh⟩, hcli⟩
  | some frame =>
      rw [Option.map_some]
      rw [Option.map_some, Option.toList_some] at hh
      dsimp only
      by_cases hempty : frame = []
      · obtain ⟨hafter, hout⟩ := relay_reply_nil L
        rw [hempty, hafter, hout] at hh
        rw [hempty, if_pos List.take_nil]
        exact Holds.pure ⟨⟨L, hb, hh⟩, hcli⟩
      · have hcut : frame.take ashMaxFrame ≠ [] := by
          rw [ne_eq, List.take_eq_nil_iff, not_or]
          exact ⟨by decide, hempty⟩
        obtain ⟨hafter, hout⟩ := relay_reply L frame
        rw [hafter, hout, ← L.adopt_log frame] at hh
        rw [if_neg hcut]
        apply (adoptVersion_paced hb hh).seq
        rintro b₁ h₁ ⟨hb₁, hcli₁, hh₁⟩
        have hconnected : 0 ≤ b₁.cli := hcli₁ ▸ hcli
        apply (ashSendData_paced hb₁ hconnected hempty hh₁).seq
        intro b₂ h₂ hserves
        apply (bridgeDrainCallbacks_paced g hserves.1).mono
        rintro b₃ h₃ ⟨htracks, hcli₃⟩
        exact ⟨htracks, hcli₃ hserves.2⟩

private theorem bridgeHandleData_paced {b : Bridge} {L : Link}
    {f : List Byte} {h : List HostEvent} (hb : Reflects b L)
    (hcli : 0 ≤ b.cli) (hready : b.ready = true)
    (hf : frameKind f = .data)
    (hh : Stands (L.receive f).1 (L.receive f).2 (L.receive f).1.log h) :
    Holds relayContract h (bridgeHandleData g b f : Host σ Bridge)
      Serves := by
  have hlinked : L.linked = true := hb.linked.trans hready
  rw [Link.receive, hf] at hh
  dsimp only at hh
  rw [bridgeHandleData]
  dsimp only
  by_cases hplen : f.length - 1 = 0 ∨ f.length - 1 > ashMaxFrame
  · have hignored : ¬(L.linked = true ∧ 1 ≤ f.length - 1 ∧
        f.length - 1 ≤ ashMaxFrame) := by omega
    rw [if_neg hignored] at hh
    rw [if_pos hplen]
    exact Holds.pure ⟨⟨L, hb, hh⟩, hcli⟩
  · have haccepted : L.linked = true ∧ 1 ≤ f.length - 1 ∧
        f.length - 1 ≤ ashMaxFrame := ⟨hlinked, by omega, by omega⟩
    have hpayload : ashMask f.tail ≠ [] := by
      apply List.ne_nil_of_length_pos
      rw [length_ashMask, List.length_tail]
      omega
    have hlength : (ashMask f.tail).length ≤ ashMaxFrame := by
      rw [length_ashMask, List.length_tail]
      omega
    rw [if_pos haccepted] at hh
    dsimp only at hh
    rw [hb.send hcli] at hh
    rw [if_neg hplen, ashSendAck]
    apply Holds.bind
    apply Holds.bind
    dsimp only
    rw [nextNumber_and]
    have hack : [0x80 ||| nextNumber (frameNumber f)].length ≤ ashMaxFrame :=
      (by decide : 1 ≤ ashMaxFrame)
    apply (ashSend_paced hcli hack hh).mono
    intro _ h₁ hh₁
    apply Holds.pure
    have hdue : ([] : List (Int × List Byte)) ++ relay.output (L.expect f)
        (Reader.tells (.note (.relay b f))) =
          writtenAt (.note (.relay b f)) ++ [] := rfl
    have hkept : (L.expect f).log ++ storedAt (.note (.relay b f)) =
        (L.expect f).log := List.append_nil _
    obtain ⟨howing, hstate, hlog⟩ := hh₁.concat rfl hkept hdue
    have hnote : relayContract.event h₁ (.note (.relay b f)) :=
      hh₁.keeps howing False.elim hkept
    apply Holds.bind
    apply Holds.note hnote
    apply (ezspRelay_paced g b.p ⟨howing, hstate, hlog⟩ hpayload hlength).seq
    rintro reply h₂ ⟨answer, rfl, hstands⟩
    exact reply_paced g (hb.expect f) hcli answer hstands

/-! ## Any frame -/

/-- Handling a frame keeps pace with the relay hearing it. -/
theorem bridgeHandleFrame_paced {b : Bridge} {h : List HostEvent}
    (f : List Byte) (hb : Serves b h) :
    Holds relayContract h (bridgeHandleFrame g b f : Host σ Bridge)
      Serves := by
  obtain ⟨⟨L, hreflects, hh⟩, hcli⟩ := hb
  have hreceive : relay.output L [.frame f] = (L.receive f).2 :=
    List.append_nil _
  have hdue : ([] : List (Int × List Byte)) ++ relay.output L
      (Reader.tells (.note (.handleFrame b f))) =
        writtenAt (.note (.handleFrame b f)) ++ (L.receive f).2 := hreceive
  obtain ⟨hevent, hstands⟩ :=
    hh.event rfl (List.append_nil _) hdue False.elim
  have hstands' : Stands (L.receive f).1 (L.receive f).2 (L.receive f).1.log
      (h ++ [.note (.handleFrame b f)]) := hstands
  rw [bridgeHandleFrame_eq]
  apply Holds.bind
  apply Holds.note hevent
  cases hf : frameKind f with
  | rst =>
      rw [Link.receive, hf] at hstands'
      exact bridgeReset_paced hreflects hcli hstands'
  | ack =>
      rw [Link.receive, hf] at hstands'
      exact Holds.pure ⟨⟨L, hreflects, hstands'⟩, hcli⟩
  | nak =>
      rw [Link.receive, hf] at hstands'
      apply (ashRetransmit_paced hreflects hcli hstands').seq
      intro _ h' hh'
      exact Holds.pure ⟨⟨L, hreflects, hh'⟩, hcli⟩
  | error =>
      rw [Link.receive, hf] at hstands'
      exact Holds.pure ⟨⟨L, hreflects, hstands'⟩, hcli⟩
  | data =>
      dsimp only
      by_cases hready : b.ready = false
      · have hunlinked : ¬(L.linked = true ∧ 1 ≤ f.length - 1 ∧
            f.length - 1 ≤ ashMaxFrame) := by
          rintro ⟨hlinked, _⟩
          rw [hreflects.linked, hready] at hlinked
          exact absurd hlinked Bool.false_ne_true
        rw [Link.receive, hf] at hstands'
        dsimp only at hstands'
        rw [if_neg hunlinked] at hstands'
        rw [if_pos hready]
        exact Holds.pure ⟨⟨L, hreflects, hstands'⟩, hcli⟩
      · rw [if_neg hready]
        exact bridgeHandleData_paced g hreflects hcli
          (Bool.eq_true_of_not_eq_false hready) hf hstands'

end EzspSpi
