import EzspSpi.Session.Steps

/-!
# Handling one frame

`bridge_handle_frame` keeps the contract of the bridge and leaves it live,
whatever the frame.
-/

namespace EzspSpi

open Program RingLog

variable {σ : Type} [Kernel σ] (g : Globals)

/-- The note with which the handler starts is quiet on the bus. -/
private theorem handled_exchanges (h : List HostEvent) (b : Bridge)
    (f : List Byte) :
    exchanges (h ++ [.note (.handleFrame b f)]) = exchanges h :=
  exchanges_concat_quiet (isQuiet_note _)

/-- A frame that changes nothing but acknowledgements. -/
private theorem Live.handled {b : Bridge} {h : List HostEvent} {f : List Byte}
    (hb : Live b h) (hacks : UpToAcks (session h) ((session h).receive f)) :
    Live b (h ++ [.note (.handleFrame b f)]) := by
  have hsession : UpToAcks (session h)
      (session (h ++ [.note (.handleFrame b f)])) := by
    rw [session_concat]
    exact hacks
  refine ⟨hb.toSteady.append hsession ?_, hb.connected⟩
  rw [handled_exchanges]
  exact fun x hx => hx

/-! ## RST -/

private theorem ncpReset_owed {b : Bridge} {h : List HostEvent}
    (hh : Accounted h) :
    Holds bridgeContract h (ncpReset b.p : Host σ Unit) fun _ h' =>
      session h' = session h ∧ Accounted h' := by
  have hstep : ∀ h' e, IsGpio e → session h' = session h ∧ Accounted h' →
      Owes h' e ∧ session (h' ++ [e]) = session h ∧ Accounted (h' ++ [e]) := by
    rintro h' e he ⟨hsession, haccounted⟩
    have hsame : session (h' ++ [e]) = session h' := by
      rw [session_concat, he.isSilent]
    refine ⟨?_, hsame.trans hsession, haccounted.mono (by rw [hsame])⟩
    cases e with
    | note n => exact he.elim
    | call c r => cases c <;> trivial
  exact (ncpReset_emits b.p).holds hstep (fun _ _ => trivial) ⟨rfl, hh⟩

/-- After an RST the session begins again. -/
private theorem bridgeReset_live {b : Bridge} {h : List HostEvent}
    {f : List Byte} (hb : Live b h) (hf : frameKind f = .rst) :
    Holds bridgeContract (h ++ [.note (.handleFrame b f)])
      (bridgeReset b : Host σ Bridge) Live := by
  have hreceive : session (h ++ [.note (.handleFrame b f)]) =
      { session h with
        reset := true
        negotiated := false
        log := []
        acked := 0
        delivered := 0 } := by
    rw [session_concat, Session.step, Session.receive, hf]
  have haccounted : Accounted (h ++ [.note (.handleFrame b f)]) := by
    apply hb.accounted.mono
    rw [hreceive]
  rw [bridgeReset]
  apply (ncpReset_owed haccounted).seq
  rintro _ h₁ ⟨hsession, haccounted₁⟩
  rw [hreceive] at hsession
  have hclient := hb.models.client hb.connected
  have hrstack : Sendable h₁ b.cli rstackFrame := by
    constructor
    · rw [hsession]
      exact ⟨hb.connected, hclient⟩
    · rw [hsession]
    · exact Or.inl rfl
    · exact fun hdata => absurd hdata (by decide)
  apply (ashSend_holds bridgeContract_halt hb.connected (by decide)
    fun _ => ⟨rstackFrame, rfl, hrstack⟩).seq
  rintro _ _ ⟨rounds, rfl⟩
  have hanswered : session (h₁ ++ [.call (.write b.cli (ashEncode rstackFrame))
      rounds]) = { session h₁ with answered := true } := by
    rw [session_concat, Session.step, if_pos rfl]
  apply Holds.pure
  refine ⟨⟨?_, ?_⟩, hb.connected⟩
  · apply models_fresh _ _ _ _ _ rfl rfl rfl rfl <;> rw [hanswered, hsession]
    · exact fun _ => hclient
    · exact fun _ => rfl
  · apply haccounted₁.mono
    rw [hanswered]

/-! ## NAK -/

theorem Models.log_nonempty {b : Bridge} {h : List HostEvent}
    (hb : Models b h) : ∀ body ∈ (session h).log, body ≠ [] :=
  fun body hbody => (hb.carried body hbody).nonempty

theorem ackNumber_lt (f : List Byte) : (ackNumber f).toNat < 8 := by
  rw [ackNumber]
  generalize f.headD 0 = ctrl
  revert ctrl
  decide

/-- A NAK resends the last frames of the session, up to the requested one. -/
theorem Models.ashRetransmit_eq {b : Bridge} {h : List HostEvent}
    (hb : Models b h) {n : Byte} (hn : n.toNat < 8) :
    (ashRetransmit b n : Host σ Unit) =
      forM ((session h).log.drop ((session h).log.length -
        min (((session h).log.length + 8 - n.toNat) % 8)
          (session h).log.length)) (resend b) :=
  EzspSpi.ashRetransmit_eq hb.ring hb.frm hb.log_nonempty hn

private theorem ashRetransmit_live {b : Bridge} {h : List HostEvent}
    (hb : Live b h) (n : Byte) (hn : n.toNat < 8) :
    Holds bridgeContract h (ashRetransmit b n : Host σ Unit)
      fun _ h' => Live b h' := by
  rw [hb.models.ashRetransmit_eq hn]
  have hround : ∀ body ∈ (session h).log.drop ((session h).log.length -
        min (((session h).log.length + 8 - n.toNat) % 8)
          (session h).log.length),
      ∀ h', session h' = session h ∧ Live b h' →
        Holds bridgeContract h' (resend b body : Host σ Unit)
          fun _ h'' => session h'' = session h ∧ Live b h'' := by
    rintro body hdrop h' ⟨hsession, hlive⟩
    have hbody : body ∈ (session h).log := List.mem_of_mem_drop hdrop
    have hready : b.ready = true := by
      by_contra hunready
      rw [hb.models.fresh (Bool.eq_false_of_not_eq_true hunready)] at hbody
      exact absurd hbody List.not_mem_nil
    have hcarried := hlive.models.carried body (hsession ▸ hbody)
    have hsend := hlive.models.sendable hb.connected hready fun _ =>
      hcarried.setRetransmit
    apply (ashSend_owed hsend).seq
    rintro _ _ ⟨t, ht, rfl⟩
    have hanswered := hlive.models.answered hready
    apply Holds.pure
    exact ⟨(session_append_writes hanswered ht).trans hsession,
      hlive.toSteady.append_writes hanswered ht, hlive.connected⟩
  exact (Holds.forM hround ⟨rfl, hb⟩).mono fun _ _ hend => hend.2

/-! ## DATA -/

/-- The session after an accepted DATA frame. -/
private theorem receive_accepted {S : Session} {f : List Byte}
    (hf : frameKind f = .data) (haccepts : S.Accepts f) :
    ∃ acked, S.receive f =
      { S with
        acked := acked
        delivered := S.delivered + 1
        inOrder := S.inOrder &&
          decide ((frameNumber f).toNat = S.delivered % 8) } := by
  obtain ⟨acked, hacked⟩ := upToAcks_acknowledge S (ackNumber f)
  have haccepts' : (S.acknowledge (ackNumber f)).Accepts f := by
    rw [hacked]
    exact haccepts
  refine ⟨acked, ?_⟩
  rw [Session.receive, hf]
  dsimp only
  rw [Session.deliver, if_pos haccepts', hacked]

/-- One that is not accepted changes nothing but acknowledgements. -/
private theorem receive_ignored {S : Session} {f : List Byte}
    (hf : frameKind f = .data) (hignored : ¬S.Accepts f) :
    UpToAcks S (S.receive f) := by
  obtain ⟨acked, hacked⟩ := upToAcks_acknowledge S (ackNumber f)
  have hignored' : ¬(S.acknowledge (ackNumber f)).Accepts f := by
    rw [hacked]
    exact hignored
  refine ⟨acked, ?_⟩
  rw [Session.receive, hf]
  dsimp only
  rw [Session.deliver, if_neg hignored', hacked]

/-- The bridge once it expects the number after that of an accepted frame. -/
private theorem Models.deliver {b : Bridge} {h : List HostEvent}
    {f : List Byte} (hb : Models b h) (hf : frameKind f = .data)
    (haccepts : (session h).Accepts f) :
    Models { b with ack := nextNumber (frameNumber f) }
      (h ++ [.note (.handleFrame b f)]) := by
  obtain ⟨acked, hacked⟩ := receive_accepted hf haccepts
  have hsession : session (h ++ [.note (.handleFrame b f)]) =
      (session h).receive f := by
    rw [session_concat, Session.step]
  constructor <;> rw [hsession, hacked]
  · exact hb.client
  · exact hb.ready
  · exact hb.answered
  · exact hb.negotiated
  · exact hb.fresh
  · exact hb.frm
  · exact hb.ring
  · exact hb.numbered
  · rw [handled_exchanges]
    exact hb.carried
  · intro horder
    obtain ⟨_, hnumber⟩ := (Bool.and_eq_true _ _).mp horder
    rw [nextNumber_toNat, of_decide_eq_true hnumber]
    exact Nat.mod_add_mod _ _ _

/-- An accepted frame is in turn exactly if the bridge expects its number. -/
private theorem Models.in_turn {b : Bridge} {h : List HostEvent}
    {f : List Byte} (hb : Models b h) (hf : frameKind f = .data)
    (haccepts : (session h).Accepts f) :
    (session (h ++ [.note (.handleFrame b f)])).inOrder = true ↔
      (session h).inOrder = true ∧ frameNumber f = b.ack := by
  obtain ⟨acked, hacked⟩ := receive_accepted hf haccepts
  rw [session_concat, Session.step, hacked]
  dsimp only
  rw [Bool.and_eq_true, decide_eq_true_eq]
  constructor
  · rintro ⟨horder, hnumber⟩
    exact ⟨horder, BitVec.eq_of_toNat_eq (hnumber.trans (hb.turn horder).symm)⟩
  · rintro ⟨horder, hnumber⟩
    exact ⟨horder, hnumber ▸ hb.turn horder⟩

omit [Kernel σ] in
theorem adoptVersion_live {b : Bridge} {h : List HostEvent}
    (ezsp resp : List Byte) (hb : Live b h) :
    Holds bridgeContract h (adoptVersion b ezsp resp : Host σ Bridge)
      fun b' h' => Live b' h' ∧ b'.ready = b.ready ∧
        exchanges h' = exchanges h := by
  rw [adoptVersion]
  cases sniffVersion b.ver ezsp resp with
  | none => exact Holds.pure ⟨hb, rfl, rfl⟩
  | some neg =>
      apply Holds.bind
      apply Holds.note trivial
      have hX : exchanges (h ++ [.note (.negotiated neg)]) = exchanges h :=
        exchanges_concat_quiet (isQuiet_note _)
      have hmodels : Models { b with ver := neg.toNat, negotiated := true }
          (h ++ [.note (.negotiated neg)]) := by
        constructor <;> rw [session_concat]
        · exact hb.models.client
        · exact hb.models.ready
        · exact hb.models.answered
        · exact fun _ => rfl
        · exact hb.models.fresh
        · exact hb.models.frm
        · exact hb.models.ring
        · exact hb.models.numbered
        · rw [hX]
          exact hb.models.carried
        · exact hb.models.turn
      have haccounted : Accounted (h ++ [.note (.negotiated neg)]) := by
        apply hb.accounted.mono
        rw [session_concat]
        rfl
      apply Holds.pure
      exact ⟨⟨⟨hmodels, haccounted⟩, hb.connected⟩, rfl, hX⟩

/-- After the acknowledgement an accepted frame is relayed, and this accounts
for it if it was out of turn. -/
private theorem Live.relay {b : Bridge} {h t : List HostEvent}
    {f : List Byte} (hb : Live b h) (hf : frameKind f = .data)
    (haccepts : (session h).Accepts f)
    (hmodels : Models { b with ack := nextNumber (frameNumber f) }
      (h ++ [.note (.handleFrame b f)] ++ t))
    (hsession : session (h ++ [.note (.handleFrame b f)] ++ t) =
      session (h ++ [.note (.handleFrame b f)])) :
    Owes (h ++ [.note (.handleFrame b f)] ++ t) (.note (.relay b f)) ∧
      Live { b with ack := nextNumber (frameNumber f) }
        (h ++ [.note (.handleFrame b f)] ++ t ++ [.note (.relay b f)]) := by
  have hturn := hb.models.in_turn hf haccepts
  have hsame : session (h ++ [.note (.handleFrame b f)] ++ t ++
      [.note (.relay b f)]) = session (h ++ [.note (.handleFrame b f)]) := by
    rw [session_concat, hsession]
    rfl
  constructor
  · intro horder
    rw [hsession] at horder
    exact (hturn.mp horder).2
  · refine ⟨⟨hmodels.mono (upToAcks_of_eq (hsame.trans hsession.symm)) ?_, ?_⟩,
      hb.connected⟩
    · rw [exchanges_concat_quiet (isQuiet_note _)]
      exact fun x hx => hx
    · intro hout
      rw [hsame] at hout
      by_cases horder : (session h).inOrder = true
      · have hne : frameNumber f ≠ b.ack := by
          intro heq
          rw [hturn.mpr ⟨horder, heq⟩] at hout
          exact absurd hout.symm Bool.false_ne_true
        exact ⟨b, f, List.mem_concat_self, hne⟩
      · have hstray := hb.accounted (Bool.eq_false_of_not_eq_true horder)
        rw [List.append_assoc, List.append_assoc]
        exact hstray.append _

private theorem ezspRelay_owed (p : Pins) {ezsp : List Byte}
    {h : List HostEvent} (hpos : ezsp ≠ []) (hlen : ezsp.length ≤ ashMaxFrame)
    (hanswered : (session h).answered = true) :
    Holds bridgeContract h
      (ezspRelay g p ezsp ashMaxFrame : Host σ (Option (List Byte)))
      fun reply h' => (∃ t x, h' = h ++ t ∧
        Commanded (ezspCommand ezsp) x t ∧
        reply = x.frame?.map fun frame => frame.take ashMaxFrame) ∧
        session h' = session h := by
  have hrelay : Holds (relaying False) h
      (ezspRelay g p ezsp ashMaxFrame : Host σ (Option (List Byte))) _ :=
    ezspRelay_holds (fun _ => trivial) (relaying_bus False) g p hpos hlen
      ashMaxFrame fun _ _ _ => trivial
  exact relaying_owed hrelay hanswered False.elim

private theorem bridgeHandleData_live {b : Bridge} {h : List HostEvent}
    {f : List Byte} (hb : Live b h) (hf : frameKind f = .data)
    (hready : b.ready = true) :
    Holds bridgeContract (h ++ [.note (.handleFrame b f)])
      (bridgeHandleData g b f : Host σ Bridge) Live := by
  rw [bridgeHandleData]
  by_cases hplen : f.length - 1 = 0 ∨ f.length - 1 > ashMaxFrame
  · have hignored : ¬(session h).Accepts f := by
      rintro ⟨_, hpos, hle⟩
      omega
    dsimp only
    rw [if_pos hplen]
    exact Holds.pure (hb.handled (receive_ignored hf hignored))
  · have haccepts : (session h).Accepts f :=
      ⟨hb.models.ready ▸ hready, by omega, by omega⟩
    have hpayload : ashMask f.tail ≠ [] := by
      apply List.ne_nil_of_length_pos
      rw [length_ashMask, List.length_tail]
      omega
    have hlength : (ashMask f.tail).length ≤ ashMaxFrame := by
      rw [length_ashMask, List.length_tail]
      omega
    have hmodels := hb.models.deliver hf haccepts
    have hanswered := hmodels.answered hready
    dsimp only
    rw [if_neg hplen]
    apply (ashSendAck_owed hmodels hb.connected hready).seq
    rintro _ _ ⟨t, ht, rfl⟩
    obtain ⟨howes, hlive⟩ := hb.relay hf haccepts
      (hmodels.append_writes hanswered ht) (session_append_writes hanswered ht)
    apply Holds.bind
    apply Holds.note howes
    apply (ezspRelay_owed g b.p hpayload hlength
      (hlive.models.answered hready)).seq
    rintro reply _ ⟨⟨u, x, rfl, hcommanded, hreply⟩, hsession⟩
    have hlive' : Live { b with ack := nextNumber (frameNumber f) } _ :=
      ⟨hlive.toSteady.relayed hcommanded hsession, hb.connected⟩
    cases reply with
    | none => exact Holds.pure hlive'
    | some resp =>
        obtain ⟨payload, hframe, hcut⟩ := Option.map_eq_some_iff.mp hreply.symm
        dsimp only
        by_cases hempty : resp = []
        · rw [if_pos hempty]
          exact Holds.pure hlive'
        · rw [if_neg hempty]
          apply (adoptVersion_live _ _ hlive').seq
          rintro b₁ h₁ ⟨hlive₁, hready₁, hX⟩
          have hlast : (exchanges h₁).getLast? = some x := by
            rw [hX]
            exact (hcommanded.exchanges_append _).1
          apply (ashSendData_live hlive₁ (hready₁.trans hready) hlast hframe
            hcut.symm).seq
          rintro b₂ h₂ ⟨hlive₂, _, _⟩
          apply (bridgeDrainCallbacks_steady g hlive₂.toSteady).mono
          rintro b₃ h₃ ⟨hsteady₃, hcli₃⟩
          exact ⟨hsteady₃, hcli₃ hlive₂.connected⟩

/-! ## Any frame -/

/-- Handling a frame keeps the contract and leaves the bridge live. -/
theorem bridgeHandleFrame_live {b : Bridge} {h : List HostEvent}
    (f : List Byte) (hb : Live b h) :
    Holds bridgeContract h (bridgeHandleFrame g b f : Host σ Bridge) Live := by
  rw [bridgeHandleFrame_eq]
  have howes : Owes h (.note (.handleFrame b f)) := ⟨hb.models, hb.connected⟩
  apply Holds.bind
  apply Holds.note howes
  have hacked : UpToAcks (session h)
      ((session h).acknowledge (ackNumber f)) := upToAcks_acknowledge _ _
  cases hf : frameKind f with
  | rst => exact bridgeReset_live hb hf
  | ack =>
      apply Holds.pure
      apply hb.handled
      rw [Session.receive, hf]
      exact hacked
  | nak =>
      have hlive : Live b (h ++ [.note (.handleFrame b f)]) := by
        apply hb.handled
        rw [Session.receive, hf]
        exact hacked
      apply (ashRetransmit_live hlive _ (ackNumber_lt f)).seq
      intro _ _ hlive'
      exact Holds.pure hlive'
  | error =>
      apply Holds.pure
      apply hb.handled
      rw [Session.receive, hf]
      exact upToAcks_of_eq rfl
  | data =>
      by_cases hready : b.ready = false
      · have hignored : ¬(session h).Accepts f := by
          rintro ⟨hreset, _⟩
          rw [← hb.models.ready, hready] at hreset
          exact absurd hreset Bool.false_ne_true
        dsimp only
        rw [if_pos hready]
        exact Holds.pure (hb.handled (receive_ignored hf hignored))
      · dsimp only
        rw [if_neg hready]
        exact bridgeHandleData_live g hb hf (Bool.eq_true_of_not_eq_false hready)

end EzspSpi
