import EzspSpi.Session.Invariant

/-!
# Every function of the bridge keeps the contract

One rule for each function, from the sending of a frame up to the main loop.
-/

namespace EzspSpi

open Program RingLog

variable {σ : Type} [Kernel σ] (g : Globals)

/-! ## Control bytes -/

theorem low_bits (n : Byte) :
    n &&& 0x07 = BitVec.ofNat 8 (n.toNat % 8) := by
  revert n
  decide

private theorem data_ctrl : ∀ i j : Fin 8,
    frameKind [(BitVec.ofNat 8 i <<< 4) ||| BitVec.ofNat 8 j] = .data ∧
      (frameNumber [(BitVec.ofNat 8 i <<< 4) ||| BitVec.ofNat 8 j]).toNat =
        i := by
  decide

private theorem frameKind_cons (ctrl : Byte) (rest : List Byte) :
    frameKind (ctrl :: rest) = frameKind [ctrl] := rfl

/-- The control byte of a DATA frame says that it is one, and its number. -/
theorem ashDataFrame_ctrl (b : Bridge) (ezsp : List Byte) :
    frameKind (ashDataFrame b ezsp) = .data ∧
      (frameNumber (ashDataFrame b ezsp)).toNat = b.frm.toNat % 8 := by
  have hfrm : b.frm.toNat % 8 < 8 := Nat.mod_lt _ (by decide)
  have hack : b.ack.toNat % 8 < 8 := Nat.mod_lt _ (by decide)
  have hctrl := data_ctrl ⟨_, hfrm⟩ ⟨_, hack⟩
  rw [ashDataFrame, low_bits, low_bits, frameKind_cons]
  exact hctrl

private theorem retransmit_ctrl : ∀ ctrl : Byte,
    frameKind [ctrl] = .data → frameKind [ctrl ||| 0x08] = .data := by
  decide

theorem Carried.setRetransmit {X : List Exchange} {body : List Byte}
    (hbody : Carried X body) : Carried X (setRetransmit body) := by
  cases body with
  | nil => exact absurd rfl hbody.nonempty
  | cons ctrl rest =>
      exact ⟨retransmit_ctrl ctrl hbody.data, hbody.length,
        List.cons_ne_nil _ _, hbody.verbatim⟩

private theorem ack_ctrl (n : Byte) :
    frameKind [0x80 ||| (n &&& 0x07)] = .ack := by
  revert n
  decide

/-! ## Sending -/

/-- A frame that may be sent is written, and nothing else happens. -/
theorem ashSend_owed {b : Bridge} {h : List HostEvent} {frame : List Byte}
    (hframe : Sendable h b.cli frame) :
    Holds bridgeContract h (ashSend b frame : Host σ Bool) fun _ h' =>
      ∃ t, (∀ e ∈ t, IsWrite e) ∧ h' = h ++ t :=
  ashSend_writes bridgeContract_halt fun _ => ⟨frame, rfl, hframe⟩

theorem Models.append_writes {b : Bridge} {h t : List HostEvent}
    (hb : Models b h) (hanswered : (session h).answered = true)
    (ht : ∀ e ∈ t, IsWrite e) : Models b (h ++ t) := by
  apply hb.mono (upToAcks_of_eq (session_append_writes hanswered ht))
  rw [exchanges_append_quiet fun e he => (ht e he).isQuiet]
  exact fun x hx => hx

theorem Steady.append_writes {b : Bridge} {h t : List HostEvent}
    (hb : Steady b h) (hanswered : (session h).answered = true)
    (ht : ∀ e ∈ t, IsWrite e) : Steady b (h ++ t) := by
  apply hb.append (upToAcks_of_eq (session_append_writes hanswered ht))
  rw [exchanges_append_quiet fun e he => (ht e he).isQuiet]
  exact fun x hx => hx

/-- What a ready bridge may send to its client. -/
theorem Models.sendable {b : Bridge} {h : List HostEvent} {frame : List Byte}
    (hb : Models b h) (hcli : 0 ≤ b.cli) (hready : b.ready = true)
    (hframe : frameKind frame = .data → Carried (exchanges h) frame) :
    Sendable h b.cli frame where
  client := ⟨hcli, hb.client hcli⟩
  reset := hb.ready ▸ hready
  answered := Or.inr (hb.answered hready)
  verbatim := hframe

theorem ashSendAck_owed {b : Bridge} {h : List HostEvent} (hb : Models b h)
    (hcli : 0 ≤ b.cli) (hready : b.ready = true) :
    Holds bridgeContract h (ashSendAck b : Host σ Unit) fun _ h' =>
      ∃ t, (∀ e ∈ t, IsWrite e) ∧ h' = h ++ t := by
  have hack : Sendable h b.cli [0x80 ||| (b.ack &&& 0x07)] := by
    apply hb.sendable hcli hready
    rw [ack_ctrl]
    exact fun hdata => absurd hdata (by decide)
  apply (ashSend_owed hack).seq
  intro _ _ ht
  exact Holds.pure ht

/-- A stored frame is one more in the log, in the slot of its number. -/
theorem Models.store {b : Bridge} {h : List HostEvent} {body : List Byte}
    (hb : Models b h) (hready : b.ready = true)
    (hbody : Carried (exchanges h) body)
    (hnumber : (frameNumber body).toNat = (session h).log.length % 8) :
    Models (recordSent b body) (h ++ [.note (.store body)]) := by
  have hX : exchanges (h ++ [.note (.store body)]) = exchanges h :=
    exchanges_concat_quiet (isQuiet_note _)
  have hslot : slot b.frm = Fin.ofNat ashWindow (session h).log.length :=
    slot_eq_ofNat hb.frm
  constructor <;> rw [session_concat]
  · exact hb.client
  · exact hb.ready
  · exact hb.answered
  · exact hb.negotiated
  · intro hunready
    exact absurd (hready.symm.trans hunready) (by decide)
  · have hlength : ((session h).step (.note (.store body))).log.length =
        (session h).log.length + 1 := List.length_append
    rw [hlength, recordSent, nextNumber_toNat, hb.frm]
    omega
  · rw [recordSent, hslot]
    exact hb.ring.push body
  · intro i body' hi
    by_cases hold : i < (session h).log.length
    · rw [Session.step, List.getElem?_append_left hold] at hi
      exact hb.numbered i body' hi
    · rw [Session.step, List.getElem?_append_right (not_lt.mp hold),
        List.getElem?_singleton] at hi
      split at hi
      · rename_i hzero
        rw [← Option.some.inj hi, hnumber]
        congr 1
        omega
      · exact absurd hi (by simp)
  · rw [hX]
    intro body' hmem
    rcases List.mem_append.mp hmem with hold | hnew
    · exact hb.carried body' hold
    · exact List.mem_singleton.mp hnew ▸ hbody
  · exact hb.turn

/-- A reply cut to 140 bytes that still fits a DATA frame was not cut. -/
private theorem take_eq_of_fits {payload : List Byte}
    (hfits : (payload.take ashMaxFrame).length + 1 ≤ ashMaxFrame) :
    payload.take ashMaxFrame = payload := by
  apply List.take_of_length_le
  rw [List.length_take] at hfits
  simp only [ashMaxFrame] at hfits ⊢
  omega

/-- Passing on the answer to the last command. -/
theorem ashSendData_live {b : Bridge} {h : List HostEvent} {x : Exchange}
    {payload ezsp : List Byte} (hb : Live b h) (hready : b.ready = true)
    (hlast : (exchanges h).getLast? = some x)
    (hframe : x.frame? = some payload)
    (hezsp : ezsp = payload.take ashMaxFrame) :
    Holds bridgeContract h (ashSendData b ezsp : Host σ Bridge)
      fun b' h' => Live b' h' ∧ b'.ready = true ∧
        b'.negotiated = b.negotiated := by
  obtain ⟨hdata, hctrl⟩ := ashDataFrame_ctrl b ezsp
  have hverbatim (hfits : ezsp.length + 1 ≤ ashMaxFrame) :
      x.frame? = some (ashMask (ashDataFrame b ezsp).tail) := by
    rw [ashDataFrame, List.tail_cons, ashMask_ashMask, hframe]
    rw [hezsp] at hfits ⊢
    rw [take_eq_of_fits hfits]
  have hlength : (ashDataFrame b ezsp).length = ezsp.length + 1 := by
    rw [ashDataFrame, List.length_cons, length_ashMask]
  have hnumber : (frameNumber (ashDataFrame b ezsp)).toNat =
      (session h).log.length % 8 := by
    rw [hctrl, hb.models.frm, Nat.mod_mod]
  have hcarried (hfits : ezsp.length + 1 ≤ ashMaxFrame) :
      Carried (exchanges h) (ashDataFrame b ezsp) :=
    ⟨hdata, hlength.trans_le hfits, List.cons_ne_nil _ _, x,
      List.mem_of_getLast? hlast, hverbatim hfits⟩
  have hstored (hfits : ezsp.length + 1 ≤ ashMaxFrame) :=
    hb.models.store hready (hcarried hfits) hnumber
  apply (ashSendData_holds bridgeContract_halt _ _).mono
  · rintro b' _ (⟨_, rfl, rfl⟩ | ⟨hfits, rfl, t, ht, rfl⟩)
    · exact ⟨hb, hready, rfl⟩
    · have haccounted : Accounted
          (h ++ [.note (.store (ashDataFrame b ezsp))]) := by
        apply hb.accounted.mono
        rw [session_concat]
        rfl
      have hsteady : Steady (recordSent b _) _ := ⟨hstored hfits, haccounted⟩
      have hanswered := (hstored hfits).answered hready
      exact ⟨⟨hsteady.append_writes hanswered ht, hb.connected⟩, hready, rfl⟩
  · intro hfits
    exact ⟨⟨x, hlast, hverbatim hfits⟩, hlength.trans_le hfits, hnumber,
      hb.models.numbered⟩
  · intro hfits _
    have hmem : ashDataFrame b ezsp ∈
        (session (h ++ [.note (.store (ashDataFrame b ezsp))])).log := by
      rw [session_concat]
      exact List.mem_concat_self
    have hsend := (hstored hfits).sendable hb.connected hready fun _ =>
      (hstored hfits).carried _ hmem
    exact ⟨_, rfl, hsend⟩

/-! ## Callbacks -/

theorem Steady.relayed {b : Bridge} {h t : List HostEvent} {tx : List Byte}
    {x : Exchange} (hb : Steady b h) (ht : Commanded tx x t)
    (hsession : session (h ++ t) = session h) : Steady b (h ++ t) :=
  hb.append (upToAcks_of_eq hsession) (ht.exchanges_append h).2

/-- Between two rounds of the drain. -/
def Draining (b : Bridge) (h : List HostEvent) : Prop :=
  Live b h ∧ b.ready = true ∧ b.negotiated = true

private theorem drain_level {b : Bridge} {h : List HostEvent}
    (level : Option Bool) (hb : Draining b h) :
    Owes h (.call (.gpioGetValue b.p.hint) level) ∧
      Draining b (h ++ [.call (.gpioGetValue b.p.hint) level]) := by
  obtain ⟨hlive, hready, hnegotiated⟩ := hb
  have hsteady : Steady b (h ++ [.call (.gpioGetValue b.p.hint) level]) :=
    hlive.toSteady.concat (fun _ => rfl) ⟨rfl, rfl⟩
  exact ⟨trivial, ⟨hsteady, hlive.connected⟩, hready, hnegotiated⟩

private theorem drain_round {b : Bridge} {h : List HostEvent}
    (hb : Draining b h) :
    Holds bridgeContract h (ezspRelayCallback g b ashMaxFrame :
        Host σ (Bridge × List Byte)) fun out h' =>
      (out.2 = [] → Draining out.1 h') ∧
        (out.2 ≠ [] → Holds bridgeContract h'
          (ashSendData out.1 out.2 : Host σ Bridge) Draining) := by
  obtain ⟨hlive, hready, hnegotiated⟩ := hb
  have hanswered := hlive.models.answered hready
  have hpoll : Holds (relaying True) h (ezspRelayCallback g b ashMaxFrame :
      Host σ (Bridge × List Byte)) _ :=
    ezspRelayCallback_holds (fun _ => trivial) (relaying_bus True) g b
      ashMaxFrame trivial fun _ _ _ => trivial
  apply (relaying_owed hpoll hanswered fun _ =>
    hlive.models.negotiated hnegotiated).mono
  rintro ⟨b', out⟩ _ ⟨⟨rfl, t, x, rfl, hcommanded, hout⟩, hsession⟩
  have hnote : session (h ++ [.note (.relayCallback b)]) = session h := by
    rw [session_concat]
    rfl
  have hnoted : Steady b (h ++ [.note (.relayCallback b)]) :=
    hlive.toSteady.concat (fun _ => rfl) (isQuiet_note _)
  have hsteady : Steady b (h ++ [.note (.relayCallback b)] ++ t) :=
    hnoted.relayed hcommanded (hsession.trans hnote.symm)
  have hlive' : Live { b with cbseq := b.cbseq + 1 }
      (h ++ [.note (.relayCallback b)] ++ t) :=
    ⟨⟨hsteady.models.congr (fun _ => rfl) rfl rfl rfl rfl rfl,
      hsteady.accounted⟩, hlive.connected⟩
  constructor
  · intro _
    exact ⟨hlive', hready, hnegotiated⟩
  · intro hsome
    rcases hout with hnone | ⟨payload, hframe, hcut⟩
    · exact absurd hnone hsome
    · apply (ashSendData_live hlive' hready
        (hcommanded.exchanges_append _).1 hframe hcut).mono
      rintro b'' h'' ⟨hlive'', hready'', hnegotiated''⟩
      exact ⟨hlive'', hready'', hnegotiated''.trans hnegotiated⟩

theorem bridgeDrainCallbacks_steady {b : Bridge} {h : List HostEvent}
    (hb : Steady b h) :
    Holds bridgeContract h (bridgeDrainCallbacks g b : Host σ Bridge)
      fun b' h' => Steady b' h' ∧ (0 ≤ b.cli → 0 ≤ b'.cli) := by
  rw [bridgeDrainCallbacks]
  by_cases hidle : b.cli < 0 ∨ b.ready = false ∨ b.negotiated = false ∨
      b.p.hint < 0
  · rw [if_pos hidle]
    exact Holds.pure ⟨hb, fun hcli => hcli⟩
  · rw [if_neg hidle]
    have hdrain : Draining b h := by
      refine ⟨⟨hb, ?_⟩, ?_, ?_⟩
      · by_contra hcli
        exact hidle (Or.inl (not_le.mp hcli))
      · by_contra hready
        exact hidle (Or.inr (Or.inl (Bool.eq_false_of_not_eq_true hready)))
      · by_contra hnegotiated
        exact hidle (Or.inr (Or.inr (Or.inl
          (Bool.eq_false_of_not_eq_true hnegotiated))))
    apply (drainRounds_holds g (fun _ _ level => drain_level level)
      (fun _ _ => drain_round g) 32 b h hdrain).mono
    rintro b' h' ⟨hlive, _⟩
    exact ⟨hlive.toSteady, fun _ => hlive.connected⟩

end EzspSpi
