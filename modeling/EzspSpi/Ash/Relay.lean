import EzspSpi.Ash.Bridge
import EzspSpi.Spi.Command

/-!
# The functions of the bridge under a contract

One rule for each function between the client and the NCP: what it may rely
on, and which events and which value it ends with.  The rules hold under every
contract that leaves the bus to the transaction layer.
-/

namespace EzspSpi

open Program

variable {σ : Type} [Kernel σ] {C : Contract host} (hhalt : ∀ h, C.halt h)
  {h : List HostEvent}

/-! ## Sending -/

omit [Kernel σ] in
private theorem writeRounds_holds (hhalt : ∀ h, C.halt h) (left : ℕ)
    (rounds : List WriteResult) :
    Holds C h (writeRounds left rounds : Host σ Bool) fun _ h' => h' = h := by
  induction rounds generalizing left with
  | nil =>
      cases left with
      | zero => exact Holds.pure rfl
      | succ left => exact Holds.halt (hhalt h)
  | cons round rounds ih =>
      cases left with
      | zero => exact Holds.pure rfl
      | succ left =>
          cases round with
          | wrote n =>
              rw [writeRounds]
              by_cases hn : 0 < n
              · rw [if_pos hn]
                exact ih _
              · rw [if_neg hn]
                exact Holds.pure rfl
          | interrupted => exact ih _
          | failed => exact Holds.pure rfl
          | sigpipe => exact Holds.halt (hhalt h)

include hhalt

/-- A frame that fits, sent to a client that is there, is one write of its
encoding. -/
theorem ashSend_holds {b : Bridge} {frame : List Byte} (hcli : 0 ≤ b.cli)
    (hlen : frame.length ≤ ashMaxFrame)
    (hwrite : ∀ rounds,
      C.event h (.call (.write b.cli (ashEncode frame)) rounds)) :
    Holds C h (ashSend b frame : Host σ Bool) fun _ h' =>
      ∃ rounds, h' = h ++ [.call (.write b.cli (ashEncode frame)) rounds] := by
  have hsent : ¬(b.cli < 0 ∨ frame.length + 2 > ashMaxFrame + 2) := by omega
  rw [ashSend, if_neg hsent, writeAll]
  apply Holds.bind
  apply Holds.call hwrite
  intro rounds
  apply (writeRounds_holds hhalt _ rounds).mono
  rintro _ _ rfl
  exact ⟨rounds, rfl⟩

/-- A write to a client, which the bus does not see. -/
def IsWrite (e : HostEvent) : Prop := ∃ fd buf r, e = .call (.write fd buf) r

omit hhalt in
theorem IsWrite.isQuiet {e : HostEvent} (he : IsWrite e) : IsQuiet e := by
  obtain ⟨fd, buf, r, rfl⟩ := he
  exact ⟨rfl, rfl⟩

/-- Whatever the frame and the client, at most that write happens. -/
theorem ashSend_writes {b : Bridge} {frame : List Byte}
    (hwrite : ∀ rounds,
      C.event h (.call (.write b.cli (ashEncode frame)) rounds)) :
    Holds C h (ashSend b frame : Host σ Bool) fun _ h' =>
      ∃ t, (∀ e ∈ t, IsWrite e) ∧ h' = h ++ t := by
  by_cases hsent : b.cli < 0 ∨ frame.length + 2 > ashMaxFrame + 2
  · rw [ashSend, if_pos hsent]
    apply Holds.pure
    exact ⟨[], fun e he => absurd he List.not_mem_nil, (List.append_nil h).symm⟩
  · have hcli : 0 ≤ b.cli := by omega
    have hlen : frame.length ≤ ashMaxFrame := by omega
    apply (ashSend_holds hhalt hcli hlen hwrite).mono
    rintro _ _ ⟨rounds, rfl⟩
    refine ⟨_, ?_, rfl⟩
    intro e he
    exact ⟨_, _, _, List.mem_singleton.mp he⟩

/-- The bridge after `ash_send_data` has stored a frame. -/
def recordSent (b : Bridge) (body : List Byte) : Bridge :=
  { b with
    sent := Function.update b.sent (slot b.frm) body
    frm := nextNumber b.frm }

/-- A frame that fits is stored and written; one that does not is dropped. -/
theorem ashSendData_holds {b : Bridge} {ezsp : List Byte}
    (hstore : ezsp.length + 1 ≤ ashMaxFrame →
      C.event h (.note (.store (ashDataFrame b ezsp))))
    (hwrite : ezsp.length + 1 ≤ ashMaxFrame → ∀ rounds,
      C.event (h ++ [.note (.store (ashDataFrame b ezsp))])
        (.call (.write b.cli (ashEncode (ashDataFrame b ezsp))) rounds)) :
    Holds C h (ashSendData b ezsp : Host σ Bridge) fun b' h' =>
      (ashMaxFrame < ezsp.length + 1 ∧ b' = b ∧ h' = h) ∨
      (ezsp.length + 1 ≤ ashMaxFrame ∧
        b' = recordSent b (ashDataFrame b ezsp) ∧
        ∃ t, (∀ e ∈ t, IsWrite e) ∧
          h' = h ++ [.note (.store (ashDataFrame b ezsp))] ++ t) := by
  rw [ashSendData]
  by_cases hlen : ezsp.length + 1 > ashMaxFrame
  · rw [if_pos hlen]
    exact Holds.pure (Or.inl ⟨hlen, rfl, rfl⟩)
  · rw [if_neg hlen]
    have hfits : ezsp.length + 1 ≤ ashMaxFrame := not_lt.mp hlen
    apply Holds.bind
    apply Holds.note (hstore hfits)
    apply (ashSend_writes hhalt (hwrite hfits)).seq
    rintro _ _ ⟨t, ht, rfl⟩
    exact Holds.pure (Or.inr ⟨hfits, rfl, t, ht, rfl⟩)

/-! ## Relaying -/

variable (hC : Bus C) (g : Globals)

include hC

/-- A frame of up to 140 bytes is relayed as one command, and the reply is
the frame that answered it, cut to `outmax`. -/
theorem ezspRelay_holds (p : Pins) {ezsp : List Byte} (hpos : ezsp ≠ [])
    (hlen : ezsp.length ≤ ashMaxFrame) (outmax : ℕ)
    (hcommand : ∀ t, MayCommand (ezspCommand ezsp) t → ∀ rx,
      C.event (h ++ t) (.call (.spiTransfer (ezspCommand ezsp) false true) rx)) :
    Holds C h (ezspRelay g p ezsp outmax : Host σ (Option (List Byte)))
      fun reply h' => ∃ t x, h' = h ++ t ∧
        Commanded (ezspCommand ezsp) x t ∧
        reply = x.frame?.map fun frame => frame.take outmax := by
  have hguard : ¬(ezsp.length = 0 ∨ ezsp.length > 255 ∨
      ezsp.length + 3 > ashMaxFrame + 8) := by
    have hnonempty : 0 < ezsp.length := List.length_pos_iff.mpr hpos
    simp only [ashMaxFrame] at hlen ⊢
    omega
  have htx : ezspCommand ezsp ≠ [] := List.cons_ne_nil _ _
  rw [ezspRelay, if_neg hguard]
  apply (doCmd_holds hC hhalt g p htx hcommand).seq
  rintro ⟨cls, rx⟩ _ ⟨t, x, rfl, hcommanded, hreports⟩
  dsimp only
  by_cases hcls : cls = .ezsp
  · rw [if_neg (not_not.mpr hcls)]
    obtain ⟨payload, hframe, hlength, htake⟩ := hreports.ezsp hcls
    apply Holds.pure
    refine ⟨t, x, rfl, hcommanded, ?_⟩
    dsimp only at hlength htake
    rw [hframe, hlength, min_comm, ← List.take_take, htake]
    rfl
  · rw [if_pos hcls]
    apply Holds.pure
    refine ⟨t, x, rfl, hcommanded, ?_⟩
    rw [hreports.other hcls]
    rfl

omit hhalt hC in
theorem callbackPoll_ne_nil (ver : Int) (seq : Byte) :
    callbackPoll ver seq ≠ [] := by
  rw [callbackPoll]
  split_ifs <;> exact List.cons_ne_nil _ _

omit hhalt hC in
theorem length_callbackPoll (ver : Int) (seq : Byte) :
    (callbackPoll ver seq).length ≤ ashMaxFrame := by
  rw [callbackPoll]
  split_ifs <;> simp [ashMaxFrame]

/-- A callback poll: the callback it brings is the frame that answered it, cut
to `outmax`. -/
theorem ezspRelayCallback_holds (b : Bridge) (outmax : ℕ)
    (hnote : C.event h (.note (.relayCallback b)))
    (hcommand : ∀ t, MayCommand (ezspCommand (callbackPoll b.ver b.cbseq)) t →
      ∀ rx, C.event (h ++ [.note (.relayCallback b)] ++ t)
        (.call (.spiTransfer (ezspCommand (callbackPoll b.ver b.cbseq))
          false true) rx)) :
    Holds C h (ezspRelayCallback g b outmax : Host σ (Bridge × List Byte))
      fun out h' => out.1 = { b with cbseq := b.cbseq + 1 } ∧
        ∃ t x, h' = h ++ [.note (.relayCallback b)] ++ t ∧
          Commanded (ezspCommand (callbackPoll b.ver b.cbseq)) x t ∧
          (out.2 = [] ∨
            ∃ frame, x.frame? = some frame ∧ out.2 = frame.take outmax) := by
  rw [ezspRelayCallback]
  generalize ezspLayout b.ver = layout
  obtain ⟨hdr, idOff⟩ := layout
  apply Holds.bind
  apply Holds.note hnote
  apply (ezspRelay_holds hhalt hC g b.p (callbackPoll_ne_nil _ _)
    (length_callbackPoll _ _) outmax hcommand).seq
  rintro reply _ ⟨t, x, rfl, hcommanded, hreply⟩
  cases reply with
  | none => exact Holds.pure ⟨rfl, t, x, rfl, hcommanded, Or.inl rfl⟩
  | some out =>
      obtain ⟨frame, hframe, rfl⟩ := Option.map_eq_some_iff.mp hreply.symm
      dsimp only
      by_cases hshort : (frame.take outmax).length ≤ idOff
      · rw [if_pos hshort]
        exact Holds.pure ⟨rfl, t, x, rfl, hcommanded, Or.inl rfl⟩
      · rw [if_neg hshort]
        by_cases hnone : (frame.take outmax).getD idOff 0 = ezspNoCallbacks
        · rw [if_pos hnone]
          exact Holds.pure ⟨rfl, t, x, rfl, hcommanded, Or.inl rfl⟩
        · rw [if_neg hnone]
          exact Holds.pure
            ⟨rfl, t, x, rfl, hcommanded, Or.inr ⟨frame, hframe, rfl⟩⟩

omit hhalt hC in
/-- The drain keeps what a look at nHOST_INT keeps and what a callback poll
followed by the sending of its callback keeps. -/
theorem drainRounds_holds {Inv : Bridge → List HostEvent → Prop}
    (hlevel : ∀ b h level, Inv b h →
      C.event h (.call (.gpioGetValue b.p.hint) level) ∧
        Inv b (h ++ [.call (.gpioGetValue b.p.hint) level]))
    (hround : ∀ b h, Inv b h →
      Holds C h (ezspRelayCallback g b ashMaxFrame :
          Host σ (Bridge × List Byte)) fun out h' =>
        (out.2 = [] → Inv out.1 h') ∧
          (out.2 ≠ [] →
            Holds C h' (ashSendData out.1 out.2 : Host σ Bridge) Inv)) :
    ∀ (rounds : ℕ) (b : Bridge) (h : List HostEvent), Inv b h →
      Holds C h (drainRounds g rounds b : Host σ Bridge) Inv := by
  intro rounds
  induction rounds with
  | zero =>
      intro b h hInv
      exact Holds.pure hInv
  | succ rounds ih =>
      intro b h hInv
      rw [drainRounds, gpioGet]
      apply Holds.bind
      apply Holds.call fun level => (hlevel b h level hInv).1
      intro level
      have hInv' := (hlevel b h level hInv).2
      by_cases hlow : level ≠ some false
      · rw [if_pos hlow]
        exact Holds.pure hInv'
      · rw [if_neg hlow]
        apply (hround b _ hInv').seq
        rintro ⟨b', frame⟩ h' ⟨hempty, hframe⟩
        dsimp only
        by_cases hnil : frame = []
        · rw [if_pos hnil]
          exact Holds.pure (hempty hnil)
        · rw [if_neg hnil]
          apply (hframe hnil).seq
          intro b'' h'' hInv''
          exact ih b'' h'' hInv''

end EzspSpi
