import EzspSpi.Ash.Relay

/-!
# DATA frames under a contract

What follows a relayed command is bookkeeping: the reply is looked at and sent
on, and callbacks are collected.  An assertion about the command and its
answer outlasts all of that.
-/

namespace EzspSpi

open Program

variable {σ : Type} [Kernel σ]

/-- The version fields after a reply. -/
def adopted (b : Bridge) (ezsp : List Byte) (reply : Option (List Byte)) :
    Int × Bool :=
  match reply.bind (sniffVersion b.ver ezsp) with
  | none => (b.ver, b.negotiated)
  | some v => (v.toNat, true)

/-- An assertion that outlasts a command: while it holds, notes, writes and
callback polls are allowed, and no event but the bytes of another response to
the same command can end it. -/
structure Lasting (C : Contract host) (R : List HostEvent → Prop) : Prop where
  append : ∀ {h t}, R h → receivedFirst t = [] → R (h ++ t)
  note : ∀ h n, R h → C.event h (.note n)
  write : ∀ h fd buf r, R h → C.event h (.call (.write fd buf) r)
  poll : ∀ h b rx, R h → .note (.relayCallback b) ∈ h →
    C.event h (.call (.spiTransfer
      (ezspCommand (callbackPoll b.ver b.cbseq)) false true) rx)

/-- The assertion holds, and the version fields have these values. -/
structure Keeping (R : List HostEvent → Prop) (v : Int × Bool) (b : Bridge)
    (h : List HostEvent) : Prop where
  lasting : R h
  version : (b.ver, b.negotiated) = v

variable {C : Contract host} (hC : Bus C) (hhalt : ∀ h, C.halt h)
  {R : List HostEvent → Prop} {v : Int × Bool} {h : List HostEvent}

theorem Lasting.append_quiet (hR : Lasting C R) {t : List HostEvent}
    (hh : R h) (ht : ∀ e ∈ t, IsQuiet e) : R (h ++ t) :=
  hR.append hh (exchanges_of_quiet ht).2

theorem Lasting.concat_quiet (hR : Lasting C R) {e : HostEvent}
    (hh : R h) (he : IsQuiet e) : R (h ++ [e]) :=
  hR.append_quiet hh fun _ hmem => List.mem_singleton.mp hmem ▸ he

include hhalt in
theorem ashSendData_lasts (hR : Lasting C R) {b : Bridge}
    (hb : Keeping R v b h) (ezsp : List Byte) :
    Holds C h (ashSendData b ezsp : Host σ Bridge) (Keeping R v) := by
  have hstored : R (h ++ [.note (.store (ashDataFrame b ezsp))]) :=
    hR.concat_quiet hb.lasting (isQuiet_note _)
  apply (ashSendData_holds hhalt (fun _ => hR.note h _ hb.lasting)
    fun _ rounds => hR.write _ _ _ rounds hstored).mono
  rintro b' _ (⟨_, rfl, rfl⟩ | ⟨_, rfl, t, ht, rfl⟩)
  · exact hb
  · exact ⟨hR.append_quiet hstored fun e he => (ht e he).isQuiet, hb.version⟩

include hC hhalt in
theorem bridgeDrainCallbacks_lasts (g : Globals) (hR : Lasting C R)
    {b : Bridge} (hb : Keeping R v b h) :
    Holds C h (bridgeDrainCallbacks g b : Host σ Bridge) (Keeping R v) := by
  rw [bridgeDrainCallbacks]
  split
  · exact Holds.pure hb
  · apply drainRounds_holds g _ _ 32 b h hb
    · intro b' h' level hb'
      constructor
      · exact hC.gpio h' _ trivial
      · exact ⟨hR.concat_quiet hb'.lasting ⟨rfl, rfl⟩, hb'.version⟩
    · intro b' h' hb'
      have hnoted : R (h' ++ [.note (.relayCallback b')]) :=
        hR.concat_quiet hb'.lasting (isQuiet_note _)
      have hpoll (t : List HostEvent)
          (ht : MayCommand (ezspCommand (callbackPoll b'.ver b'.cbseq)) t)
          (rx) : C.event (h' ++ [.note (.relayCallback b')] ++ t)
            (.call (.spiTransfer (ezspCommand
              (callbackPoll b'.ver b'.cbseq)) false true) rx) :=
        hR.poll _ b' rx (hR.append hnoted ht.1)
          (List.mem_append_left t List.mem_concat_self)
      apply (ezspRelayCallback_holds hhalt hC g b' ashMaxFrame
        (hR.note h' _ hb'.lasting) hpoll).mono
      rintro ⟨b'', out⟩ _ ⟨rfl, t, x, rfl, hcommanded, _⟩
      have hpolled : Keeping R v { b' with cbseq := b'.cbseq + 1 }
          (h' ++ [.note (.relayCallback b')] ++ t) :=
        ⟨hR.append hnoted hcommanded.1, hb'.version⟩
      exact ⟨fun _ => hpolled, fun _ => ashSendData_lasts hhalt hR hpolled out⟩

omit [Kernel σ] in
theorem adoptVersion_lasts (hR : Lasting C R) {b : Bridge}
    (hh : R h) (ezsp resp : List Byte) :
    Holds C h (adoptVersion b ezsp resp : Host σ Bridge)
      (Keeping R (adopted b ezsp (some resp))) := by
  rw [adoptVersion, adopted, Option.bind_some]
  cases sniffVersion b.ver ezsp resp with
  | none => exact Holds.pure ⟨hh, rfl⟩
  | some v =>
      apply Holds.bind
      apply Holds.note (hR.note h _ hh)
      exact Holds.pure ⟨hR.concat_quiet hh (isQuiet_note _), rfl⟩

include hC hhalt in
/-- Handling a DATA frame that carries an EZSP frame: after the
acknowledgement the EZSP frame is commanded, and whatever holds of its last
exchange, and lasts if this brought a reply, holds in the end.  The version is
adopted from that reply. -/
theorem bridgeHandleData_holds (g : Globals) {b : Bridge} {f : List Byte}
    {R : Exchange → List HostEvent → Prop}
    (hpos : 1 ≤ f.length - 1) (hlen : f.length - 1 ≤ ashMaxFrame)
    (hwrite : ∀ buf rounds, C.event h (.call (.write b.cli buf) rounds))
    (hrelay : ∀ t, (∀ e ∈ t, IsQuiet e) →
      C.event (h ++ t) (.note (.relay b f)))
    (hcommand : ∀ t t', (∀ e ∈ t, IsQuiet e) →
      MayCommand (ezspCommand (ashMask f.tail)) t' → ∀ rx,
        C.event (h ++ t ++ t') (.call (.spiTransfer
          (ezspCommand (ashMask f.tail)) false true) rx))
    (hanswer : ∀ t t' x, (∀ e ∈ t, IsQuiet e) →
      Commanded (ezspCommand (ashMask f.tail)) x t' → R x (h ++ t ++ t'))
    (hR : ∀ x, x.frame? ≠ none → Lasting C (R x)) :
    Holds C h (bridgeHandleData g b f : Host σ Bridge) fun b' h' =>
      ∃ x, R x h' ∧ (b'.ver, b'.negotiated) =
        adopted b (ashMask f.tail)
          (x.frame?.map fun frame => frame.take ashMaxFrame) := by
  have hplen : ¬(f.length - 1 = 0 ∨ f.length - 1 > ashMaxFrame) := by omega
  have hlength : (ashMask f.tail).length = f.length - 1 := by
    rw [length_ashMask, List.length_tail]
  have hpayload : ashMask f.tail ≠ [] :=
    List.ne_nil_of_length_pos (hlength ▸ hpos)
  rw [bridgeHandleData]
  dsimp only
  rw [if_neg hplen, ashSendAck]
  apply Holds.bind
  apply (ashSend_writes hhalt fun rounds => hwrite _ rounds).seq
  rintro _ _ ⟨t, ht, rfl⟩
  have hquiet : ∀ e ∈ t, IsQuiet e := fun e he => (ht e he).isQuiet
  have hnoted : ∀ e ∈ t ++ [.note (.relay b f)], IsQuiet e := by
    intro e he
    rcases List.mem_append.mp he with he | he
    · exact hquiet e he
    · exact List.mem_singleton.mp he ▸ isQuiet_note _
  apply Holds.pure
  apply Holds.bind
  apply Holds.note (hrelay t hquiet)
  rw [List.append_assoc h]
  apply (ezspRelay_holds hhalt hC g b.p hpayload (hlength.trans_le hlen)
    ashMaxFrame fun t' ht' rx => hcommand _ t' hnoted ht' rx).seq
  rintro reply _ ⟨u, x, rfl, hcommanded, hreply⟩
  have hx := hanswer _ u x hnoted hcommanded
  cases reply with
  | none =>
      apply Holds.pure
      refine ⟨x, hx, ?_⟩
      rw [← hreply]
      rfl
  | some resp =>
      have hlasting : Lasting C (R x) := by
        apply hR
        intro hnone
        rw [hnone] at hreply
        cases hreply
      dsimp only
      by_cases hempty : resp = []
      · rw [if_pos hempty]
        have hignored : sniffVersion b.ver (ashMask f.tail) resp = none := by
          rw [hempty, sniffVersion]
          simp
        apply Holds.pure
        refine ⟨x, hx, ?_⟩
        rw [← hreply, adopted, Option.bind_some, hignored]
      · rw [if_neg hempty]
        apply (adoptVersion_lasts hlasting hx _ _).seq
        intro b₁ h₁ hb₁
        apply (ashSendData_lasts hhalt hlasting hb₁ resp).seq
        intro b₂ h₂ hb₂
        apply (bridgeDrainCallbacks_lasts hC hhalt g hlasting hb₂).mono
        intro b₃ h₃ hb₃
        refine ⟨x, hb₃.lasting, hb₃.version.trans ?_⟩
        rw [← hreply]
        rfl

end EzspSpi
