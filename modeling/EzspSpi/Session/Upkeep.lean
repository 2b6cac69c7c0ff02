import EzspSpi.Ash.Events
import EzspSpi.Ash.Loop
import EzspSpi.Session.Observer

/-!
# Invariants of the bridge

Everything the bridge does to its state is one of a few assignments, made at a
known point of the trace.  An assertion about the state and the history that
each of them keeps is kept by every function of the bridge, and by any number
of passes of the main loop.
-/

namespace EzspSpi

open Program

variable {σ : Type} [Kernel σ] (g : Globals)

/-- Calls other than transfers and accepted connections, and the note that a
frame is relayed. -/
def IsPlain : HostEvent → Prop
  | .call (.spiTransfer _ _ _) _ => False
  | .call (.accept _) (some _) => False
  | .call _ _ => True
  | .note (.relay _ _) => True
  | .note _ => False

/-- A command on the bus, with its last exchange. -/
structure Relayed (tx : List Byte) (x : Exchange) (t : List HostEvent) :
    Prop where
  commanded : Commanded tx x t
  bus : ∀ e ∈ t, IsBus e

/-- The state in which callbacks are polled. -/
structure Collecting (b : Bridge) : Prop where
  connected : 0 ≤ b.cli
  ready : b.ready = true
  negotiated : b.negotiated = true
  hint : 0 ≤ b.p.hint

/-- What one byte can make of the receive buffer. -/
def Received (rx rx' : List Byte) : Prop :=
  rx' = [] ∨ rx' = rx ∨
    ∃ c, rx.length < ashMaxFrame * 2 ∧ rx' = rx ++ [c]

/-- The assignments of `bridge_reset`. -/
def bridgeFresh (b : Bridge) : Bridge :=
  { b with
    frm := 0
    ack := 0
    ver := 4
    sent := fun _ => []
    ready := true
    negotiated := false }

/-- `Inv` is kept by each thing the bridge does, and the notes it takes then
are as the contract `C` wants them.  Commands are kept as a whole, with what
they were answered with. -/
structure Upkeep (C : Contract host)
    (Inv : Bridge → List HostEvent → Prop) : Prop where
  halt : ∀ h, C.halt h
  call : ∀ h c r, C.event h (.call c r)
  relay : ∀ {b h} f, Inv b h → C.event h (.note (.relay b f))
  plain : ∀ {b h e}, Inv b h → IsPlain e → Inv b (h ++ [e])
  command : ∀ {b h tx x t}, Inv b h → Relayed tx x t → Inv b (h ++ t)
  store : ∀ {b h body}, Inv b h → body.length ≤ ashMaxFrame →
    C.event h (.note (.store body)) ∧
      Inv (recordSent b body) (h ++ [.note (.store body)])
  ack : ∀ {b h} n, Inv b h → Inv { b with ack := nextNumber n } h
  adopt : ∀ {b h ezsp x t frame v}, Inv b h →
    Relayed (ezspCommand ezsp) x t → x.frame? = some frame →
    sniffVersion b.ver ezsp (frame.take ashMaxFrame) = some v →
    C.event (h ++ t) (.note (.negotiated v)) ∧
      Inv { b with ver := v.toNat, negotiated := true }
        (h ++ t ++ [.note (.negotiated v)])
  poll : ∀ {b h}, Inv b h → Collecting b →
    C.event h (.note (.relayCallback b)) ∧
      Inv { b with cbseq := b.cbseq + 1 } (h ++ [.note (.relayCallback b)])
  handle : ∀ {b h} f, Inv b h → C.event h (.note (.handleFrame b f))
  handled : ∀ {b h f}, Inv b h → frameKind f ≠ .rst →
    Inv b (h ++ [.note (.handleFrame b f)])
  reset : ∀ {b h f t}, Inv b h → frameKind f = .rst → (∀ e ∈ t, IsPlain e) →
    Inv (bridgeFresh b) (h ++ .note (.handleFrame b f) :: t)
  receive : ∀ {b h rx} esc, Inv b h → Received b.rx rx →
    Inv { b with rx := rx, esc := esc } h
  drop : ∀ {b h}, Inv b h → Inv { b with cli := -1, rx := [], esc := false } h
  accept : ∀ {b h t} fd, Inv b h → (∀ e ∈ t, IsPlain e) →
    Inv (bridgeAccepted b fd) (h ++ .call (.accept b.srv) (some fd) :: t)

namespace Upkeep

variable {C : Contract host} {Inv : Bridge → List HostEvent → Prop}
  (hI : Upkeep C Inv) {b : Bridge} {h : List HostEvent}

include hI

theorem bus : Bus C where
  gpio h e he := by
    cases e with
    | note n => exact he.elim
    | call c r => exact hI.call h c r
  idle h _ _ _ := hI.call h _ _
  failed h _ := hI.halt h

theorem plains {t : List HostEvent} (hb : Inv b h) (ht : ∀ e ∈ t, IsPlain e) :
    Inv b (h ++ t) := by
  induction t using List.reverseRecOn with
  | nil => rwa [List.append_nil]
  | append_singleton t e ih =>
      have hrest := ih fun e' he' => ht e' (List.mem_append_left [e] he')
      rw [← List.append_assoc]
      exact hI.plain hrest (ht e List.mem_concat_self)

omit hI [Kernel σ] in
theorem isPlain_of_isWrite {e : HostEvent} (he : IsWrite e) : IsPlain e := by
  obtain ⟨fd, buf, r, rfl⟩ := he
  trivial

omit hI [Kernel σ] in
theorem isPlain_of_isGpio {e : HostEvent} (he : IsGpio e) : IsPlain e := by
  cases e with
  | note n => exact he.elim
  | call c r => cases c <;> first | exact he.elim | trivial

omit [Kernel σ] in
/-- A program that makes plain calls only. -/
theorem plainly {α : Type} {m : Host σ α} {K : HostEvent → Prop}
    (hm : Emits K m) (hK : ∀ e, K e → IsPlain e)
    (hcall : ∀ h e, K e → C.event h e) (hb : Inv b h) :
    Holds C h m fun _ h' => Inv b h' := by
  apply hm.holds (R := fun h' => Inv b h') _ (fun h' _ => hI.halt h') hb
  exact fun h' e he hb' => ⟨hcall h' e he, hI.plain hb' (hK e he)⟩

/-! ## Sending and relaying -/

theorem ashSendData (ezsp : List Byte) (hb : Inv b h) :
    Holds C h (ashSendData b ezsp : Host σ Bridge)
      fun b' h' => Inv b' h' ∧ (Collecting b → Collecting b') := by
  have hfits (hlen : ezsp.length + 1 ≤ ashMaxFrame) :
      (ashDataFrame b ezsp).length ≤ ashMaxFrame := by
    rw [ashDataFrame, List.length_cons, length_ashMask]
    exact hlen
  apply (ashSendData_holds hI.halt (fun hlen => (hI.store hb (hfits hlen)).1)
    fun _ _ => hI.call _ _ _).mono
  rintro b' _ (⟨_, rfl, rfl⟩ | ⟨hlen, rfl, t, ht, rfl⟩)
  · exact ⟨hb, id⟩
  · have hstored := hI.plains (hI.store hb (hfits hlen)).2
      fun e he => isPlain_of_isWrite (ht e he)
    exact ⟨hstored, fun hcollect =>
      ⟨hcollect.connected, hcollect.ready, hcollect.negotiated, hcollect.hint⟩⟩

/-- A relayed frame is a command on the bus. -/
theorem ezspRelay {ezsp : List Byte} (hpos : ezsp ≠ [])
    (hlen : ezsp.length ≤ ashMaxFrame) (hb : Inv b h) :
    Holds C h (ezspRelay g b.p ezsp ashMaxFrame :
        Host σ (Option (List Byte))) fun reply h' =>
      Inv b h' ∧ ∃ t x, h' = h ++ t ∧ Relayed (ezspCommand ezsp) x t ∧
        reply = x.frame?.map fun frame => frame.take ashMaxFrame := by
  apply ((ezspRelay_holds hI.halt hI.bus g b.p hpos hlen ashMaxFrame
    fun _ _ _ => hI.call _ _ _).emitting (ezspRelay_emits g _ _ _)).mono
  rintro reply _ ⟨⟨t, x, rfl, hcommanded, hreply⟩, t', hbus, heq⟩
  obtain rfl := List.append_cancel_left heq
  exact ⟨hI.command hb ⟨hcommanded, hbus⟩, t, x, rfl, ⟨hcommanded, hbus⟩,
    hreply⟩

theorem ezspRelayCallback (hb : Inv b h) (hcollect : Collecting b) :
    Holds C h (ezspRelayCallback g b ashMaxFrame :
        Host σ (Bridge × List Byte)) fun out h' =>
      Inv out.1 h' ∧ Collecting out.1 := by
  obtain ⟨hnote, hpolled⟩ := hI.poll hb hcollect
  have hcollect' : Collecting { b with cbseq := b.cbseq + 1 } :=
    ⟨hcollect.connected, hcollect.ready, hcollect.negotiated, hcollect.hint⟩
  rw [EzspSpi.ezspRelayCallback]
  generalize ezspLayout b.ver = layout
  obtain ⟨hdr, idOff⟩ := layout
  apply Holds.bind
  apply Holds.note hnote
  apply (hI.ezspRelay g (callbackPoll_ne_nil b.ver b.cbseq)
    (length_callbackPoll b.ver b.cbseq) hpolled).seq
  rintro reply h' ⟨hb', -⟩
  cases reply with
  | none => exact Holds.pure ⟨hb', hcollect'⟩
  | some out =>
      dsimp only
      split
      · exact Holds.pure ⟨hb', hcollect'⟩
      · split
        · exact Holds.pure ⟨hb', hcollect'⟩
        · exact Holds.pure ⟨hb', hcollect'⟩

/-- Callbacks are polled in the one state that allows it. -/
theorem bridgeDrainCallbacks (hb : Inv b h) :
    Holds C h (bridgeDrainCallbacks g b : Host σ Bridge) Inv := by
  rw [EzspSpi.bridgeDrainCallbacks]
  by_cases hguard : b.cli < 0 ∨ b.ready = false ∨ b.negotiated = false ∨
      b.p.hint < 0
  · rw [if_pos hguard]
    exact Holds.pure hb
  · rw [if_neg hguard]
    simp only [not_or, not_lt, Bool.not_eq_false] at hguard
    have hcollect : Collecting b :=
      ⟨hguard.1, hguard.2.1, hguard.2.2.1, hguard.2.2.2⟩
    have hrounds : Holds C h (drainRounds g 32 b : Host σ Bridge)
        fun b' h' => Inv b' h' ∧ Collecting b' := by
      apply drainRounds_holds g _ _ 32 b h ⟨hb, hcollect⟩
      · rintro b' h' level ⟨hb', hcollect'⟩
        exact ⟨hI.call h' _ _, hI.plain hb' trivial, hcollect'⟩
      · rintro b' h' ⟨hb', hcollect'⟩
        apply (hI.ezspRelayCallback g hb' hcollect').mono
        rintro out h'' ⟨hout, hcollect''⟩
        refine ⟨fun _ => ⟨hout, hcollect''⟩, fun _ => ?_⟩
        apply (hI.ashSendData out.2 hout).mono
        exact fun _ _ hend => ⟨hend.1, hend.2 hcollect''⟩
    exact hrounds.mono fun _ _ hend => hend.1

/-! ## Frames from the client -/

theorem bridgeReset {f : List Byte} (hf : frameKind f = .rst)
    (hb : Inv b h) :
    Holds C (h ++ [.note (.handleFrame b f)])
      (bridgeReset b : Host σ Bridge) Inv := by
  have hlines (h' : List HostEvent) (e : HostEvent) (he : IsGpio e) :
      C.event h' e := hI.bus.gpio h' e he
  have hwrites (h' : List HostEvent) (e : HostEvent) (he : IsWrite e) :
      C.event h' e := by
    obtain ⟨fd, buf, r, rfl⟩ := he
    exact hI.call h' _ _
  rw [EzspSpi.bridgeReset]
  apply ((ncpReset_emits b.p).appends hlines hI.halt).seq
  rintro _ _ ⟨t, ht, rfl⟩
  apply ((ashSend_emits _ rstackFrame).appends hwrites hI.halt).seq
  rintro _ _ ⟨t', ht', rfl⟩
  have hplain : ∀ e ∈ t ++ t', IsPlain e := by
    intro e he
    rcases List.mem_append.mp he with he | he
    · exact isPlain_of_isGpio (ht e he)
    · exact isPlain_of_isWrite (ht' e he)
  rw [List.append_assoc, List.append_assoc, List.singleton_append]
  exact Holds.pure (hI.reset hb hf hplain)

theorem bridgeHandleData (f : List Byte) (hb : Inv b h) :
    Holds C h (bridgeHandleData g b f : Host σ Bridge) Inv := by
  rw [EzspSpi.bridgeHandleData]
  dsimp only
  by_cases hplen : f.length - 1 = 0 ∨ f.length - 1 > ashMaxFrame
  · rw [if_pos hplen]
    exact Holds.pure hb
  · rw [if_neg hplen]
    have hlength : (ashMask f.tail).length = f.length - 1 := by
      rw [length_ashMask, List.length_tail]
    have hpayload : ashMask f.tail ≠ [] := by
      apply List.ne_nil_of_length_pos
      omega
    have hfits : (ashMask f.tail).length ≤ ashMaxFrame := by omega
    have hacked := hI.ack (frameNumber f) hb
    have hwrites (h' : List HostEvent) (e : HostEvent) (he : IsWrite e) :
        C.event h' e := by
      obtain ⟨fd, buf, r, rfl⟩ := he
      exact hI.call h' _ _
    rw [ashSendAck]
    apply Holds.bind
    apply ((ashSend_emits _ _).appends hwrites hI.halt).seq
    rintro _ _ ⟨t, ht, rfl⟩
    have hplain : ∀ e ∈ t, IsPlain e := fun e he => isPlain_of_isWrite (ht e he)
    apply Holds.pure
    apply Holds.bind
    apply Holds.note (hI.relay f (hI.plains hb hplain))
    have hb₂ := hI.plain (e := .note (.relay b f))
      (hI.plains hacked hplain) trivial
    apply (hI.ezspRelay g hpayload hfits hb₂).seq
    rintro reply _ ⟨hb₃, t', x, rfl, hcommanded, hreply⟩
    cases reply with
    | none => exact Holds.pure hb₃
    | some resp =>
        obtain ⟨frame, hframe, rfl⟩ := Option.map_eq_some_iff.mp hreply.symm
        dsimp only
        by_cases hempty : frame.take ashMaxFrame = []
        · rw [if_pos hempty]
          exact Holds.pure hb₃
        · rw [if_neg hempty, adoptVersion]
          have hrest (b' : Bridge) (h' : List HostEvent) (hb' : Inv b' h') :
              Holds C h' (do
                  let b'' ← EzspSpi.ashSendData b' (frame.take ashMaxFrame)
                  EzspSpi.bridgeDrainCallbacks g b'' : Host σ Bridge) Inv := by
            apply (hI.ashSendData _ hb').seq
            exact fun b'' h'' hend => hI.bridgeDrainCallbacks g hend.1
          dsimp only
          cases hversion : sniffVersion b.ver (ashMask f.tail)
              (frame.take ashMaxFrame) with
          | none =>
              rw [pure_bind]
              exact hrest _ _ hb₃
          | some v =>
              obtain ⟨hnote, hadopted⟩ :=
                hI.adopt hb₂ hcommanded hframe hversion
              apply Holds.bind
              apply Holds.bind
              apply Holds.note hnote
              apply Holds.pure
              exact hrest _ _ hadopted

theorem bridgeHandleFrame (f : List Byte) (hb : Inv b h) :
    Holds C h (bridgeHandleFrame g b f : Host σ Bridge) Inv := by
  rw [bridgeHandleFrame_eq]
  apply Holds.bind
  apply Holds.note (hI.handle f hb)
  cases hkind : frameKind f with
  | rst => exact hI.bridgeReset hkind hb
  | ack => exact Holds.pure (hI.handled hb (by rw [hkind]; decide))
  | nak =>
      have hhandled := hI.handled hb (f := f) (by rw [hkind]; decide)
      have hwrites (h' : List HostEvent) (e : HostEvent) (he : IsWrite e) :
          C.event h' e := by
        obtain ⟨fd, buf, r, rfl⟩ := he
        exact hI.call h' _ _
      apply (hI.plainly (retransmitFrom_emits b 9 _)
        (fun _ he => isPlain_of_isWrite he) hwrites hhandled).seq
      exact fun _ _ hb' => Holds.pure hb'
  | error => exact Holds.pure (hI.handled hb (by rw [hkind]; decide))
  | data =>
      have hhandled := hI.handled hb (f := f) (by rw [hkind]; decide)
      dsimp only
      split
      · exact Holds.pure hhandled
      · exact hI.bridgeHandleData g f hhandled

/-! ## The receiver -/

theorem bridgeFeedByte (c : Byte) (hb : Inv b h) :
    Holds C h (bridgeFeedByte g b c : Host σ Bridge) Inv := by
  have hflag : Holds C h (bridgeFlag g b : Host σ Bridge) Inv := by
    rw [bridgeFlag]
    split
    · apply (hI.bridgeHandleFrame g _ hb).seq
      exact fun _ _ hb' => Holds.pure (hI.receive false hb' (Or.inl rfl))
    · exact Holds.pure (hI.receive false hb (Or.inl rfl))
  rw [EzspSpi.bridgeFeedByte]
  split
  · exact Holds.pure hb
  split
  · exact Holds.pure (hI.receive false hb (Or.inl rfl))
  split
  · exact Holds.pure (hI.receive true hb (Or.inl rfl))
  split
  · exact Holds.pure (hI.receive true hb (Or.inr (Or.inl rfl)))
  split
  · exact hflag
  dsimp only
  by_cases hroom : b.rx.length < ashMaxFrame * 2
  · rw [if_pos hroom]
    exact Holds.pure (hI.receive false hb (Or.inr (Or.inr ⟨_, hroom, rfl⟩)))
  · rw [if_neg hroom]
    exact Holds.pure (hI.receive false hb (Or.inl rfl))

theorem bridgeFeed (buf : List Byte) (hb : Inv b h) :
    Holds C h (bridgeFeed g b buf : Host σ Bridge) Inv :=
  Holds.foldlM (fun _ c _ hb' => hI.bridgeFeedByte g c hb') buf b h hb

/-! ## The main loop -/

theorem bridgeDropClient (hb : Inv b h) :
    Holds C h (bridgeDropClient b : Host σ Bridge) Inv := by
  rw [EzspSpi.bridgeDropClient]
  split
  · exact Holds.pure hb
  · apply Holds.bind
    apply Holds.call fun r => hI.call h _ r
    exact fun _ => Holds.pure (hI.drop (hI.plain hb trivial))

theorem bridgeAccept (hb : Inv b h) :
    Holds C h (bridgeAccept b : Host σ Bridge) Inv := by
  rw [EzspSpi.bridgeAccept]
  apply Holds.bind
  apply Holds.call fun r => hI.call h _ r
  intro fd
  cases fd with
  | none => exact Holds.pure (hI.plain hb trivial)
  | some fd =>
      dsimp only
      split
      · rename_i hcli
        rw [EzspSpi.bridgeDropClient, if_neg (not_lt.mpr hcli), bind_assoc]
        apply Holds.bind
        apply Holds.call fun r => hI.call _ _ r
        intro r
        have hclose : ∀ e ∈ [(.call (.close b.cli) r : HostEvent)],
            IsPlain e :=
          fun e he => List.mem_singleton.mp he ▸ trivial
        have haccepted := hI.accept fd hb hclose
        rw [List.append_assoc]
        exact Holds.pure haccepted
      · rw [pure_bind]
        exact Holds.pure (hI.accept fd hb fun e he =>
          absurd he List.not_mem_nil)

theorem bridgeRead (hb : Inv b h) :
    Holds C h (bridgeRead g b : Host σ Bridge) Inv := by
  rw [EzspSpi.bridgeRead]
  apply Holds.bind
  apply Holds.call fun r => hI.call h _ r
  intro got
  have hasked := hI.plain (e := .call (.read b.cli) got) hb trivial
  cases got with
  | bytes buf =>
      cases buf with
      | nil => exact hI.bridgeDropClient hasked
      | cons c buf => exact hI.bridgeFeed g (c :: buf) hasked
  | interrupted => exact Holds.pure hasked
  | failed => exact hI.bridgeDropClient hasked

theorem bridgeServeClient (ivCli ivHint : Option ℕ) (revents : ℕ → Revents)
    (hb : Inv b h) :
    Holds C h (bridgeServeClient g b ivCli ivHint revents : Host σ Bridge)
      Inv := by
  rw [EzspSpi.bridgeServeClient]
  have hedge : Holds C h
      (onlyIf (ivHint.any (fun iv => (revents iv).pollin) = true)
        (Program.call (I := host) (.gpioReadEdge b.p.hint)) : Host σ Unit)
      fun _ h' => Inv b h' := by
    rw [onlyIf]
    split
    · apply Holds.call fun r => hI.call h _ r
      exact fun _ => hI.plain hb trivial
    · exact Holds.pure hb
  apply hedge.seq
  intro _ h' hb'
  split
  · exact hI.bridgeDropClient hb'
  · have hdrain (b' : Bridge) (h'' : List HostEvent) (hb'' : Inv b' h'') :
        Holds C h'' (EzspSpi.bridgeDrainCallbacks g b' : Host σ Bridge) Inv :=
      hI.bridgeDrainCallbacks g hb''
    split
    · exact (hI.bridgeRead g hb').seq hdrain
    · rw [pure_bind]
      exact hdrain b h' hb'

theorem bridgeServe (ivCli ivHint : Option ℕ) (revents : ℕ → Revents)
    (hb : Inv b h) :
    Holds C h (bridgeServe g b ivCli ivHint revents : Host σ Bridge) Inv := by
  rw [EzspSpi.bridgeServe]
  split
  · apply (hI.bridgeAccept hb).seq
    exact fun _ _ hb' => hI.bridgeServeClient g ivCli ivHint revents hb'
  · rw [pure_bind]
    exact hI.bridgeServeClient g ivCli ivHint revents hb

theorem bridgeWatch (hb : Inv b h) :
    Holds C h (bridgeWatch b : Host σ Bool) fun _ h' => Inv b h' := by
  rw [EzspSpi.bridgeWatch, gpioGet]
  split
  · apply Holds.bind
    apply Holds.call fun r => hI.call h _ r
    exact fun _ => Holds.pure (hI.plain hb trivial)
  · exact Holds.pure hb

theorem bridgePass (hb : Inv b h) :
    Holds C h (bridgePass g b : Host σ Bridge) Inv := by
  rw [EzspSpi.bridgePass]
  apply (hI.bridgeWatch hb).seq
  intro watch h' hb'
  apply Holds.bind
  apply Holds.call fun r => hI.call h' _ r
  intro got
  cases got with
  | interrupted => exact Holds.pure (hI.plain hb' trivial)
  | failed => exact Holds.halt (hI.halt _)
  | ready revents => exact hI.bridgeServe g _ _ revents (hI.plain hb' trivial)

/-- Any number of passes. -/
theorem cmdBridge (passes : ℕ) (hb : Inv b h) :
    Holds C h (cmdBridge g passes b : Host σ Bridge) Inv := by
  induction passes generalizing b h with
  | zero => exact Holds.pure hb
  | succ passes ih =>
      rw [EzspSpi.cmdBridge]
      exact (hI.bridgePass g hb).seq fun _ _ hb' => ih hb'

end Upkeep

end EzspSpi
