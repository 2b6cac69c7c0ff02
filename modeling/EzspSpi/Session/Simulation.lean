import EzspSpi.Session.LinkHandling

/-!
# Every run of the bridge is one of the relay

From the handling of one frame to any number of passes of the main loop.
-/

namespace EzspSpi

open Program RingLog Transducer

variable {σ : Type} [Kernel σ] (g : Globals)

/-! ## The receiver -/

/-- The relay knows nothing of the receive buffer. -/
private theorem Serves.receiver {b : Bridge} {h : List HostEvent}
    (hb : Serves b h) (rx : List Byte) (esc : Bool) :
    Serves { b with rx := rx, esc := esc } h := by
  obtain ⟨⟨L, hreflects, hh⟩, hcli⟩ := hb
  exact ⟨⟨L, ⟨hreflects.client, hreflects.linked, hreflects.ver,
    hreflects.next, hreflects.three, hreflects.frm, hreflects.ring,
    hreflects.sent⟩, hh⟩, hcli⟩

private theorem bridgeFlag_paced {b : Bridge} {h : List HostEvent}
    (hb : Serves b h) :
    Holds relayContract h (bridgeFlag g b : Host σ Bridge) Serves := by
  rw [bridgeFlag]
  by_cases hframe : 3 ≤ b.rx.length ∧ ashChecked b.rx = true
  · rw [if_pos hframe]
    apply (bridgeHandleFrame_paced g _ hb).seq
    intro b' h' hserves
    exact Holds.pure (hserves.receiver [] false)
  · rw [if_neg hframe, pure_bind]
    exact Holds.pure (hb.receiver [] false)

/-- One byte from the client. -/
theorem bridgeFeedByte_paced {b : Bridge} (c : Byte) {h : List HostEvent}
    (hb : Serves b h) :
    Holds relayContract h (bridgeFeedByte g b c : Host σ Bridge)
      Serves := by
  rw [bridgeFeedByte]
  by_cases hflow : c = ashXon ∨ c = ashXoff
  · rw [if_pos hflow]
    exact Holds.pure hb
  · rw [if_neg hflow]
    by_cases hcancel : c = ashCancel
    · rw [if_pos hcancel]
      exact Holds.pure (hb.receiver [] false)
    · rw [if_neg hcancel]
      by_cases hsub : c = ashSub
      · rw [if_pos hsub]
        exact Holds.pure (hb.receiver [] true)
      · rw [if_neg hsub]
        by_cases hesc : c = ashEsc
        · rw [if_pos hesc]
          exact Holds.pure (hb.receiver b.rx true)
        · rw [if_neg hesc]
          by_cases hflag : c = ashFlag
          · rw [if_pos hflag]
            exact bridgeFlag_paced g hb
          · rw [if_neg hflag]
            dsimp only
            split
            · exact Holds.pure (hb.receiver _ false)
            · exact Holds.pure (hb.receiver [] false)

/-- A read's worth of them: what one byte keeps all of them keep. -/
theorem bridgeFeed_paced {b : Bridge} (buf : List Byte) {h : List HostEvent}
    (hb : Serves b h) :
    Holds relayContract h (bridgeFeed g b buf : Host σ Bridge) Serves :=
  Holds.foldlM (fun _ c _ hserves => bridgeFeedByte_paced g c hserves) buf b h
    hb

/-! ## Clients -/

/-- An idle event that is not waited at, or where nothing is due. -/
theorem Tracks.idle {b : Bridge} {h : List HostEvent} {e : HostEvent}
    (hb : Tracks b h) (he : IsIdle e) :
    relayContract.event h e ∧ Tracks b (h ++ [e]) := by
  obtain ⟨L, hreflects, hh⟩ := hb
  obtain ⟨hevent, hh'⟩ := hh.idle he fun _ => rfl
  exact ⟨hevent, L, hreflects, hh'⟩

theorem Tracks.gpio {b : Bridge} {h : List HostEvent} {e : HostEvent}
    (hb : Tracks b h) (he : IsGpio e) :
    relayContract.event h e ∧ Tracks b (h ++ [e]) := by
  obtain ⟨L, hreflects, hh⟩ := hb
  obtain ⟨hevent, hh'⟩ := hh.gpio he
  exact ⟨hevent, L, hreflects, hh'⟩

private theorem isIdle_close (fd : Int) (r : Unit) :
    IsIdle (.call (.close fd) r) := ⟨rfl, rfl, rfl, rfl⟩

private theorem bridgeDropClient_paced {b : Bridge} {h : List HostEvent}
    (hb : Tracks b h) :
    Holds relayContract h (bridgeDropClient b : Host σ Bridge)
      Tracks := by
  rw [bridgeDropClient]
  by_cases hcli : b.cli < 0
  · rw [if_pos hcli]
    exact Holds.pure hb
  · rw [if_neg hcli]
    apply Holds.bind
    apply Holds.call fun r => (hb.idle (isIdle_close b.cli r)).1
    intro r
    obtain ⟨_, L, hreflects, hh⟩ := hb.idle (isIdle_close b.cli r)
    apply Holds.pure
    refine ⟨L, ?_, hh⟩
    have hgone : ¬(0 : Int) ≤ -1 := by decide
    exact ⟨fun hneg => absurd hneg hgone, hreflects.linked, hreflects.ver,
      hreflects.next, hreflects.three, hreflects.frm, hreflects.ring,
      hreflects.sent⟩

/-- A new client finds the bridge as it finds the relay. -/
private theorem bridgeAccepted_serves {h : List HostEvent} (b : Bridge)
    {fd : ℕ} (hh : Stands { Link.start with client := some fd } [] [] h) :
    Serves (bridgeAccepted b fd) h := by
  refine ⟨⟨_, ?_, hh⟩, Int.natCast_nonneg fd⟩
  constructor
  · exact fun _ => rfl
  · rfl
  · rfl
  · rfl
  · show (0 : Byte) &&& 0x07 = 0
    decide
  · rfl
  · exact mirrors_nil
  · exact fun _ hmem => absurd hmem List.not_mem_nil

private theorem bridgeAccept_paced {b : Bridge} {h : List HostEvent}
    (hb : Tracks b h) :
    Holds relayContract h (bridgeAccept b : Host σ Bridge)
      fun b' h' => Tracks b' h' ∧ (0 ≤ b.cli → 0 ≤ b'.cli) := by
  obtain ⟨L, hreflects, hh⟩ := hb
  have hdue (got : Option ℕ) :
      ([] : List (Int × List Byte)) ++ relay.output L
          (Reader.tells (.call (.accept b.srv) got)) =
        writtenAt (.call (.accept b.srv) got) ++ [] := by
    cases got <;> rfl
  have haccept (got : Option ℕ) :=
    hh.event rfl (List.append_nil _) (hdue got) False.elim
  rw [bridgeAccept]
  apply Holds.bind
  apply Holds.call fun got => (haccept got).1
  intro got
  cases got with
  | none => exact Holds.pure ⟨⟨L, hreflects, (haccept none).2⟩, id⟩
  | some fd =>
      have hfresh : Stands { Link.start with client := some fd } [] []
          (h ++ [.call (.accept b.srv) (some fd)]) := (haccept (some fd)).2
      dsimp only
      by_cases hcli : 0 ≤ b.cli
      · rw [if_pos hcli, bridgeDropClient, if_neg (not_lt.mpr hcli)]
        have hclose (r : Unit) := hfresh.idle (isIdle_close b.cli r)
          fun _ => rfl
        apply Holds.bind
        apply Holds.bind
        apply Holds.call fun r => (hclose r).1
        intro r
        apply Holds.pure
        have hserves := bridgeAccepted_serves
          { b with cli := -1, rx := [], esc := false } (hclose r).2
        exact Holds.pure ⟨hserves.1, fun _ => hserves.2⟩
      · rw [if_neg hcli, pure_bind]
        have hserves := bridgeAccepted_serves b hfresh
        exact Holds.pure ⟨hserves.1, fun _ => hserves.2⟩

private theorem bridgeRead_paced {b : Bridge} {h : List HostEvent}
    (hb : Serves b h) :
    Holds relayContract h (bridgeRead g b : Host σ Bridge) Tracks := by
  rw [bridgeRead]
  have hread (got : ReadResult) : relayContract.event h
      (.call (.read b.cli) got) ∧ Tracks b (h ++ [.call (.read b.cli) got]) :=
    hb.1.idle ⟨rfl, rfl, rfl, rfl⟩
  apply Holds.bind
  apply Holds.call fun got => (hread got).1
  intro got
  have htracks := (hread got).2
  cases got with
  | bytes buf =>
      cases buf with
      | nil => exact bridgeDropClient_paced htracks
      | cons c buf =>
          apply (bridgeFeed_paced g (c :: buf) ⟨htracks, hb.2⟩).mono
          intro _ _ hserves
          exact hserves.1
  | interrupted => exact Holds.pure htracks
  | failed => exact bridgeDropClient_paced htracks

/-! ## The main loop -/

private theorem bridgeServeClient_paced {b : Bridge} {h : List HostEvent}
    (hb : Tracks b h) {ivCli : Option ℕ} (ivHint : Option ℕ)
    (hivCli : ivCli ≠ none → 0 ≤ b.cli) (revents : ℕ → Revents) :
    Holds relayContract h
      (bridgeServeClient g b ivCli ivHint revents : Host σ Bridge) Tracks := by
  rw [bridgeServeClient]
  have hedge : Holds relayContract h
      (onlyIf (ivHint.any (fun iv => (revents iv).pollin) = true)
        (call (I := host) (.gpioReadEdge b.p.hint)) : Host σ Unit)
      fun _ h' => Tracks b h' := by
    rw [onlyIf]
    split
    · have hread (r : Unit) : relayContract.event h
          (.call (.gpioReadEdge b.p.hint) r) ∧
          Tracks b (h ++ [.call (.gpioReadEdge b.p.hint) r]) :=
        hb.idle ⟨rfl, rfl, rfl, rfl⟩
      apply Holds.call fun r => (hread r).1
      intro r
      exact (hread r).2
    · exact Holds.pure hb
  apply hedge.seq
  intro _ h' hb'
  by_cases hhangup : ivCli.any
      (fun iv => (revents iv).pollerr || (revents iv).pollhup) = true
  · rw [if_pos hhangup]
    exact bridgeDropClient_paced hb'
  · rw [if_neg hhangup]
    have hdrain (b₁ : Bridge) (h₁ : List HostEvent) (hb₁ : Tracks b₁ h₁) :
        Holds relayContract h₁
          (bridgeDrainCallbacks g b₁ : Host σ Bridge) Tracks :=
      (bridgeDrainCallbacks_paced g hb₁).mono fun _ _ hend => hend.1
    by_cases hdata : ivCli.any (fun iv => (revents iv).pollin) = true
    · rw [if_pos hdata]
      have hcli : 0 ≤ b.cli := by
        apply hivCli
        intro hnone
        rw [hnone] at hdata
        exact absurd hdata Bool.false_ne_true
      exact (bridgeRead_paced g ⟨hb', hcli⟩).seq hdrain
    · rw [if_neg hdata, pure_bind]
      exact hdrain b h' hb'

private theorem bridgeServe_paced {b : Bridge} {h : List HostEvent}
    (hb : Tracks b h) {ivCli : Option ℕ} (ivHint : Option ℕ)
    (hivCli : ivCli ≠ none → 0 ≤ b.cli) (revents : ℕ → Revents) :
    Holds relayContract h
      (bridgeServe g b ivCli ivHint revents : Host σ Bridge) Tracks := by
  rw [bridgeServe]
  by_cases hconnect : (revents 0).pollin = true
  · rw [if_pos hconnect]
    apply (bridgeAccept_paced hb).seq
    rintro b' h' ⟨hb', hcli'⟩
    exact bridgeServeClient_paced g hb' ivHint
      (fun hiv => hcli' (hivCli hiv)) revents
  · rw [if_neg hconnect, pure_bind]
    exact bridgeServeClient_paced g hb ivHint hivCli revents

private theorem bridgeWatch_paced {b : Bridge} {h : List HostEvent}
    (hb : Tracks b h) :
    Holds relayContract h (bridgeWatch b : Host σ Bool)
      fun _ h' => Tracks b h' := by
  rw [bridgeWatch, gpioGet]
  split
  · have hlevel (level : Option Bool) : relayContract.event h
        (.call (.gpioGetValue b.p.hint) level) ∧
        Tracks b (h ++ [.call (.gpioGetValue b.p.hint) level]) :=
      hb.gpio trivial
    apply Holds.bind
    apply Holds.call fun level => (hlevel level).1
    intro level
    exact Holds.pure (hlevel level).2
  · exact Holds.pure hb

theorem bridgePass_paced {b : Bridge} {h : List HostEvent}
    (hb : Tracks b h) :
    Holds relayContract h (bridgePass g b : Host σ Bridge) Tracks := by
  rw [bridgePass]
  apply (bridgeWatch_paced hb).seq
  intro watch h' hb'
  have hpoll (fds : List Int) (timeout : ℕ) (got : PollResult) :
      relayContract.event h' (.call (.poll fds timeout) got) ∧
        Tracks b (h' ++ [.call (.poll fds timeout) got]) :=
    hb'.idle ⟨rfl, rfl, rfl, rfl⟩
  apply Holds.bind
  apply Holds.call fun got => (hpoll _ _ got).1
  intro got
  cases got with
  | interrupted => exact Holds.pure (hpoll _ _ _).2
  | failed => exact Holds.halt trivial
  | ready revents =>
      apply bridgeServe_paced g (hpoll _ _ _).2
      intro hiv
      by_contra hcli
      exact hiv (if_neg hcli)

/-- What one pass keeps any number of passes keep. -/
theorem cmdBridge_paced (passes : ℕ) {b : Bridge} {h : List HostEvent}
    (hb : Tracks b h) :
    Holds relayContract h (cmdBridge g passes b : Host σ Bridge)
      Tracks := by
  induction passes generalizing b h with
  | zero => exact Holds.pure hb
  | succ passes ih =>
      rw [cmdBridge]
      apply (bridgePass_paced g hb).seq
      intro b' h' hb'
      exact ih hb'

theorem bridgeInit_tracks (p : Pins) (srv : Int) :
    Tracks (bridgeInit p srv) [] := by
  refine ⟨Link.start, ?_, [], Pacing.owing_nil, rfl, rfl, rfl⟩
  constructor
  · exact fun hcli => absurd (show (0 : Int) ≤ -1 from hcli) (by decide)
  · rfl
  · rfl
  · rfl
  · show (0 : Byte) &&& 0x07 = 0
    decide
  · rfl
  · exact mirrors_nil
  · exact fun _ hmem => absurd hmem List.not_mem_nil

/-- Whatever the clients, the NCP and the kernel do, the bridge is at no point
of a run ahead of the relay, and it has written all that the relay has sent
whenever a byte is clocked, whenever it waits for its clients, and at the
end. -/
theorem cmdBridge_refines_relay (p : Pins) (srv : Int) (passes : ℕ) (s : σ) :
    (∀ t₁ e t₂,
      (cmdBridge g passes (bridgeInit p srv) s).trace = t₁ ++ e :: t₂ →
      (t₁ ++ [e]).flatMap writtenAt <+: relayed (t₁ ++ [e]) ∧
        (WaitsAt e →
          (t₁ ++ [e]).flatMap writtenAt = relayed (t₁ ++ [e]))) ∧
      ∀ b, (cmdBridge g passes (bridgeInit p srv) s).outcome = .done b →
        (cmdBridge g passes (bridgeInit p srv) s).trace.flatMap writtenAt =
          relayed (cmdBridge g passes (bridgeInit p srv) s).trace := by
  obtain ⟨hkept, hdone, _⟩ :=
    cmdBridge_paced g passes (bridgeInit_tracks p srv) s
  have halong : Along relayPacing.contract [] _ :=
    Along.mono (C := relayContract) (fun _ _ hevent => hevent.1) hkept
  constructor
  · intro t₁ e t₂ htrace
    rw [htrace] at halong
    rw [← relayPacing_output]
    exact Pacing.of_along halong
  · intro b hb
    obtain ⟨L, _, owed, howing, _, hdue, _⟩ := hdone b hb
    rw [(List.append_eq_nil_iff.mp hdue).1, List.nil_append] at howing
    rw [← relayPacing_output, howing, List.append_nil]
    rfl

end EzspSpi
