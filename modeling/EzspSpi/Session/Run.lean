import EzspSpi.Session.Handling

/-!
# Every run keeps the contract

From the handling of one frame to any number of passes of the main loop: what
one step keeps a whole run keeps.
-/

namespace EzspSpi

open Program RingLog

variable {σ : Type} [Kernel σ] (g : Globals)

/-! ## The receiver -/

/-- The receive buffer is no concern of the session. -/
private theorem Steady.receiver {b : Bridge} {h : List HostEvent}
    (hb : Steady b h) (rx : List Byte) (esc : Bool) :
    Steady { b with rx := rx, esc := esc } h :=
  ⟨hb.models.congr (fun _ => rfl) rfl rfl rfl rfl rfl, hb.accounted⟩

private theorem Live.receiver {b : Bridge} {h : List HostEvent}
    (hb : Live b h) (rx : List Byte) (esc : Bool) :
    Live { b with rx := rx, esc := esc } h :=
  ⟨hb.toSteady.receiver rx esc, hb.connected⟩

private theorem bridgeFlag_live {b : Bridge} {h : List HostEvent}
    (hb : Live b h) :
    Holds bridgeContract h (bridgeFlag g b : Host σ Bridge) Live := by
  rw [bridgeFlag]
  by_cases hframe : 3 ≤ b.rx.length ∧ ashChecked b.rx = true
  · rw [if_pos hframe]
    apply (bridgeHandleFrame_live g _ hb).seq
    intro b' h' hlive
    exact Holds.pure (hlive.receiver [] false)
  · rw [if_neg hframe, pure_bind]
    exact Holds.pure (hb.receiver [] false)

/-- One byte from the client. -/
theorem bridgeFeedByte_live {b : Bridge} (c : Byte) {h : List HostEvent}
    (hb : Live b h) :
    Holds bridgeContract h (bridgeFeedByte g b c : Host σ Bridge) Live := by
  rw [bridgeFeedByte]
  by_cases hflow : c = ashXon ∨ c = ashXoff
  · rw [if_pos hflow]
    exact Holds.pure hb
  · rw [if_neg hflow]
    by_cases hcancel : c = ashCancel
    · rw [if_pos hcancel]
      exact Holds.pure (hb.receiver [] false)
    · rw [if_neg hcancel]
      by_cases hsub : c = ashSub
      · rw [if_pos hsub]
        exact Holds.pure (hb.receiver [] true)
      · rw [if_neg hsub]
        by_cases hesc : c = ashEsc
        · rw [if_pos hesc]
          exact Holds.pure (hb.receiver b.rx true)
        · rw [if_neg hesc]
          by_cases hflag : c = ashFlag
          · rw [if_pos hflag]
            exact bridgeFlag_live g hb
          · rw [if_neg hflag]
            dsimp only
            split
            · exact Holds.pure (hb.receiver _ false)
            · exact Holds.pure (hb.receiver [] false)

theorem bridgeFeed_live {b : Bridge} (buf : List Byte) {h : List HostEvent}
    (hb : Live b h) :
    Holds bridgeContract h (bridgeFeed g b buf : Host σ Bridge) Live :=
  Holds.foldlM (fun _ c _ hlive => bridgeFeedByte_live g c hlive) buf b h hb

/-! ## Clients -/

private theorem bridgeDropClient_steady {b : Bridge} {h : List HostEvent}
    (hb : Steady b h) :
    Holds bridgeContract h (bridgeDropClient b : Host σ Bridge) Steady := by
  rw [bridgeDropClient]
  by_cases hcli : b.cli < 0
  · rw [if_pos hcli]
    exact Holds.pure hb
  · rw [if_neg hcli]
    apply Holds.bind
    apply Holds.call fun _ => trivial
    intro r
    have hclosed : Steady b (h ++ [.call (.close b.cli) r]) :=
      hb.concat (fun _ => rfl) ⟨rfl, rfl⟩
    have hgone : 0 ≤ (-1 : Int) → (-1 : Int) = b.cli :=
      fun hneg => absurd hneg (by decide)
    have hdropped : Models { b with cli := -1, rx := [], esc := false }
        (h ++ [.call (.close b.cli) r]) :=
      hclosed.models.congr hgone rfl rfl rfl rfl rfl
    exact Holds.pure ⟨hdropped, hclosed.accounted⟩

/-- A session just begun, after an accept. -/
private theorem bridgeAccepted_live {h : List HostEvent} {fd : ℕ}
    (b : Bridge) (hh : Accounted h)
    (hsession : ∃ inOrder, session h =
      { Session.start with client := some fd, inOrder := inOrder }) :
    Live (bridgeAccepted b fd) h := by
  obtain ⟨inOrder, hstart⟩ := hsession
  refine ⟨⟨?_, hh⟩, Int.natCast_nonneg fd⟩
  apply models_fresh _ _ _ _ _ rfl rfl rfl rfl <;> rw [hstart]
  · rfl
  · rfl
  · exact fun _ => rfl
  · rfl
  · exact fun hready => absurd hready Bool.false_ne_true

private theorem bridgeAccept_steady {b : Bridge} {h : List HostEvent}
    (hb : Steady b h) :
    Holds bridgeContract h (bridgeAccept b : Host σ Bridge)
      fun b' h' => Steady b' h' ∧ (0 ≤ b.cli → 0 ≤ b'.cli) := by
  rw [bridgeAccept]
  apply Holds.bind
  apply Holds.call fun _ => trivial
  intro fd
  cases fd with
  | none =>
      have hrefused : Steady b (h ++ [.call (.accept b.srv) none]) :=
        hb.concat (fun _ => rfl) ⟨rfl, rfl⟩
      exact Holds.pure ⟨hrefused, fun hcli => hcli⟩
  | some fd =>
      have hsession : session (h ++ [.call (.accept b.srv) (some fd)]) =
          { Session.start with
            client := some fd
            inOrder := (session h).inOrder } := by
        rw [session_concat]
        rfl
      have haccounted : Accounted (h ++ [.call (.accept b.srv) (some fd)]) := by
        apply hb.accounted.mono
        rw [hsession]
      have hdone (b' : Bridge) (h' : List HostEvent) (hh' : Accounted h')
          (hsession' : session h' =
            session (h ++ [.call (.accept b.srv) (some fd)])) :
          Holds bridgeContract h' (pure (bridgeAccepted b' fd) : Host σ Bridge)
            fun b'' h'' => Steady b'' h'' ∧ (0 ≤ b.cli → 0 ≤ b''.cli) := by
        have hlive := bridgeAccepted_live b' hh'
          ⟨(session h).inOrder, hsession'.trans hsession⟩
        exact Holds.pure ⟨hlive.toSteady, fun _ => hlive.connected⟩
      dsimp only
      by_cases hcli : 0 ≤ b.cli
      · rw [if_pos hcli, bridgeDropClient, if_neg (not_lt.mpr hcli)]
        apply Holds.bind
        apply Holds.bind
        apply Holds.call fun _ => trivial
        intro r
        apply Holds.pure
        have hsame : session (h ++ [.call (.accept b.srv) (some fd)] ++
            [.call (.close b.cli) r]) =
            session (h ++ [.call (.accept b.srv) (some fd)]) := by
          rw [session_concat]
          rfl
        exact hdone _ _ (haccounted.mono (by rw [hsame])) hsame
      · rw [if_neg hcli, pure_bind]
        exact hdone b _ haccounted rfl

private theorem bridgeRead_steady {b : Bridge} {h : List HostEvent}
    (hb : Live b h) :
    Holds bridgeContract h (bridgeRead g b : Host σ Bridge) Steady := by
  rw [bridgeRead]
  apply Holds.bind
  apply Holds.call fun _ => trivial
  intro got
  have hread : Steady b (h ++ [.call (.read b.cli) got]) :=
    hb.toSteady.concat (fun _ => rfl) ⟨rfl, rfl⟩
  cases got with
  | bytes buf =>
      cases buf with
      | nil => exact bridgeDropClient_steady hread
      | cons c buf =>
          apply (bridgeFeed_live g (c :: buf) ⟨hread, hb.connected⟩).mono
          intro _ _ hlive
          exact hlive.toSteady
  | interrupted => exact Holds.pure hread
  | failed => exact bridgeDropClient_steady hread

/-! ## The main loop -/

private theorem bridgeServeClient_steady {b : Bridge} {h : List HostEvent}
    (hb : Steady b h) {ivCli : Option ℕ} (ivHint : Option ℕ)
    (hivCli : ivCli ≠ none → 0 ≤ b.cli) (revents : ℕ → Revents) :
    Holds bridgeContract h
      (bridgeServeClient g b ivCli ivHint revents : Host σ Bridge) Steady := by
  rw [bridgeServeClient]
  have hedge : Holds bridgeContract h
      (onlyIf (ivHint.any (fun iv => (revents iv).pollin) = true)
        (call (I := host) (.gpioReadEdge b.p.hint)) : Host σ Unit)
      fun _ h' => Steady b h' := by
    rw [onlyIf]
    split
    · apply Holds.call fun _ => trivial
      intro r
      exact hb.concat (fun _ => rfl) ⟨rfl, rfl⟩
    · exact Holds.pure hb
  apply hedge.seq
  intro _ h' hb'
  by_cases hhangup : ivCli.any
      (fun iv => (revents iv).pollerr || (revents iv).pollhup) = true
  · rw [if_pos hhangup]
    exact bridgeDropClient_steady hb'
  · rw [if_neg hhangup]
    have hdrain (b₁ : Bridge) (h₁ : List HostEvent) (hb₁ : Steady b₁ h₁) :
        Holds bridgeContract h₁ (bridgeDrainCallbacks g b₁ : Host σ Bridge)
          Steady :=
      (bridgeDrainCallbacks_steady g hb₁).mono fun _ _ hend => hend.1
    by_cases hdata : ivCli.any (fun iv => (revents iv).pollin) = true
    · rw [if_pos hdata]
      have hcli : 0 ≤ b.cli := by
        apply hivCli
        intro hnone
        rw [hnone] at hdata
        exact absurd hdata Bool.false_ne_true
      exact (bridgeRead_steady g ⟨hb', hcli⟩).seq hdrain
    · rw [if_neg hdata, pure_bind]
      exact hdrain b h' hb'

private theorem bridgeServe_steady {b : Bridge} {h : List HostEvent}
    (hb : Steady b h) {ivCli : Option ℕ} (ivHint : Option ℕ)
    (hivCli : ivCli ≠ none → 0 ≤ b.cli) (revents : ℕ → Revents) :
    Holds bridgeContract h
      (bridgeServe g b ivCli ivHint revents : Host σ Bridge) Steady := by
  rw [bridgeServe]
  by_cases hconnect : (revents 0).pollin = true
  · rw [if_pos hconnect]
    apply (bridgeAccept_steady hb).seq
    rintro b' h' ⟨hb', hcli'⟩
    exact bridgeServeClient_steady g hb' ivHint (fun hiv => hcli' (hivCli hiv))
      revents
  · rw [if_neg hconnect, pure_bind]
    exact bridgeServeClient_steady g hb ivHint hivCli revents

private theorem bridgeWatch_steady {b : Bridge} {h : List HostEvent}
    (hb : Steady b h) :
    Holds bridgeContract h (bridgeWatch b : Host σ Bool)
      fun _ h' => Steady b h' := by
  rw [bridgeWatch, gpioGet]
  split
  · apply Holds.bind
    apply Holds.call fun _ => trivial
    intro level
    exact Holds.pure (hb.concat (fun _ => rfl) ⟨rfl, rfl⟩)
  · exact Holds.pure hb

theorem bridgePass_steady {b : Bridge} {h : List HostEvent}
    (hb : Steady b h) :
    Holds bridgeContract h (bridgePass g b : Host σ Bridge) Steady := by
  rw [bridgePass]
  apply (bridgeWatch_steady hb).seq
  intro watch h' hb'
  apply Holds.bind
  apply Holds.call fun _ => trivial
  intro got
  have hpolled (fds : List Int) (timeout : ℕ) :
      Steady b (h' ++ [.call (.poll fds timeout) got]) :=
    hb'.concat (fun _ => rfl) ⟨rfl, rfl⟩
  cases got with
  | interrupted => exact Holds.pure (hpolled _ _)
  | failed => exact Holds.halt trivial
  | ready revents =>
      apply bridgeServe_steady g (hpolled _ _)
      intro hiv
      by_contra hcli
      exact hiv (if_neg hcli)

/-- From any state that models the session, any number of passes. -/
theorem cmdBridge_steady (passes : ℕ) {b : Bridge} {h : List HostEvent}
    (hb : Steady b h) :
    Holds bridgeContract h (cmdBridge g passes b : Host σ Bridge) Steady := by
  induction passes generalizing b h with
  | zero => exact Holds.pure hb
  | succ passes ih =>
      rw [cmdBridge]
      apply (bridgePass_steady g hb).seq
      intro b' h' hb'
      exact ih hb'

theorem bridgeInit_steady (p : Pins) (srv : Int) :
    Steady (bridgeInit p srv) [] := by
  have hnone (hcli : 0 ≤ (bridgeInit p srv).cli) :
      (session []).client = some (bridgeInit p srv).cli.toNat :=
    absurd (show (0 : Int) ≤ -1 from hcli) (by decide)
  have hunready (hready : (bridgeInit p srv).ready = true) :
      (session []).answered = true :=
    absurd hready Bool.false_ne_true
  exact ⟨models_fresh rfl rfl hnone rfl hunready rfl rfl rfl rfl,
    fun hout => absurd hout.symm Bool.false_ne_true⟩

/-- Every run of the bridge from its start, whatever the client, the NCP and
the kernel do: each event finds what it owes, and after any pass the bridge
state models the session. -/
theorem cmdBridge_owes (p : Pins) (srv : Int) (passes : ℕ) (s : σ) :
    (∀ t₁ e t₂, (cmdBridge g passes (bridgeInit p srv) s).trace =
        t₁ ++ e :: t₂ → Owes t₁ e) ∧
      ∀ b, (cmdBridge g passes (bridgeInit p srv) s).outcome = .done b →
        Steady b (cmdBridge g passes (bridgeInit p srv) s).trace := by
  obtain ⟨halong, hdone, _⟩ :=
    cmdBridge_steady g passes (bridgeInit_steady p srv) s
  constructor
  · intro t₁ e t₂ htrace
    rw [htrace] at halong
    exact halong.at_event
  · exact hdone

end EzspSpi
