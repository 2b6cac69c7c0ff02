import EzspSpi.Host.Playback
import EzspSpi.Session.Upkeep

/-!
# Callbacks without an interrupt line

Without nHOST_INT the main loop wakes up every 20 ms and calls the drain, but
the drain gives up at once, so no callback is ever polled.
-/

namespace EzspSpi

open Program

variable {σ : Type} [Kernel σ] (g : Globals)

/-- A callback the NCP has queued: a poll would bring it now. -/
def Queued (b : Bridge) (s : σ) (callback : List Byte) : Prop :=
  callback ≠ [] ∧ ∃ b', (ezspRelayCallback g b ashMaxFrame s).outcome =
    .done (b', callback)

/-- The NCP was polled for callbacks, and this one was handed to the client
afterwards. -/
def Forwards (callback : List Byte) (t : List HostEvent) : Prop :=
  ∃ t₁ b t₂ body t₃,
    t = t₁ ++ .note (.relayCallback b) :: t₂ ++ .note (.store body) :: t₃ ∧
      ashMask body.tail = callback

private def unpolled : Contract host where
  event _ e := ∀ b, e ≠ .note (.relayCallback b)
  halt _ := True

/-- The line descriptors are set once, and without nHOST_INT among them there
is no poll. -/
private theorem unpolled_upkeep :
    Upkeep unpolled fun b _ => b.p.hint < 0 where
  halt _ := trivial
  call _ _ _ := by
    intro b heq
    cases heq
  relay _ _ := by
    intro b heq
    cases heq
  plain hb _ := hb
  command hb _ := hb
  store hb _ := by
    refine ⟨?_, hb⟩
    intro b heq
    cases heq
  ack _ hb := hb
  adopt hb _ _ _ := by
    refine ⟨?_, hb⟩
    intro b heq
    cases heq
  poll hb hcollect := absurd hcollect.hint (not_le.mpr hb)
  handle _ _ := by
    intro b heq
    cases heq
  handled hb _ := hb
  reset hb _ _ := hb
  receive _ hb _ := hb
  drop hb := hb
  accept _ hb _ := hb

theorem bridgePass_unpolled {b : Bridge} (hhint : b.p.hint < 0) (s : σ)
    (b' : Bridge) : .note (.relayCallback b') ∉ (bridgePass g b s).trace := by
  intro hmem
  obtain ⟨t₁, t₂, htrace⟩ := List.append_of_mem hmem
  have halong := (unpolled_upkeep.bridgePass (h := []) g hhint s).1
  rw [htrace] at halong
  exact halong.at_event b' rfl

theorem Forwards.polled {callback : List Byte} {t : List HostEvent}
    (ht : Forwards callback t) : ∃ b, .note (.relayCallback b) ∈ t := by
  obtain ⟨t₁, b, t₂, body, t₃, rfl, _⟩ := ht
  exact ⟨b, by simp⟩

/-- Without nHOST_INT a pass forwards no callback, whatever the state of the
bridge is, whatever is queued and whatever the surroundings do. -/
theorem bridgePass_without_hint (b : Bridge) (hhint : b.p.hint < 0) (s : σ)
    (callback : List Byte) : ¬Forwards callback (bridgePass g b s).trace := by
  intro hforwards
  obtain ⟨b', hpolled⟩ := hforwards.polled
  exact bridgePass_unpolled g hhint s b' hpolled

/-- A negotiated session with an idle client and no nHOST_INT. -/
def idleClient : Bridge :=
  { bridgeInit ⟨3, 4, -1, 7, -1⟩ 8 with
    cli := 9
    ready := true
    negotiated := true
    ver := 8 }

def stackStatus : List Byte := [0x00, 0x90, 0x01, 0x19, 0x00, 0x90]

/-- An NCP with one callback queued. -/
def stackStatusQueued : Playback where
  miso := [0xFE, 0x06] ++ stackStatus ++ [0xA7]
  polls := []
  accepts := []
  reads := []

theorem stackStatus_queued :
    Queued ⟨⟨2, false⟩, true⟩ idleClient stackStatusQueued stackStatus :=
  ⟨by decide, { idleClient with cbseq := 1 }, by decide +kernel⟩

theorem bridgePass_without_hint_idle :
    ¬Forwards stackStatus
      (bridgePass ⟨⟨2, false⟩, true⟩ idleClient stackStatusQueued).trace :=
  bridgePass_without_hint ⟨⟨2, false⟩, true⟩ idleClient (by decide)
    stackStatusQueued stackStatus

/-- The callback stays where it is. -/
theorem bridgePass_forwards_nothing :
    ¬∀ (g : Globals) (b : Bridge) (s : Playback) (callback : List Byte),
      0 ≤ b.cli → b.ready = true → b.negotiated = true → b.p.hint < 0 →
      Queued g b s callback → Forwards callback (bridgePass g b s).trace := by
  intro hall
  obtain ⟨b, hpolled⟩ := (hall ⟨⟨2, false⟩, true⟩ idleClient stackStatusQueued
    stackStatus (by decide) rfl rfl (by decide) stackStatus_queued).polled
  exact bridgePass_unpolled ⟨⟨2, false⟩, true⟩ (b := idleClient) (by decide)
    stackStatusQueued b hpolled

end EzspSpi
