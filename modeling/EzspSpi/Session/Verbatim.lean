import EzspSpi.Ash.Data
import EzspSpi.Session.Run

/-!
# Verbatim relaying

What the bridge clocks out for a client's DATA frame is that frame's EZSP
frame as one SPI command, and what it sends the client as DATA is the EZSP
frame of one response, whole.
-/

namespace EzspSpi

open Program

variable {σ : Type} [Kernel σ] (g : Globals)

/-! ## From the client to the NCP -/

/-- What may be clocked out, after the history `h` of handling a DATA frame,
with the command of its EZSP frame: nothing but idle bytes to receive with;
that command, as the first one or after a reset notification in answer to it;
and callback polls, once it was sent. -/
def Clockable (e : List Byte) (h : List HostEvent) : HostEvent → Prop
  | .call (.spiTransfer tx true _) _ => ∃ n, tx = List.replicate n spiIdle
  | .call (.spiTransfer tx false _) _ =>
      (tx = ezspCommand e ∧ MayCommand (ezspCommand e) h) ∨
      (ezspCommand e ∈ (exchanges h).map Exchange.command ∧
        ∃ b, .note (.relayCallback b) ∈ h ∧
          tx = ezspCommand (callbackPoll b.ver b.cbseq))
  | _ => True

private def clocking (e : List Byte) : Contract host where
  event := Clockable e
  halt _ := True

private theorem clocking_bus (e : List Byte) : Bus (clocking e) where
  gpio h ev hev := by
    cases ev with
    | note n => exact hev.elim
    | call c r =>
        cases c with
        | spiTransfer tx keepRx keepCs => exact hev.elim
        | _ => trivial
  idle h n keepCs rx := ⟨n, rfl⟩
  failed _ _ := trivial

private theorem mayCommand_quiet_append {tx : List Byte}
    {t t' : List HostEvent} (ht : ∀ e ∈ t, IsQuiet e)
    (ht' : MayCommand tx t') : MayCommand tx (t ++ t') := by
  obtain ⟨hexchanges, hfirst⟩ := exchanges_append (t := t) ht'.1
  rw [(exchanges_of_quiet ht).1, List.nil_append] at hexchanges
  rw [(exchanges_of_quiet ht).2] at hfirst
  exact ⟨hfirst, hexchanges ▸ ht'.2⟩

/-- The command of the EZSP frame has been sent. -/
private def Sent (e : List Byte) (h : List HostEvent) : Prop :=
  ezspCommand e ∈ (exchanges h).map Exchange.command

private theorem sent_lasting (e : List Byte) :
    Lasting (clocking e) (Sent e) where
  append {h t} hh ht := by
    rw [Sent, (exchanges_append ht).1, List.map_append]
    exact List.mem_append_left _ hh
  note _ _ _ := trivial
  write _ _ _ _ _ := trivial
  poll _ b _ hh hnoted := Or.inr ⟨hh, b, hnoted, rfl⟩

private theorem sent_of_commanded {e : List Byte} {x : Exchange}
    {t : List HostEvent} (ht : Commanded (ezspCommand e) x t)
    (h : List HostEvent) : Sent e (h ++ t) := by
  have hlast := (ht.exchanges_append h).1
  rw [Sent, ← ht.2.1]
  exact List.mem_map_of_mem (List.mem_of_getLast? hlast)

private theorem bridgeHandleFrame_clocks {b : Bridge} {f : List Byte}
    (hf : frameKind f = .data) (hready : b.ready = true)
    (hpos : 1 ≤ f.length - 1) (hlen : f.length - 1 ≤ ashMaxFrame) :
    Holds (clocking (ashMask f.tail)) []
      (bridgeHandleFrame g b f : Host σ Bridge)
      fun _ h' => Sent (ashMask f.tail) h' := by
  have hup : ¬b.ready = false := by simp [hready]
  have hcommand (t t' : List HostEvent) (ht : ∀ ev ∈ t, IsQuiet ev)
      (ht' : MayCommand (ezspCommand (ashMask f.tail)) t') (rx) :
      Clockable (ashMask f.tail)
        ([] ++ [.note (.handleFrame b f)] ++ t ++ t')
        (.call (.spiTransfer (ezspCommand (ashMask f.tail)) false true)
          rx) := by
    have hquiet : ∀ ev ∈ [] ++ [.note (.handleFrame b f)] ++ t,
        IsQuiet ev := by
      intro ev hev
      rcases List.mem_append.mp hev with hnote | hrest
      · exact List.mem_singleton.mp hnote ▸ isQuiet_note _
      · exact ht ev hrest
    exact Or.inl ⟨rfl, mayCommand_quiet_append hquiet ht'⟩
  rw [bridgeHandleFrame_eq, hf]
  apply Holds.bind
  apply Holds.note trivial
  dsimp only
  rw [if_neg hup]
  apply (bridgeHandleData_holds (clocking_bus _) (fun _ => trivial) g hpos hlen
    (fun _ _ => trivial) (fun _ _ => trivial) hcommand
    (fun t t' x _ ht' => sent_of_commanded ht' _)
    fun _ _ => sent_lasting _).mono
  rintro b' h' ⟨_, hsent, _⟩
  exact hsent

/-! ## Both directions -/

/-- Relaying is verbatim.  Handling a DATA frame with an EZSP frame of 1 to 140
bytes in it, from any state after an RST, clocks out nothing but the command
of this EZSP frame, a second time only after a reset notification, and then
callback polls and idle bytes; and a handling that completes has sent it.  In
every run, each frame written to the client is no DATA frame or carries the
EZSP frame of a response heard before, whole, of at most 139 bytes; and a
DATA frame is made only of the answer to the latest command, so that a longer
one is never passed on. -/
theorem cmdBridge_relays_verbatim (p : Pins) (srv : Int) (passes : ℕ)
    (s : σ) :
    (∀ (b : Bridge) (f : List Byte) (s' : σ), frameKind f = .data →
      b.ready = true → 1 ≤ f.length - 1 → f.length - 1 ≤ ashMaxFrame →
      (∀ t₁ e t₂, (bridgeHandleFrame g b f s').trace = t₁ ++ e :: t₂ →
        Clockable (ashMask f.tail) t₁ e) ∧
      ∀ b', (bridgeHandleFrame g b f s').outcome = .done b' →
        ezspCommand (ashMask f.tail) ∈
          (exchanges (bridgeHandleFrame g b f s').trace).map
            Exchange.command) ∧
    (∀ t₁ fd buf r t₂,
      (cmdBridge g passes (bridgeInit p srv) s).trace =
        t₁ ++ .call (.write fd buf) r :: t₂ →
      ∃ frame, buf = ashEncode frame ∧
        (frameKind frame = .data → (ashMask frame.tail).length ≤ 139 ∧
          ∃ x ∈ exchanges t₁, x.frame? = some (ashMask frame.tail))) ∧
    ∀ t₁ body t₂,
      (cmdBridge g passes (bridgeInit p srv) s).trace =
        t₁ ++ .note (.store body) :: t₂ →
      (ashMask body.tail).length ≤ 139 ∧
        ∃ x, (exchanges t₁).getLast? = some x ∧
          x.frame? = some (ashMask body.tail) := by
  obtain ⟨howes, _⟩ := cmdBridge_owes g p srv passes s
  have hshort (body : List Byte) (hbody : body.length ≤ ashMaxFrame) :
      (ashMask body.tail).length ≤ 139 := by
    rw [length_ashMask, List.length_tail]
    exact Nat.sub_le_sub_right hbody 1
  refine ⟨?_, ?_, ?_⟩
  · intro b f s' hf hready hpos hlen
    obtain ⟨halong, hdone, _⟩ :=
      bridgeHandleFrame_clocks g hf hready hpos hlen s'
    constructor
    · intro t₁ e t₂ htrace
      rw [htrace] at halong
      exact halong.at_event
    · exact hdone
  · intro t₁ fd buf r t₂ htrace
    obtain ⟨frame, hbuf, hsend⟩ := howes _ _ _ htrace
    refine ⟨frame, hbuf, ?_⟩
    intro hdata
    have hcarried := hsend.verbatim hdata
    exact ⟨hshort frame hcarried.length, hcarried.verbatim⟩
  · intro t₁ body t₂ htrace
    have hstorable : Storable t₁ body := howes _ _ _ htrace
    exact ⟨hshort body hstorable.length, hstorable.latest⟩

end EzspSpi
