import EzspSpi.Ash.Data
import EzspSpi.Ash.Parts

/-!
# What happens while the bridge handles a frame

Handling a frame from the client and collecting callbacks use the bus, the
lines and the client's socket for writing, and nothing else.  Frames are
handed on by the receiver alone.
-/

namespace EzspSpi

open Program

variable {σ : Type} [Kernel σ] (g : Globals)

/-- A transfer or a line. -/
def IsBus : HostEvent → Prop
  | .call (.spiTransfer _ _ _) _ => True
  | e => IsGpio e

/-- A transfer, a line, a write, or a note about these. -/
def IsHandling : HostEvent → Prop
  | .call (.spiTransfer _ _ _) _ => True
  | .call (.write _ _) _ => True
  | .note (.handleFrame _ _) => False
  | .note _ => True
  | e => IsGpio e

/-- The receiver hands on frames besides. -/
def IsFeeding (e : HostEvent) : Prop :=
  IsHandling e ∨ ∃ b f, e = .note (.handleFrame b f)

theorem IsBus.isHandling {e : HostEvent} (he : IsBus e) : IsHandling e := by
  cases e with
  | note n => exact he.elim
  | call c r => cases c <;> first | exact he | trivial

theorem IsWrite.isHandling {e : HostEvent} (he : IsWrite e) :
    IsHandling e := by
  obtain ⟨fd, buf, r, rfl⟩ := he
  trivial

theorem IsLineCall.isBus {c : Call} (hc : IsLineCall c) (r : host.Resp c) :
    IsBus (.call c r) := by
  cases c <;> first | exact hc | exact hc.elim

theorem IsHandlingNote.isHandling {n : Note} (hn : IsHandlingNote n) :
    IsHandling (.note n) := by
  cases n <;> exact hn

/-- What any such property asks of its parts. -/
private theorem handling_parts {K : HostEvent → Prop}
    (hK : ∀ e, IsHandling e → K e) :
    BridgeParts fun (α : Type) (m : Host σ α) => Emits K m where
  toTxnParts := (emits_busParts
    (fun _ hc r => hK _ (hc.isBus r).isHandling)
    (fun _ _ _ => hK _ trivial) fun _ _ _ _ => hK _ trivial).txnParts
  note _ hn := Emits.note (hK _ hn.isHandling)
  writeAll _ _ := writeAll_emits fun _ => hK _ trivial

/-! ## Sending -/

theorem ashSend_emits (b : Bridge) (frame : List Byte) :
    Emits IsWrite (ashSend b frame : Host σ Bool) := by
  intro h
  apply (ashSend_writes (fun _ => trivial) fun rounds => ?_).mono
  · exact fun _ _ _ => trivial
  · exact ⟨_, _, rounds, rfl⟩

theorem retransmitFrom_emits (b : Bridge) (tests : ℕ) (n : Byte) :
    Emits IsWrite (retransmitFrom b tests n : Host σ Unit) := by
  induction tests generalizing n with
  | zero => exact Emits.halt
  | succ tests ih =>
      rw [retransmitFrom]
      apply Emits.ite Emits.pure
      apply Emits.bind
      · exact ((ashSend_emits b _).bind fun _ => Emits.pure).onlyIf
      · exact fun _ => ih _

/-! ## Relaying and receiving -/

theorem ezspRelay_emits (p : Pins) (ezsp : List Byte) (outmax : ℕ) :
    Emits IsBus (ezspRelay g p ezsp outmax : Host σ (Option (List Byte))) := by
  have hparts : BusParts (fun (α : Type) (m : Host σ α) => Emits IsBus m)
      fun _ => True :=
    emits_busParts (fun _ hc r => hc.isBus r) (fun _ _ _ => trivial)
      fun _ _ _ _ => trivial
  rw [ezspRelay]
  apply Emits.ite Emits.pure
  apply (hparts.doCmd g p trivial 260 true).bind
  exact fun _ => Emits.ite Emits.pure Emits.pure

theorem bridgeDrainCallbacks_emits (b : Bridge) :
    Emits IsHandling (bridgeDrainCallbacks g b : Host σ Bridge) :=
  (handling_parts fun _ he => he).bridgeDrainCallbacks g b

/-- Handling a frame is the note that it is handed on, and then handling it. -/
theorem bridgeHandleFrame_emits (b : Bridge) (f : List Byte) :
    ∃ m : Host σ Bridge, Emits IsHandling m ∧
      bridgeHandleFrame g b f =
        note (Note.handleFrame b f) >>= fun _ => m :=
  have hparts := handling_parts (σ := σ) fun _ he => he
  hparts.handled g b f fun _ => hparts.ashRetransmit Emits.halt b _

theorem bridgeFeed_emits (b : Bridge) (buf : List Byte) :
    Emits IsFeeding (bridgeFeed g b buf : Host σ Bridge) :=
  have hparts := handling_parts (σ := σ) (K := IsFeeding) fun _ he => Or.inl he
  hparts.bridgeFeed g (hparts.bridgeHandleFrame g Emits.halt fun b' f =>
    Emits.note (Or.inr ⟨b', f, rfl⟩)) b buf

end EzspSpi
