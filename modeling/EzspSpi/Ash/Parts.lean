import EzspSpi.Ash.Loop
import EzspSpi.Spi.Parts

/-!
# The parts of the bridge

What holds of the calls of the bus, of a write to the client and of the notes
about them, and carries over to the whole, holds of everything the bridge does
to handle a frame; with the other calls and notes, it holds of its loop.
-/

namespace EzspSpi

open Program

variable {σ : Type} [Kernel σ]

/-- A note taken while a frame is handled. -/
def IsHandlingNote : Note → Prop
  | .handleFrame _ _ => False
  | _ => True

/-- A property of transactions, of a write to the client and of the notes about
them. -/
structure BridgeParts (J : (α : Type) → Host σ α → Prop) : Prop
    extends TxnParts J fun _ => True where
  note : ∀ n, IsHandlingNote n → J Unit (Program.note n)
  writeAll : ∀ fd buf, J Bool (EzspSpi.writeAll fd buf)

omit [Kernel σ] in
private theorem writeRounds_emits {K : HostEvent → Prop} (left : ℕ)
    (rounds : List WriteResult) :
    Emits K (writeRounds left rounds : Host σ Bool) := by
  fun_induction writeRounds left rounds with
  | case1 rounds => exact Emits.pure
  | case2 left => exact Emits.halt
  | case3 left n rounds hn ih => exact ih
  | case4 left n rounds hn => exact Emits.pure
  | case5 left rounds ih => exact ih
  | case6 left rounds => exact Emits.pure
  | case7 left rounds => exact Emits.halt

theorem writeAll_emits {K : HostEvent → Prop} {fd : Int} {buf : List Byte}
    (hK : ∀ rounds, K (.call (.write fd buf) rounds)) :
    Emits K (writeAll fd buf : Host σ Bool) :=
  (Emits.call hK).bind fun _ => writeRounds_emits _ _

namespace BridgeParts

variable {J : (α : Type) → Host σ α → Prop} (hJ : BridgeParts J) (g : Globals)

include hJ

/-! ## Sending and relaying -/

theorem ashSend (b : Bridge) (frame : List Byte) :
    J Bool (EzspSpi.ashSend b frame) :=
  Modular.ite (hJ.pure _) (hJ.writeAll _ _)

theorem ashSendData (b : Bridge) (ezsp : List Byte) :
    J Bridge (EzspSpi.ashSendData b ezsp) := by
  apply Modular.ite (hJ.pure _)
  apply hJ.bind (hJ.note (.store _) trivial)
  intro _
  exact hJ.bind (hJ.ashSend _ _) fun _ => hJ.pure _

theorem ashRetransmit (hstuck : J Unit (Program.halt .stuck)) (b : Bridge)
    (n : Byte) : J Unit (EzspSpi.ashRetransmit b n) := by
  rw [EzspSpi.ashRetransmit]
  generalize 9 = tests
  induction tests generalizing n with
  | zero => exact hstuck
  | succ tests ih =>
      apply Modular.ite (hJ.pure _)
      exact hJ.bind (hJ.onlyIf (hJ.discard (hJ.ashSend _ _))) fun _ => ih _

theorem ezspRelay (p : Pins) (ezsp : List Byte) (outmax : ℕ) :
    J (Option (List Byte)) (EzspSpi.ezspRelay g p ezsp outmax) := by
  apply Modular.ite (hJ.pure _)
  apply hJ.bind (hJ.doCmd g p trivial 260 true)
  rintro ⟨cls, rx⟩
  exact Modular.ite (hJ.pure _) (hJ.pure _)

theorem ezspRelayCallback (b : Bridge) (outmax : ℕ) :
    J (Bridge × List Byte) (EzspSpi.ezspRelayCallback g b outmax) := by
  rw [EzspSpi.ezspRelayCallback]
  apply hJ.bind (hJ.note (.relayCallback _) trivial)
  intro _
  apply hJ.bind (hJ.ezspRelay g _ _ _)
  intro reply
  cases reply with
  | none => exact hJ.pure _
  | some out =>
      exact Modular.ite (hJ.pure _) (Modular.ite (hJ.pure _) (hJ.pure _))

theorem bridgeDrainCallbacks (b : Bridge) :
    J Bridge (EzspSpi.bridgeDrainCallbacks g b) := by
  have hrounds (rounds : ℕ) (b : Bridge) :
      J Bridge (drainRounds g rounds b) := by
    induction rounds generalizing b with
    | zero => exact hJ.pure _
    | succ rounds ih =>
        apply hJ.bind (hJ.gpioGet _)
        intro level
        apply Modular.ite (hJ.pure _)
        apply hJ.bind (hJ.ezspRelayCallback g b _)
        rintro ⟨b', frame⟩
        apply Modular.ite (hJ.pure _)
        exact hJ.bind (hJ.ashSendData _ _) fun b'' => ih b''
  exact Modular.ite (hJ.pure _) (hrounds 32 b)

/-! ## Receiving -/

theorem bridgeReset (b : Bridge) : J Bridge (EzspSpi.bridgeReset b) := by
  apply hJ.bind (hJ.ncpReset _)
  intro _
  exact hJ.bind (hJ.ashSend _ _) fun _ => hJ.pure _

theorem bridgeHandleData (b : Bridge) (f : List Byte) :
    J Bridge (EzspSpi.bridgeHandleData g b f) := by
  apply Modular.ite (hJ.pure _)
  apply hJ.bind (hJ.discard (hJ.ashSend _ _))
  intro _
  apply hJ.bind (hJ.note (.relay _ _) trivial)
  intro _
  apply hJ.bind (hJ.ezspRelay g _ _ _)
  intro reply
  cases reply with
  | none => exact hJ.pure _
  | some resp =>
      apply Modular.ite (hJ.pure _)
      apply hJ.bind
      · rw [adoptVersion]
        split
        · exact hJ.pure _
        · exact hJ.bind (hJ.note (.negotiated _) trivial) fun _ => hJ.pure _
      intro b'
      apply hJ.bind (hJ.ashSendData _ _)
      exact fun b'' => hJ.bridgeDrainCallbacks g b''

/-- Handling a frame is the note that it is handed on, and then handling it,
which resends frames only for a NAK. -/
theorem handled (b : Bridge) (f : List Byte)
    (hresend : f.headD 0 &&& 0xE0 = 0xA0 →
      J Unit (EzspSpi.ashRetransmit b (f.headD 0 &&& 0x07))) :
    ∃ m : Host σ Bridge, J Bridge m ∧
      EzspSpi.bridgeHandleFrame g b f =
        Program.note (Note.handleFrame b f) >>= fun _ => m := by
  refine ⟨_, ?_, rfl⟩
  apply Modular.ite (hJ.bridgeReset b)
  apply Modular.ite (hJ.pure _)
  by_cases hnak : f.headD 0 &&& 0xE0 = 0xA0
  · rw [if_pos hnak]
    exact hJ.bind (hresend hnak) fun _ => hJ.pure _
  · rw [if_neg hnak]
    apply Modular.ite (hJ.pure _)
    exact Modular.ite (hJ.pure _) (hJ.bridgeHandleData g b f)

theorem bridgeHandleFrame (hstuck : J Unit (Program.halt .stuck))
    (hnote : ∀ b f, J Unit (Program.note (Note.handleFrame b f)))
    (b : Bridge) (f : List Byte) :
    J Bridge (EzspSpi.bridgeHandleFrame g b f) := by
  obtain ⟨m, hm, heq⟩ :=
    hJ.handled g b f fun _ => hJ.ashRetransmit hstuck b _
  rw [heq]
  exact hJ.bind (hnote b f) fun _ => hm

section Loop

variable (hframe : ∀ b f, J Bridge (EzspSpi.bridgeHandleFrame g b f))

include hframe

theorem bridgeFeed (b : Bridge) (buf : List Byte) :
    J Bridge (EzspSpi.bridgeFeed g b buf) := by
  have hflag (b : Bridge) : J Bridge (bridgeFlag g b) := by
    rw [bridgeFlag]
    split
    · exact hJ.bind (hframe _ _) fun _ => hJ.pure _
    · exact hJ.bind (hJ.pure _) fun _ => hJ.pure _
  have hbyte (b : Bridge) (c : Byte) : J Bridge (bridgeFeedByte g b c) := by
    apply Modular.ite (hJ.pure _)
    apply Modular.ite (hJ.pure _)
    apply Modular.ite (hJ.pure _)
    apply Modular.ite (hJ.pure _)
    apply Modular.ite (hflag b)
    exact Modular.ite (hJ.pure _) (hJ.pure _)
  exact hJ.foldlM hbyte buf b

variable (hcall : ∀ c, IsAsideCall c →
  J (host.Resp c) (Program.call (I := host) c))

include hcall

omit hframe in
theorem bridgeDropClient (b : Bridge) :
    J Bridge (EzspSpi.bridgeDropClient b) := by
  apply Modular.ite (hJ.pure _)
  exact hJ.bind (hcall (.close _) ⟨trivial, id⟩) fun _ => hJ.pure _

omit hframe in
theorem bridgeAccept (b : Bridge) : J Bridge (EzspSpi.bridgeAccept b) := by
  apply hJ.bind (hcall (.accept _) ⟨trivial, id⟩)
  intro fd
  cases fd with
  | none => exact hJ.pure _
  | some fd =>
      dsimp only
      split
      · exact hJ.bind (hJ.bridgeDropClient hcall b) fun _ => hJ.pure _
      · exact hJ.bind (hJ.pure _) fun _ => hJ.pure _

theorem bridgeRead (b : Bridge) : J Bridge (EzspSpi.bridgeRead g b) := by
  apply hJ.bind (hcall (.read _) ⟨trivial, id⟩)
  intro got
  cases got with
  | bytes buf =>
      cases buf with
      | nil => exact hJ.bridgeDropClient hcall b
      | cons c buf => exact hJ.bridgeFeed g hframe b _
  | interrupted => exact hJ.pure _
  | failed => exact hJ.bridgeDropClient hcall b

theorem bridgeServe (b : Bridge) (ivCli ivHint : Option ℕ)
    (revents : ℕ → Revents) :
    J Bridge (EzspSpi.bridgeServe g b ivCli ivHint revents) := by
  have hclient (b : Bridge) :
      J Bridge (bridgeServeClient g b ivCli ivHint revents) := by
    rw [bridgeServeClient]
    apply hJ.bind (hJ.onlyIf (hcall (.gpioReadEdge _) ⟨trivial, id⟩))
    intro _
    apply Modular.ite (hJ.bridgeDropClient hcall b)
    split
    · exact hJ.bind (hJ.bridgeRead g hframe hcall b) fun b' =>
        hJ.bridgeDrainCallbacks g b'
    · exact hJ.bind (hJ.pure _) fun b' => hJ.bridgeDrainCallbacks g b'
  rw [EzspSpi.bridgeServe]
  split
  · exact hJ.bind (hJ.bridgeAccept hcall b) fun b' => hclient b'
  · exact hJ.bind (hJ.pure _) fun b' => hclient b'

variable (hpoll : ∀ fds timeout (f : PollResult → Host σ Bridge),
  f .failed = die → (∀ got, got ≠ .failed → J Bridge (f got)) →
    J Bridge (Program.call (I := host) (.poll fds timeout) >>= f))

include hpoll

theorem bridgePass (b : Bridge) : J Bridge (EzspSpi.bridgePass g b) := by
  have hwatch : J Bool (bridgeWatch b) := by
    apply Modular.ite _ (hJ.pure _)
    exact hJ.bind (hJ.gpioGet _) fun _ => hJ.pure _
  apply hJ.bind hwatch
  intro watch
  apply hpoll _ _ _ rfl
  intro got hgot
  cases got with
  | interrupted => exact hJ.pure _
  | failed => exact absurd rfl hgot
  | ready revents => exact hJ.bridgeServe g hframe hcall b _ _ revents

theorem cmdBridge (passes : ℕ) (b : Bridge) :
    J Bridge (EzspSpi.cmdBridge g passes b) := by
  induction passes generalizing b with
  | zero => exact hJ.pure _
  | succ passes ih =>
      exact hJ.bind (hJ.bridgePass g hframe hcall hpoll b) fun b' => ih b'

end Loop

end BridgeParts

end EzspSpi
