import EzspSpi.Core.Modular
import EzspSpi.Spi.Transaction

/-!
# The parts of a bus transaction

What holds of the line operations and transfers a transaction is made of, and
carries over to the whole, holds of every transaction and of a command with its
retry.  It holds of these parts if it holds of the calls in them and of a
process that ends there.
-/

namespace EzspSpi

open Program

variable {σ : Type} [Kernel σ]

/-- A property of the line operations, of the idle bytes and of the commands
that satisfy `T`. -/
structure TxnParts (J : (α : Type) → Host σ α → Prop)
    (T : List Byte → Prop) : Prop extends Modular J where
  gpioSet : ∀ fd value, J Unit (EzspSpi.gpioSet fd value)
  gpioGet : ∀ fd, J (Option Bool) (EzspSpi.gpioGet fd)
  gpioWaitFalling : ∀ fd timeoutMs,
    J (Option ℕ) (EzspSpi.gpioWaitFalling fd timeoutMs)
  gpioDrainEvents : ∀ fd, J Unit (EzspSpi.gpioDrainEvents fd)
  receiveRaw : ∀ tx keepCs, J (List Byte) (spiRaw tx true keepCs)
  commandRaw : ∀ tx keepCs, T tx → J (List Byte) (spiRaw tx false keepCs)

namespace TxnParts

variable {J : (α : Type) → Host σ α → Prop} {T : List Byte → Prop}
  (hJ : TxnParts J T)

include hJ

theorem ncpReset (p : Pins) : J Unit (EzspSpi.ncpReset p) := by
  rw [EzspSpi.ncpReset]
  apply hJ.bind (hJ.gpioSet _ _)
  intro _
  apply hJ.bind (hJ.gpioSet _ _)
  intro _
  apply hJ.bind (hJ.onlyIf (hJ.gpioDrainEvents _))
  intro _
  apply hJ.bind (hJ.gpioSet _ _)
  exact fun _ => hJ.onlyIf (hJ.discard (hJ.gpioWaitFalling _ _))

theorem ncpWake (p : Pins) : J Unit (EzspSpi.ncpWake p) := by
  rw [EzspSpi.ncpWake]
  apply Modular.ite
  · exact hJ.bind (hJ.gpioSet _ _) fun _ => hJ.gpioSet _ _
  · apply hJ.bind (hJ.gpioGet _)
    intro level
    apply Modular.ite (hJ.pure _)
    apply hJ.bind (hJ.gpioDrainEvents _)
    intro _
    apply hJ.bind (hJ.gpioSet _ _)
    intro _
    exact hJ.bind (hJ.gpioWaitFalling _ _) fun _ => hJ.gpioSet _ _

theorem csDrive (g : Globals) (p : Pins) (level : Bool) :
    J Unit (EzspSpi.csDrive g p level) :=
  hJ.bind (hJ.onlyIf (hJ.gpioSet _ _)) fun _ => hJ.onlyIf (hJ.gpioSet _ _)

theorem spiIdleByte (keepCs : Bool) : J Byte (EzspSpi.spiIdleByte keepCs) :=
  hJ.bind (hJ.receiveRaw _ _) fun _ => hJ.pure _

theorem waitStates (rounds : ℕ) : J Byte (EzspSpi.waitStates rounds) := by
  induction rounds with
  | zero => exact hJ.pure _
  | succ rounds ih =>
      exact hJ.bind (hJ.spiIdleByte _) fun _ => Modular.ite (hJ.pure _) ih

theorem responseHead (b : Byte) (rxlen : ℕ) :
    J (List Byte × ℕ) (EzspSpi.responseHead b rxlen) := by
  apply Modular.ite
  · exact Modular.ite (hJ.bind (hJ.spiIdleByte _) fun _ => hJ.pure _)
      (hJ.pure _)
  · exact Modular.ite (hJ.pure _) (hJ.pure _)

theorem responseTail (p : Pins) (remain : ℕ) :
    J (List Byte) (EzspSpi.responseTail p remain) := by
  apply Modular.ite (hJ.receiveRaw _ _)
  exact Modular.ite (hJ.bind (hJ.spiIdleByte _) fun _ => hJ.pure _) (hJ.pure _)

theorem spiTxnFramed (g : Globals) (p : Pins) {tx : List Byte} (htx : T tx)
    (rxlen : ℕ) : J (ℕ × List Byte) (EzspSpi.spiTxnFramed g p tx rxlen) := by
  rw [EzspSpi.spiTxnFramed]
  apply hJ.bind (hJ.csDrive g p false)
  intro _
  apply hJ.bind (hJ.onlyIf (hJ.discard (hJ.commandRaw _ _ htx)))
  intro _
  apply hJ.bind (hJ.waitStates _)
  intro b
  apply Modular.ite
  · apply Modular.ite
    · exact hJ.bind (hJ.csDrive g p true) fun _ => hJ.pure _
    · exact hJ.bind (hJ.discard (hJ.spiIdleByte _)) fun _ => hJ.pure _
  · apply hJ.bind (hJ.responseHead _ _)
    rintro ⟨head, remain⟩
    apply hJ.bind (hJ.responseTail _ _)
    intro tail
    exact hJ.bind (hJ.csDrive g p true) fun _ => hJ.pure _

theorem doCmdOnce (g : Globals) (p : Pins) {tx : List Byte} (htx : T tx)
    (rxlen : ℕ) :
    J (RspClass × List Byte) (EzspSpi.doCmdOnce g p tx rxlen) := by
  apply hJ.bind (hJ.onlyIf (hJ.ncpWake p))
  intro _
  exact hJ.bind (hJ.spiTxnFramed g p htx rxlen) fun _ => hJ.pure _

theorem doCmd (g : Globals) (p : Pins) {tx : List Byte} (htx : T tx)
    (rxlen : ℕ) (retryOnReset : Bool) :
    J (RspClass × List Byte) (EzspSpi.doCmd g p tx rxlen retryOnReset) := by
  apply hJ.bind (hJ.doCmdOnce g p htx rxlen)
  rintro ⟨cls, rx⟩
  exact Modular.ite (hJ.doCmdOnce g p htx rxlen) (hJ.pure _)

end TxnParts

/-- Any call but a transfer, a wait for events and a write to a socket. -/
def IsPlainCall : Call → Prop
  | .spiTransfer _ _ _ => False
  | .poll _ _ => False
  | .pollEvents _ _ => False
  | .write _ _ => False
  | .writeOnce _ _ => False
  | _ => True

/-- A call that moves, reads or awaits a line. -/
def IsLineCall : Call → Prop
  | .gpioSetValue _ _ => True
  | .gpioGetValue _ => True
  | .gpioWaitEdges _ _ => True
  | .gpioDrainEdges _ => True
  | _ => False

theorem IsLineCall.isPlainCall {c : Call} (hc : IsLineCall c) :
    IsPlainCall c := by
  cases c with
  | spiTransfer tx keepRx keepCs => exact hc
  | poll fds timeout => exact hc
  | pollEvents fds timeout => exact hc
  | write fd buf => exact hc
  | writeOnce fd buf => exact hc
  | _ => trivial

/-- A plain call that leaves the lines alone. -/
def IsAsideCall (c : Call) : Prop :=
  IsPlainCall c ∧ ¬IsLineCall c

/-- A property of the calls of the lines, of the idle bytes and of the commands
that satisfy `T`, and of a process that ends with an error or gets stuck. -/
structure BusParts (J : (α : Type) → Host σ α → Prop)
    (T : List Byte → Prop) : Prop extends Modular J where
  halt : ∀ {α : Type} {why : Halt}, why ≠ .killed → J α (Program.halt why)
  line : ∀ c, IsLineCall c → J (host.Resp c) (Program.call (I := host) c)
  receive : ∀ tx keepCs,
    J _ (Program.call (I := host) (.spiTransfer tx true keepCs))
  command : ∀ tx keepCs, T tx →
    J _ (Program.call (I := host) (.spiTransfer tx false keepCs))

/-- The events of the bus, one kind of call at a time. -/
theorem emits_busParts {K : HostEvent → Prop} {T : List Byte → Prop}
    (hline : ∀ c, IsLineCall c → ∀ r, K (.call c r))
    (hreceive : ∀ tx keepCs r, K (.call (.spiTransfer tx true keepCs) r))
    (hcommand : ∀ tx keepCs, T tx → ∀ r,
      K (.call (.spiTransfer tx false keepCs) r)) :
    BusParts (fun (α : Type) (m : Host σ α) => Emits K m) T where
  toModular := Emits.modular K
  halt _ := Emits.halt
  line c hc := Emits.call (hline c hc)
  receive tx keepCs := Emits.call (hreceive tx keepCs)
  command tx keepCs htx := Emits.call (hcommand tx keepCs htx)

namespace BusParts

variable {J : (α : Type) → Host σ α → Prop} {T : List Byte → Prop}
  (hJ : BusParts J T)

include hJ

theorem die {α : Type} : J α EzspSpi.die := hJ.halt Halt.noConfusion

theorem gpioSet (fd : Int) (value : Bool) : J Unit (EzspSpi.gpioSet fd value) :=
  hJ.bind (hJ.line (.gpioSetValue fd value) trivial) fun _ =>
    Modular.ite (hJ.pure _) hJ.die

theorem gpioWaitFalling (fd : Int) (timeoutMs : ℕ) :
    J (Option ℕ) (EzspSpi.gpioWaitFalling fd timeoutMs) := by
  have hrounds (rounds : List EdgeWait) :
      J (Option ℕ) (gpioWaitRounds rounds) := by
    induction rounds with
    | nil => exact hJ.halt Halt.noConfusion
    | cons round rounds ih =>
        cases round with
        | interrupted => exact ih
        | rising => exact ih
        | failed => exact hJ.pure _
        | timeout => exact hJ.pure _
        | shortRead => exact hJ.pure _
        | falling elapsedMs => exact hJ.pure _
  exact hJ.bind (hJ.line (.gpioWaitEdges fd timeoutMs) trivial) hrounds

theorem receiveRaw (tx : List Byte) (keepCs : Bool) :
    J (List Byte) (spiRaw tx true keepCs) := by
  apply hJ.bind (hJ.receive tx keepCs)
  intro rx
  cases rx with
  | none => exact hJ.die
  | some rx => exact hJ.pure _

theorem commandRaw {tx : List Byte} (htx : T tx) (keepCs : Bool) :
    J (List Byte) (spiRaw tx false keepCs) := by
  apply hJ.bind (hJ.command tx keepCs htx)
  intro rx
  cases rx with
  | none => exact hJ.die
  | some rx => exact hJ.pure _

theorem txnParts : TxnParts J T where
  toModular := hJ.toModular
  gpioSet := hJ.gpioSet
  gpioGet _ := hJ.line (.gpioGetValue _) trivial
  gpioWaitFalling := hJ.gpioWaitFalling
  gpioDrainEvents _ := hJ.line (.gpioDrainEdges _) trivial
  receiveRaw := hJ.receiveRaw
  commandRaw _ keepCs htx := hJ.commandRaw htx keepCs

theorem doCmd (g : Globals) (p : Pins) {tx : List Byte} (htx : T tx)
    (rxlen : ℕ) (retryOnReset : Bool) :
    J (RspClass × List Byte) (EzspSpi.doCmd g p tx rxlen retryOnReset) :=
  hJ.txnParts.doCmd g p htx rxlen retryOnReset

end BusParts

/-! ## What ends a transaction -/

/-- A wait for an edge that only repeats itself. -/
def Endless (rounds : List EdgeWait) : Prop :=
  ∀ round ∈ rounds, round = .interrupted ∨ round = .rising

instance (rounds : List EdgeWait) : Decidable (Endless rounds) :=
  inferInstanceAs (Decidable (∀ round ∈ rounds, _))

/-- What a call of a transaction does to the process: a failed ioctl ends it
with an error, and an endless wait never returns. -/
def busFate : HostEvent → Option Halt
  | .call (.spiTransfer _ _ _) none => some .exit
  | .call (.gpioSetValue _ _) false => some .exit
  | .call (.gpioWaitEdges _ _) rounds =>
      if Endless rounds then some .stuck else none
  | _ => none

omit [Kernel σ] in
private theorem gpioWaitRounds_endless {rounds : List EdgeWait}
    (h : Endless rounds) :
    (gpioWaitRounds rounds : Host σ (Option ℕ)) = Program.halt .stuck := by
  induction rounds with
  | nil => rfl
  | cons round rounds ih =>
      obtain ⟨hround, hrest⟩ := List.forall_mem_cons.mp h
      rcases hround with rfl | rfl
      · exact ih hrest
      · exact ih hrest

omit [Kernel σ] in
private theorem gpioWaitRounds_final {rounds : List EdgeWait}
    (h : ¬Endless rounds) :
    ∃ elapsed, (gpioWaitRounds rounds : Host σ (Option ℕ)) = pure elapsed := by
  induction rounds with
  | nil => exact absurd (fun _ hmem => absurd hmem List.not_mem_nil) h
  | cons round rounds ih =>
      cases round with
      | interrupted =>
          exact ih fun hrest =>
            h (List.forall_mem_cons.mpr ⟨Or.inl rfl, hrest⟩)
      | rising =>
          exact ih fun hrest =>
            h (List.forall_mem_cons.mpr ⟨Or.inr rfl, hrest⟩)
      | _ => exact ⟨_, rfl⟩

section Fate

variable {fate : HostEvent → Option Halt}
  {left : Halt → List HostEvent → Prop}
  (hleft : ∀ why t t', left why t' → left why (t ++ t'))
  (htransfer : ∀ tx keepRx keepCs r,
    fate (.call (.spiTransfer tx keepRx keepCs) r) =
      busFate (.call (.spiTransfer tx keepRx keepCs) r))

include hleft htransfer

private theorem spiRaw_haltsFrom (tx : List Byte) (keepRx keepCs : Bool) :
    HaltsFrom fate left (spiRaw tx keepRx keepCs : Host σ (List Byte)) := by
  apply HaltsFrom.request hleft
  intro rx
  rw [htransfer]
  cases rx with
  | none => exact Or.inr ⟨.exit, rfl, rfl⟩
  | some rx => exact Or.inl ⟨rfl, HaltsFrom.pure⟩

/-- The parts of a transaction meet no other fate. -/
theorem txnParts_haltsFrom {T : List Byte → Prop}
    (hline : ∀ c, IsLineCall c → ∀ r,
      fate (.call c r) = busFate (.call c r)) :
    TxnParts (fun (α : Type) (m : Host σ α) => HaltsFrom fate left m) T where
  toModular := HaltsFrom.modular hleft
  gpioSet fd value := by
    apply HaltsFrom.request hleft
    intro ok
    rw [hline (.gpioSetValue fd value) trivial]
    cases ok with
    | false => exact Or.inr ⟨.exit, rfl, rfl⟩
    | true => exact Or.inl ⟨rfl, HaltsFrom.pure⟩
  gpioGet fd := HaltsFrom.call fun r => hline (.gpioGetValue fd) trivial r
  gpioWaitFalling fd timeoutMs := by
    apply HaltsFrom.request hleft
    intro rounds
    rw [hline (.gpioWaitEdges fd timeoutMs) trivial, busFate]
    by_cases hrounds : Endless rounds
    · exact Or.inr ⟨.stuck, if_pos hrounds, gpioWaitRounds_endless hrounds⟩
    · obtain ⟨elapsed, hfinal⟩ := gpioWaitRounds_final (σ := σ) hrounds
      refine Or.inl ⟨if_neg hrounds, ?_⟩
      rw [hfinal]
      exact HaltsFrom.pure
  gpioDrainEvents fd := HaltsFrom.call fun r =>
    hline (.gpioDrainEdges fd) trivial r
  receiveRaw tx keepCs := spiRaw_haltsFrom hleft htransfer tx true keepCs
  commandRaw tx keepCs _ := spiRaw_haltsFrom hleft htransfer tx false keepCs

end Fate

end EzspSpi
