import EzspSpi.Spi.Framing

/-!
# Chip select

nSSEL and nSSEL_INT must move together and be released after every
transaction.  One path misses this: when the kernel drives nSSEL and the NCP
never answers, only the kernel's line is released, and nSSEL_INT stays low.
-/

namespace EzspSpi

open Program

variable {σ : Type} [Kernel σ]

/-- The level an event drives a line to. -/
def lineWrite (fd : Int) : HostEvent → Option Bool
  | .call (.gpioSetValue fd' level) _ => if fd' = fd then some level else none
  | _ => none

/-- The level a trace leaves a line at, if it drives it at all. -/
def lineLevel (fd : Int) (t : List HostEvent) : Option Bool :=
  (t.filterMap (lineWrite fd)).getLast?

def transferKeepCs : HostEvent → Option Bool
  | .call (.spiTransfer _ _ keepCs) _ => some keepCs
  | _ => none

/-- Whether the last transfer of a trace kept the kernel's chip select. -/
def lastKeepCs (t : List HostEvent) : Option Bool :=
  (t.filterMap transferKeepCs).getLast?

/-- Both ends of the chip select are high again: nSSEL by the host's own line
or by the kernel at the end of the last transfer, and nSSEL_INT if it
follows. -/
def Released (g : Globals) (p : Pins) (t : List HostEvent) : Prop :=
  (0 ≤ p.cs ∧ lineLevel p.cs t = some true ∨
      p.cs < 0 ∧ lastKeepCs t = some false) ∧
    (0 ≤ p.nsselInt ∧ g.csFollows = true →
      lineLevel p.nsselInt t = some true)

instance (g : Globals) (p : Pins) (t : List HostEvent) :
    Decidable (Released g p t) :=
  inferInstanceAs (Decidable (_ ∧ _))

/-- The NCP answers none of the wait states. -/
def Silent (g : Globals) (t : List HostEvent) : Prop :=
  (misoBytes t).take g.cfg.waitBytes =
    List.replicate g.cfg.waitBytes spiIdle

/-! ## Levels along a trace -/

@[simp]
theorem lineLevel_append (fd : Int) (t t' : List HostEvent) :
    lineLevel fd (t ++ t') = (lineLevel fd t').or (lineLevel fd t) := by
  rw [lineLevel, List.filterMap_append, List.getLast?_append]
  rfl

@[simp]
theorem lastKeepCs_append (t t' : List HostEvent) :
    lastKeepCs (t ++ t') = (lastKeepCs t').or (lastKeepCs t) := by
  rw [lastKeepCs, List.filterMap_append, List.getLast?_append]
  rfl

theorem lineLevel_csEvents_cs (g : Globals) {p : Pins} (level : Bool)
    (hcs : 0 ≤ p.cs) : lineLevel p.cs (csEvents g p level) = some level := by
  rw [csEvents, if_pos hcs]
  split
  · by_cases heq : p.nsselInt = p.cs <;>
      simp [lineLevel, lineWrite, lineSet, heq]
  · simp [lineLevel, lineWrite, lineSet]

theorem lineLevel_csEvents_nsselInt {g : Globals} {p : Pins} (level : Bool)
    (hnssel : 0 ≤ p.nsselInt ∧ g.csFollows = true) :
    lineLevel p.nsselInt (csEvents g p level) = some level := by
  rw [csEvents, if_pos hnssel, lineLevel_append]
  simp [lineLevel, lineWrite, lineSet]

/-- Only transfers, so no line is driven. -/
private theorem lineLevel_of_transfers (fd : Int) {t : List HostEvent}
    (ht : ∀ e ∈ t, lineWrite fd e = none) : lineLevel fd t = none := by
  rw [lineLevel, List.filterMap_eq_nil_iff.mpr ht]
  rfl

private theorem lineLevel_waits (fd : Int) (n : ℕ) :
    lineLevel fd (List.replicate n (idleByte true spiIdle)) = none := by
  apply lineLevel_of_transfers
  intro e he
  rw [List.eq_of_mem_replicate he]
  rfl

private theorem IsCommand.lineLevel_eq (fd : Int) {tx : List Byte}
    {t : List HostEvent} (ht : IsCommand tx t) : lineLevel fd t = none := by
  rcases ht with ⟨_, rfl⟩ | ⟨_, rx, rfl⟩ <;> rfl

private theorem TailRun.lastKeepCs_eq {p : Pins} {remain : ℕ}
    {tail : List Byte} {t : List HostEvent} (ht : TailRun p remain tail t)
    (hcs : p.cs < 0) : lastKeepCs t = some false := by
  cases ht with
  | rest hremain rx =>
      have hkeep : decide (0 ≤ p.cs) = false := by
        simpa using hcs
      rw [hkeep]
      rfl
  | kernelRelease b hremain hneg => rfl
  | nothing hremain hnonneg => exact absurd hcs hnonneg

private theorem lastKeepCs_csEvents (g : Globals) (p : Pins) (level : Bool) :
    lastKeepCs (csEvents g p level) = none := by
  rw [csEvents, lastKeepCs_append]
  split <;> split <;> rfl

/-- An answer within the wait states breaks the silence. -/
private theorem not_silent_of_answer {g : Globals} {t : List HostEvent}
    {k : ℕ} {b : Byte} {rest : List Byte} (hk : k < g.cfg.waitBytes)
    (hb : b ≠ spiIdle)
    (ht : misoBytes t = List.replicate k spiIdle ++ b :: rest) :
    ¬Silent g t := by
  intro hsilent
  have hat : ((misoBytes t).take g.cfg.waitBytes)[k]? = some b := by
    rw [List.getElem?_take_of_lt hk, ht]
    simp
  rw [hsilent, List.getElem?_replicate, if_pos hk] at hat
  exact hb (Option.some.inj hat).symm

/-! ## When both lines are released -/

/-- Releasing at the end releases both, if the kernel's own chip select needs
no more. -/
private theorem released_append {g : Globals} {p : Pins}
    {t : List HostEvent}
    (ht : p.cs < 0 → lastKeepCs t = some false) :
    Released g p (t ++ csEvents g p true) := by
  constructor
  · rcases lt_or_ge p.cs 0 with hcs | hcs
    · right
      rw [lastKeepCs_append, lastKeepCs_csEvents, ht hcs]
      exact ⟨hcs, rfl⟩
    · left
      rw [lineLevel_append, lineLevel_csEvents_cs g true hcs]
      exact ⟨hcs, rfl⟩
  · intro hnssel
    rw [lineLevel_append, lineLevel_csEvents_nsselInt true hnssel]
    rfl

/-- A last idle byte releases the kernel's chip select alone. -/
private theorem released_idleByte_iff {g : Globals} {p : Pins}
    {tx : List Byte} {cmd : List HostEvent} (hcmd : IsCommand tx cmd)
    (hcs : p.cs < 0) (n : ℕ) (b : Byte) :
    Released g p (csEvents g p false ++ cmd ++
        List.replicate n (idleByte true spiIdle) ++ [idleByte false b]) ↔
      ¬(0 ≤ p.nsselInt ∧ g.csFollows = true) := by
  constructor
  · intro hreleased hnssel
    have hhigh := hreleased.2 hnssel
    rw [lineLevel_append, lineLevel_append, lineLevel_append, lineLevel_waits,
      hcmd.lineLevel_eq, lineLevel_csEvents_nsselInt false hnssel] at hhigh
    exact Bool.false_ne_true (Option.some.inj hhigh)
  · intro hfree
    constructor
    · right
      rw [lastKeepCs_append]
      exact ⟨hcs, rfl⟩
    · exact fun hnssel => absurd hnssel hfree

/-- A completed transaction leaves both lines released, unless the kernel
drives nSSEL while nSSEL_INT follows it and the NCP does not answer within
the wait states. -/
theorem spiTxnFramed_releases_iff (g : Globals) (p : Pins) (tx : List Byte)
    (rxlen : ℕ) (s : σ) (out : ℕ × List Byte)
    (hdone : (spiTxnFramed g p tx rxlen s).outcome = .done out) :
    Released g p (spiTxnFramed g p tx rxlen s).trace ↔
      ¬(p.cs < 0 ∧ (0 ≤ p.nsselInt ∧ g.csFollows = true) ∧
        Silent g (spiTxnFramed g p tx rxlen s).trace) := by
  have hrun := (spiTxnFramed_runs g p tx rxlen s).1 out hdone
  generalize (spiTxnFramed g p tx rxlen s).trace = t at hrun ⊢
  cases hrun with
  | silentHost cmd hcmd hcs =>
      have hreleased : Released g p (csEvents g p false ++ cmd ++
          List.replicate g.cfg.waitBytes (idleByte true spiIdle) ++
          csEvents g p true) :=
        released_append fun hneg => absurd hcs (not_le.mpr hneg)
      exact ⟨fun _ hbad => absurd hcs (not_le.mpr hbad.1), fun _ => hreleased⟩
  | silentKernel cmd hcmd hcs b =>
      have hsilent : Silent g (csEvents g p false ++ cmd ++
          List.replicate g.cfg.waitBytes (idleByte true spiIdle) ++
          [idleByte false b]) := by
        simp [Silent, hcmd.misoBytes_eq]
      have hneg : p.cs < 0 := not_le.mp hcs
      rw [released_idleByte_iff hcmd hneg]
      constructor
      · exact fun hfree hbad => hfree hbad.2.1
      · exact fun hgood hnssel => hgood ⟨hneg, hnssel, hsilent⟩
  | answered cmd hcmd k hk b hb head tail remain th tt hhead htail =>
      have hbytes : misoBytes (csEvents g p false ++ cmd ++
          (List.replicate k (idleByte true spiIdle) ++ [idleByte true b]) ++
          th ++ tt ++ csEvents g p true) =
          List.replicate k spiIdle ++
            b :: (misoBytes th ++ misoBytes tt) := by
        simp [hcmd.misoBytes_eq]
      have hheard := not_silent_of_answer hk hb hbytes
      constructor
      · exact fun _ hbad => hheard hbad.2.2
      · intro _
        apply released_append
        intro hcs
        rw [lastKeepCs_append, htail.lastKeepCs_eq hcs]
        rfl

/-- A host-driven chip select around a version query that is answered. -/
theorem spiTxnFramed_releases_iff_host :
    Released ⟨⟨2, true⟩, true⟩ ⟨3, 4, 5, 7, 6⟩
        (spiTxnFramed ⟨⟨2, true⟩, true⟩ ⟨3, 4, 5, 7, 6⟩ [0x0A, 0xA7] 260
          (⟨[0x82, 0xA7], [], [], []⟩ : Playback)).trace ↔
      ¬((7 : Int) < 0 ∧ ((0 : Int) ≤ 5 ∧ true = true) ∧
        Silent ⟨⟨2, true⟩, true⟩
          (spiTxnFramed ⟨⟨2, true⟩, true⟩ ⟨3, 4, 5, 7, 6⟩ [0x0A, 0xA7] 260
            (⟨[0x82, 0xA7], [], [], []⟩ : Playback)).trace) :=
  spiTxnFramed_releases_iff ⟨⟨2, true⟩, true⟩ ⟨3, 4, 5, 7, 6⟩ [0x0A, 0xA7] 260
    _ (2, [0x82, 0xA7] ++ List.replicate 258 0) (by decide +kernel)

/-- A silent NCP behind a kernel-driven chip select: the transaction returns
with nSSEL_INT still low. -/
theorem spiTxnFramed_leaves_nsselInt_low :
    (spiTxnFramed ⟨⟨2, true⟩, true⟩ ⟨3, 4, 5, -1, 6⟩ [0x0A, 0xA7] 260
        (⟨[], [], [], []⟩ : Playback)).outcome =
        .done (0, List.replicate 260 0) ∧
      ¬Released ⟨⟨2, true⟩, true⟩ ⟨3, 4, 5, -1, 6⟩
        (spiTxnFramed ⟨⟨2, true⟩, true⟩ ⟨3, 4, 5, -1, 6⟩ [0x0A, 0xA7] 260
          (⟨[], [], [], []⟩ : Playback)).trace ∧
      lineLevel 5
        (spiTxnFramed ⟨⟨2, true⟩, true⟩ ⟨3, 4, 5, -1, 6⟩ [0x0A, 0xA7] 260
          (⟨[], [], [], []⟩ : Playback)).trace = some false := by
  decide +kernel

end EzspSpi
