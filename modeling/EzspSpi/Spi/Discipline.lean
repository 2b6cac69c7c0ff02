import EzspSpi.Core.Monitor
import EzspSpi.Spi.Transaction

/-!
# Discipline on the bus

Bytes are clocked while the NCP is selected, out of reset and not being woken,
and every command has a selection of its own.  nRESET and nWAKE move between
transactions only.
-/

namespace EzspSpi

open Program

variable {σ : Type} [Kernel σ]

/-! ## The wires -/

/-- The levels of the lines, whether the kernel's own chip select is held, and
whether anything has been clocked since the host's was moved. -/
structure Wires where
  reset : Bool
  wake : Bool
  cs : Bool
  nsselInt : Bool
  held : Bool
  clocked : Bool
  deriving DecidableEq, Repr

namespace Wires

/-- As `pins_open` leaves them. -/
def init : Wires := ⟨true, true, true, true, false, false⟩

def drive (p : Pins) (w : Wires) (fd : Int) (level : Bool) : Wires :=
  { w with
    reset := if fd = p.reset then level else w.reset
    wake := if fd = p.wake then level else w.wake
    cs := if fd = p.cs then level else w.cs
    nsselInt := if fd = p.nsselInt then level else w.nsselInt
    clocked := if fd = p.cs then false else w.clocked }

def clock (w : Wires) (keepCs : Bool) : Wires :=
  { w with held := keepCs, clocked := true }

def step (p : Pins) (w : Wires) : HostEvent → Wires
  | .call (.gpioSetValue fd level) _ => w.drive p fd level
  | .call (.spiTransfer _ _ keepCs) _ => w.clock keepCs
  | _ => w

/-- Neither the host nor the kernel selects the NCP. -/
def Deselected (p : Pins) (w : Wires) : Prop :=
  if 0 ≤ p.cs then w.cs = true else w.held = false

/-- Ready to be clocked, as far as the host drives the lines. -/
structure Selected (g : Globals) (p : Pins) (w : Wires) : Prop where
  reset : w.reset = true
  wake : w.wake = true
  cs : 0 ≤ p.cs → w.cs = false
  nsselInt : 0 ≤ p.nsselInt → g.csFollows = true → w.nsselInt = false

/-- Nothing has been clocked under this selection yet. -/
def Fresh (p : Pins) (w : Wires) : Prop :=
  if 0 ≤ p.cs then w.clocked = false else w.held = false

/-- What may be done to the wires.  A transfer without a receive buffer is a
command. -/
def Permits (g : Globals) (p : Pins) (w : Wires) : HostEvent → Prop
  | .call (.spiTransfer _ keepRx _) _ =>
      Selected g p w ∧ (keepRx = false → Fresh p w)
  | .call (.gpioSetValue fd _) _ =>
      fd = p.reset ∨ fd = p.wake → Deselected p w
  | _ => True

end Wires

def busMonitor (g : Globals) (p : Pins) : Monitor host Wires where
  step := Wires.step p
  rely _ _ := True
  guarantee := Wires.Permits g p

/-- The lines that are held are different lines. -/
structure Pins.Apart (p : Pins) : Prop where
  resetWake : p.reset ≠ p.wake
  csReset : p.cs ≠ p.reset
  csWake : p.cs ≠ p.wake
  nsselIntReset : p.nsselInt ≠ p.reset
  nsselIntWake : p.nsselInt ≠ p.wake
  nsselIntCs : 0 ≤ p.cs → p.nsselInt ≠ p.cs

/-- Between two transactions. -/
structure Wires.AtRest (p : Pins) (w : Wires) : Prop where
  reset : w.reset = true
  wake : w.wake = true
  deselected : w.Deselected p

/-! ## Lines and transfers -/

section Parts

variable {g : Globals} {p : Pins} {A B : Wires → Prop}

theorem gpioSet_orderly {fd : Int} {level : Bool}
    (h : ∀ w, A w → (fd = p.reset ∨ fd = p.wake → w.Deselected p) ∧
      B (w.drive p fd level)) :
    Watched (busMonitor g p) A (gpioSet fd level : Host σ Unit) fun _ => B := by
  rw [gpioSet]
  apply Watched.bind (B := fun _ => B)
  · exact Watched.call fun w ok hw _ => h w hw
  · exact fun ok => Watched.ite (fun _ => Watched.pure fun _ hw => hw) fun _ =>
      Watched.halt

theorem spiRaw_orderly {tx : List Byte} {keepRx keepCs : Bool}
    (h : ∀ w, A w → (w.Selected g p ∧ (keepRx = false → w.Fresh p)) ∧
      B (w.clock keepCs)) :
    Watched (busMonitor g p) A (spiRaw tx keepRx keepCs : Host σ _)
      fun _ => B := by
  rw [spiRaw]
  apply Watched.bind (B := fun _ => B)
  · exact Watched.call fun w got hw _ => h w hw
  · intro got
    cases got with
    | some rx => exact Watched.pure fun _ hw => hw
    | none => exact Watched.halt

theorem spiIdleByte_orderly {keepCs : Bool}
    (h : ∀ w, A w → w.Selected g p ∧ B (w.clock keepCs)) :
    Watched (busMonitor g p) A (spiIdleByte keepCs : Host σ Byte)
      fun _ => B := by
  rw [spiIdleByte]
  apply Watched.bind (B := fun _ => B)
  · apply spiRaw_orderly
    intro w hw
    obtain ⟨hselected, hnext⟩ := h w hw
    exact ⟨⟨hselected, fun hcommand => absurd hcommand.symm
      Bool.false_ne_true⟩, hnext⟩
  · exact fun rx => Watched.pure fun _ hw => hw

/-- Neither moves a line nor clocks anything. -/
def IsMute : HostEvent → Prop
  | .call (.spiTransfer _ _ _) _ => False
  | .call (.gpioSetValue _ _) _ => False
  | _ => True

theorem IsMute.permitted {e : HostEvent} (he : IsMute e) (w : Wires) :
    w.Permits g p e ∧ w.step p e = w := by
  cases e with
  | note n => exact ⟨trivial, rfl⟩
  | call c got =>
      cases c with
      | spiTransfer tx keepRx keepCs => exact he.elim
      | gpioSetValue fd level => exact he.elim
      | _ => exact ⟨trivial, rfl⟩

omit [Kernel σ] in
theorem mute_orderly {α : Type} {m : Host σ α} (hm : Emits IsMute m) :
    Watched (busMonitor g p) A m fun _ => A := by
  apply hm.watched
  intro w e he hw
  obtain ⟨hpermits, hstep⟩ := he.permitted (g := g) (p := p) w
  refine ⟨hpermits, ?_⟩
  change A (w.step p e)
  rwa [hstep]

theorem gpioGet_mute (fd : Int) :
    Emits IsMute (gpioGet fd : Host σ (Option Bool)) :=
  Emits.call fun _ => trivial

theorem gpioDrainEvents_mute (fd : Int) :
    Emits IsMute (gpioDrainEvents fd : Host σ Unit) :=
  Emits.call fun _ => trivial

theorem gpioWaitFalling_mute (fd : Int) (timeoutMs : ℕ) :
    Emits IsMute (gpioWaitFalling fd timeoutMs : Host σ _) := by
  have hrounds (rounds : List EdgeWait) :
      Emits IsMute (gpioWaitRounds rounds : Host σ (Option ℕ)) := by
    induction rounds with
    | nil => exact Emits.halt
    | cons round rounds ih =>
        cases round with
        | interrupted => exact ih
        | rising => exact ih
        | failed => exact Emits.pure
        | timeout => exact Emits.pure
        | shortRead => exact Emits.pure
        | falling elapsedMs => exact Emits.pure
  exact (Emits.call fun _ => trivial).bind hrounds

end Parts

/-! ## Reset and wake -/

section Sequences

variable (g : Globals) {p : Pins} (hp : p.Apart)

include hp

/-- A pulse on nWAKE, with whatever is waited for in it. -/
theorem wakePulse_orderly {α : Type} {m : Host σ α} (hm : Emits IsMute m) :
    Watched (busMonitor g p) (Wires.AtRest p) (do
      gpioSet p.wake false
      let _ ← m
      gpioSet p.wake true : Host σ Unit) fun _ => Wires.AtRest p := by
  have hreset := hp.resetWake.symm
  have hcs := hp.csWake.symm
  let Waking (w : Wires) : Prop := w.reset = true ∧ w.Deselected p
  apply Watched.bind (B := fun _ => Waking)
  · apply gpioSet_orderly
    intro w hw
    refine ⟨fun _ => hw.deselected, ?_, ?_⟩
    · simp [Wires.drive, hreset, hw.reset]
    · simpa [Wires.Deselected, Wires.drive, hcs] using hw.deselected
  intro _
  apply Watched.bind (mute_orderly hm)
  intro _
  apply gpioSet_orderly
  rintro w ⟨hhigh, hdeselected⟩
  refine ⟨fun _ => hdeselected, ?_, ?_, ?_⟩
  · simp [Wires.drive, hreset, hhigh]
  · simp [Wires.drive]
  · simpa [Wires.Deselected, Wires.drive, hcs] using hdeselected

theorem ncpWake_orderly :
    Watched (busMonitor g p) (Wires.AtRest p) (ncpWake p : Host σ Unit)
      fun _ => Wires.AtRest p := by
  rw [ncpWake]
  split
  · have hpulse := wakePulse_orderly (σ := σ) g hp
      (Emits.pure (a := ()))
    exact hpulse
  · apply Watched.bind (mute_orderly (gpioGet_mute _))
    intro level
    apply Watched.ite
    · exact fun _ => Watched.pure fun _ hw => hw
    · intro _
      apply Watched.bind (mute_orderly (gpioDrainEvents_mute _))
      exact fun _ => wakePulse_orderly g hp (gpioWaitFalling_mute _ _)

theorem ncpReset_orderly :
    Watched (busMonitor g p) (Wires.AtRest p) (ncpReset p : Host σ Unit)
      fun _ => Wires.AtRest p := by
  have hwake := hp.resetWake.symm
  have hwake' := hp.resetWake
  have hcs := hp.csWake.symm
  have hcs' := hp.csReset.symm
  let Resetting (w : Wires) : Prop := w.wake = true ∧ w.Deselected p
  rw [ncpReset]
  apply Watched.bind (B := fun _ => Wires.AtRest p)
  · apply gpioSet_orderly
    intro w hw
    refine ⟨fun _ => hw.deselected, ?_, ?_, ?_⟩
    · simp [Wires.drive, hwake, hw.reset]
    · simp [Wires.drive]
    · simpa [Wires.Deselected, Wires.drive, hcs] using hw.deselected
  intro _
  apply Watched.bind (B := fun _ => Resetting)
  · apply gpioSet_orderly
    intro w hw
    refine ⟨fun _ => hw.deselected, ?_, ?_⟩
    · simp [Wires.drive, hwake', hw.wake]
    · simpa [Wires.Deselected, Wires.drive, hcs'] using hw.deselected
  intro _
  apply Watched.bind
  · exact Watched.onlyIf fun _ => mute_orderly (gpioDrainEvents_mute _)
  intro _
  apply Watched.bind (B := fun _ => Wires.AtRest p)
  · apply gpioSet_orderly
    rintro w ⟨hhigh, hdeselected⟩
    refine ⟨fun _ => hdeselected, ?_, ?_, ?_⟩
    · simp [Wires.drive]
    · simp [Wires.drive, hwake', hhigh]
    · simpa [Wires.Deselected, Wires.drive, hcs'] using hdeselected
  intro _
  apply Watched.onlyIf
  intro _
  apply mute_orderly
  exact (gpioWaitFalling_mute _ _).bind fun _ => Emits.pure

/-! ## Transactions -/

theorem csAssert_orderly :
    Watched (busMonitor g p) (Wires.AtRest p) (csAssert g p : Host σ Unit)
      fun _ w => w.Selected g p ∧ w.Fresh p := by
  let Chosen (w : Wires) : Prop := w.reset = true ∧ w.wake = true ∧
    (0 ≤ p.cs → w.cs = false) ∧ w.Fresh p
  have hcsReset := hp.csReset
  have hcsWake := hp.csWake
  have hnsselReset := hp.nsselIntReset
  have hnsselWake := hp.nsselIntWake
  apply Watched.bind (B := fun _ => Chosen)
  · apply Watched.ite
    · intro hhost
      apply gpioSet_orderly
      intro w hw
      refine ⟨fun _ => hw.deselected, ?_, ?_, ?_, ?_⟩
      · simp [Wires.drive, hcsReset, hw.reset]
      · simp [Wires.drive, hcsWake, hw.wake]
      · simp [Wires.drive]
      · simp [Wires.Fresh, Wires.drive, hhost]
    · intro hkernel
      apply Watched.pure
      intro w hw
      have hdeselected := hw.deselected
      rw [Wires.Deselected, if_neg hkernel] at hdeselected
      refine ⟨hw.reset, hw.wake, fun h => absurd h hkernel, ?_⟩
      rwa [Wires.Fresh, if_neg hkernel]
  · intro _
    apply Watched.ite
    · rintro ⟨hheld, hfollows⟩
      apply gpioSet_orderly
      rintro w ⟨hreset, hwake, hcs, hfresh⟩
      refine ⟨?_, ⟨?_, ?_, ?_, ?_⟩, ?_⟩
      · rintro (h | h)
        · exact absurd h hnsselReset
        · exact absurd h hnsselWake
      · simp [Wires.drive, hnsselReset, hreset]
      · simp [Wires.drive, hnsselWake, hwake]
      · intro hhost
        simp [Wires.drive, hcs hhost]
      · simp [Wires.drive]
      · rw [Wires.Fresh] at hfresh ⊢
        split
        · rename_i hhost
          rw [if_pos hhost] at hfresh
          simp [Wires.drive, hfresh]
        · rename_i hkernel
          rw [if_neg hkernel] at hfresh
          exact hfresh
    · intro hnot
      apply Watched.pure
      rintro w ⟨hreset, hwake, hcs, hfresh⟩
      refine ⟨⟨hreset, hwake, hcs, fun hheld hfollows => ?_⟩, hfresh⟩
      exact absurd ⟨hheld, hfollows⟩ hnot

theorem csRelease_orderly :
    Watched (busMonitor g p)
      (fun w => w.Selected g p ∧ (p.cs < 0 → w.held = false))
      (csRelease g p : Host σ Unit) fun _ => Wires.AtRest p := by
  have hcsReset := hp.csReset
  have hcsWake := hp.csWake
  have hnsselReset := hp.nsselIntReset
  have hnsselWake := hp.nsselIntWake
  apply Watched.bind (B := fun _ => Wires.AtRest p)
  · apply Watched.ite
    · intro hhost
      apply gpioSet_orderly
      rintro w ⟨hw, -⟩
      refine ⟨?_, ?_, ?_, ?_⟩
      · rintro (h | h)
        · exact absurd h hcsReset
        · exact absurd h hcsWake
      · simp [Wires.drive, hcsReset, hw.reset]
      · simp [Wires.drive, hcsWake, hw.wake]
      · simp [Wires.Deselected, Wires.drive, hhost]
    · intro hkernel
      apply Watched.pure
      rintro w ⟨hw, hheld⟩
      refine ⟨hw.reset, hw.wake, ?_⟩
      rw [Wires.Deselected, if_neg hkernel]
      exact hheld (not_le.mp hkernel)
  · intro _
    apply Watched.ite
    · rintro ⟨hheld, hfollows⟩
      apply gpioSet_orderly
      intro w hw
      refine ⟨fun _ => hw.deselected, ?_, ?_, ?_⟩
      · simp [Wires.drive, hnsselReset, hw.reset]
      · simp [Wires.drive, hnsselWake, hw.wake]
      · have hdeselected := hw.deselected
        rw [Wires.Deselected] at hdeselected ⊢
        split
        · rename_i hhost
          rw [if_pos hhost] at hdeselected
          simp [Wires.drive, hp.nsselIntCs hhost, hdeselected]
        · rename_i hkernel
          rw [if_neg hkernel] at hdeselected
          exact hdeselected
    · exact fun _ => Watched.pure fun _ hw => hw

omit hp in
/-- Clocking leaves the lines alone. -/
theorem Wires.Selected.clock {w : Wires} (hw : w.Selected g p)
    (keepCs : Bool) : (w.clock keepCs).Selected g p :=
  ⟨hw.reset, hw.wake, hw.cs, hw.nsselInt⟩

omit hp in
theorem idle_orderly (keepCs : Bool) :
    Watched (busMonitor g p) (Wires.Selected g p)
      (spiIdleByte keepCs : Host σ Byte) fun _ w =>
        w.Selected g p ∧ w.held = keepCs :=
  spiIdleByte_orderly fun _ hw => ⟨hw, hw.clock g keepCs, rfl⟩

omit hp in
theorem waitStates_orderly (rounds : ℕ) :
    Watched (busMonitor g p) (Wires.Selected g p)
      (waitStates rounds : Host σ Byte) fun _ => Wires.Selected g p := by
  induction rounds with
  | zero => exact Watched.pure fun _ hw => hw
  | succ rounds ih =>
      rw [waitStates]
      apply Watched.bind (B := fun _ => Wires.Selected g p)
      · exact (idle_orderly g true).mono (fun _ hw => hw) fun _ _ hw => hw.1
      · intro b
        apply Watched.ite
        · exact fun _ => Watched.pure fun _ hw => hw
        · exact fun _ => ih

omit hp in
theorem responseHead_orderly (b : Byte) (rxlen : ℕ) :
    Watched (busMonitor g p) (Wires.Selected g p)
      (responseHead b rxlen : Host σ _) fun _ => Wires.Selected g p := by
  have hpure (head : List Byte × ℕ) : Watched (busMonitor g p)
      (Wires.Selected g p) (pure head : Host σ _)
      fun _ => Wires.Selected g p := Watched.pure fun _ hw => hw
  rw [responseHead]
  apply Watched.ite
  · intro _
    apply Watched.ite
    · intro _
      apply Watched.bind (idle_orderly g true)
      exact fun len => Watched.pure fun _ hw => hw.1
    · exact fun _ => hpure _
  · intro _
    apply Watched.ite
    · exact fun _ => hpure _
    · exact fun _ => hpure _

omit hp in
/-- The last transfer releases the kernel's chip select. -/
theorem responseTail_orderly (remain : ℕ) :
    Watched (busMonitor g p) (Wires.Selected g p)
      (responseTail p remain : Host σ _) fun _ w =>
        w.Selected g p ∧ (p.cs < 0 → w.held = false) := by
  rw [responseTail]
  apply Watched.ite
  · intro _
    apply spiRaw_orderly
    intro w hw
    refine ⟨⟨hw, fun h => absurd h.symm Bool.false_ne_true⟩,
      hw.clock g _, ?_⟩
    intro hkernel
    exact decide_eq_false (not_le.mpr hkernel)
  · intro _
    apply Watched.ite
    · intro _
      apply Watched.bind (idle_orderly g false)
      exact fun b => Watched.pure fun _ hw => ⟨hw.1, fun _ => hw.2⟩
    · intro hhost
      exact Watched.pure fun _ hw => ⟨hw, fun hkernel => absurd hkernel hhost⟩

theorem spiTxnFramed_orderly (tx : List Byte) (rxlen : ℕ) :
    Watched (busMonitor g p) (Wires.AtRest p)
      (spiTxnFramed g p tx rxlen : Host σ _) fun _ => Wires.AtRest p := by
  rw [spiTxnFramed]
  apply Watched.bind (csAssert_orderly g hp)
  intro _
  apply Watched.bind (B := fun _ => Wires.Selected g p)
  · apply Watched.ite
    · intro _
      apply Watched.bind (B := fun _ => Wires.Selected g p)
      · apply spiRaw_orderly
        intro w hw
        exact ⟨⟨hw.1, fun _ => hw.2⟩, hw.1.clock g true⟩
      · exact fun _ => Watched.pure fun _ hw => hw
    · exact fun _ => Watched.pure fun _ hw => hw.1
  intro _
  apply Watched.bind (waitStates_orderly g _)
  intro b
  apply Watched.ite
  · intro _
    have hquit {m : Host σ Unit} (hm : Watched (busMonitor g p)
        (Wires.Selected g p) m fun _ => Wires.AtRest p) :
        Watched (busMonitor g p) (Wires.Selected g p) (do
          m
          pure (0, rxBuffer [] rxlen) : Host σ _) fun _ => Wires.AtRest p :=
      hm.bind fun _ => Watched.pure fun _ hw => hw
    dsimp only
    apply Watched.ite
    · intro hhost
      apply hquit
      exact (csRelease_orderly g hp).mono (fun w hw =>
        ⟨hw, fun hkernel => absurd hhost (not_le.mpr hkernel)⟩) fun _ _ hw => hw
    · intro hkernel
      apply hquit
      apply Watched.bind (idle_orderly g false)
      intro b
      apply Watched.pure
      rintro w ⟨hw, hheld⟩
      refine ⟨hw.reset, hw.wake, ?_⟩
      rwa [Wires.Deselected, if_neg hkernel]
  · intro _
    apply Watched.bind (responseHead_orderly g b rxlen)
    rintro ⟨head, remain⟩
    apply Watched.bind (responseTail_orderly g _)
    intro tail
    apply Watched.bind (csRelease_orderly g hp)
    exact fun _ => Watched.pure fun _ hw => hw

theorem doCmd_orderly (tx : List Byte) (rxlen : ℕ) (retryOnReset : Bool) :
    Watched (busMonitor g p) (Wires.AtRest p)
      (doCmd g p tx rxlen retryOnReset : Host σ _)
      fun _ => Wires.AtRest p := by
  have honce : Watched (busMonitor g p) (Wires.AtRest p)
      (doCmdOnce g p tx rxlen : Host σ _) fun _ => Wires.AtRest p := by
    rw [doCmdOnce]
    apply Watched.bind
    · exact Watched.onlyIf fun _ => ncpWake_orderly g hp
    intro _
    apply Watched.bind (spiTxnFramed_orderly g hp tx rxlen)
    exact fun _ => Watched.pure fun _ hw => hw
  rw [doCmd]
  apply honce.bind
  rintro ⟨cls, rx⟩
  apply Watched.ite
  · exact fun _ => honce
  · exact fun _ => Watched.pure fun _ hw => hw

end Sequences

end EzspSpi
