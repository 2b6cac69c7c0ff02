import EzspSpi.Host.Kernel

/-!
# GPIO lines

The line operations of `gpio.c`, and the reset and wake sequences of `board.c`
built from them.  Delays have no counterpart here: the surroundings may change
between any two calls.
-/

namespace EzspSpi

open Program

variable {σ : Type} [Kernel σ]

def gpioSet (fd : Int) (value : Bool) : Host σ Unit := do
  let ok ← call (I := host) (.gpioSetValue fd value)
  if ok then pure () else die

/-- `none` is the `-1` of a failed ioctl. -/
def gpioGet (fd : Int) : Host σ (Option Bool) :=
  call (I := host) (.gpioGetValue fd)

/-- The rounds of `gpio_wait_falling`: the elapsed time, or `none` for `-1`.
It never returns if the rounds go on without a final answer. -/
def gpioWaitRounds : List EdgeWait → Host σ (Option ℕ)
  | [] => halt .stuck
  | .interrupted :: rounds => gpioWaitRounds rounds
  | .rising :: rounds => gpioWaitRounds rounds
  | .failed :: _ => pure none
  | .timeout :: _ => pure none
  | .shortRead :: _ => pure none
  | .falling elapsedMs :: _ => pure (some elapsedMs)

def gpioWaitFalling (fd : Int) (timeoutMs : ℕ) : Host σ (Option ℕ) := do
  let rounds ← call (I := host) (.gpioWaitEdges fd timeoutMs)
  gpioWaitRounds rounds

def gpioDrainEvents (fd : Int) : Host σ Unit :=
  call (I := host) (.gpioDrainEdges fd)

def ncpReset (p : Pins) : Host σ Unit := do
  gpioSet p.wake true
  gpioSet p.reset false
  onlyIf (0 ≤ p.hint) (gpioDrainEvents p.hint)
  gpioSet p.reset true
  onlyIf (0 ≤ p.hint) (discard (gpioWaitFalling p.hint 2000))

def ncpWake (p : Pins) : Host σ Unit :=
  if p.hint < 0 then do
    gpioSet p.wake false
    gpioSet p.wake true
  else do
    let level ← gpioGet p.hint
    -- already asserted: the NCP is awake and has something pending
    if level = some false then pure ()
    else do
      gpioDrainEvents p.hint
      gpioSet p.wake false
      let _ ← gpioWaitFalling p.hint 100
      gpioSet p.wake true

/-! ## What these sequences leave alone -/

theorem gpioSet_emits (fd : Int) (value : Bool) :
    Emits IsGpio (gpioSet fd value : Host σ Unit) :=
  (Emits.call fun _ => trivial).bind fun _ => Emits.ite Emits.pure Emits.halt

theorem gpioGet_emits (fd : Int) :
    Emits IsGpio (gpioGet fd : Host σ (Option Bool)) :=
  Emits.call fun _ => trivial

theorem gpioDrainEvents_emits (fd : Int) :
    Emits IsGpio (gpioDrainEvents fd : Host σ Unit) :=
  Emits.call fun _ => trivial

omit [Kernel σ] in
private theorem gpioWaitRounds_emits (rounds : List EdgeWait) :
    Emits IsGpio (gpioWaitRounds rounds : Host σ (Option ℕ)) := by
  induction rounds with
  | nil => exact Emits.halt
  | cons round rounds ih =>
      cases round with
      | interrupted => exact ih
      | rising => exact ih
      | failed => exact Emits.pure
      | timeout => exact Emits.pure
      | shortRead => exact Emits.pure
      | falling elapsedMs => exact Emits.pure

theorem gpioWaitFalling_emits (fd : Int) (timeoutMs : ℕ) :
    Emits IsGpio (gpioWaitFalling fd timeoutMs : Host σ (Option ℕ)) :=
  (Emits.call fun _ => trivial).bind gpioWaitRounds_emits

theorem ncpReset_emits (p : Pins) :
    Emits IsGpio (ncpReset p : Host σ Unit) := by
  have hwait : Emits IsGpio
      (discard (gpioWaitFalling p.hint 2000) : Host σ Unit) :=
    (gpioWaitFalling_emits _ _).bind fun _ => Emits.pure
  rw [ncpReset]
  apply (gpioSet_emits _ _).bind
  intro _
  apply (gpioSet_emits _ _).bind
  intro _
  apply (gpioDrainEvents_emits _).onlyIf.bind
  intro _
  exact (gpioSet_emits _ _).bind fun _ => hwait.onlyIf

theorem ncpWake_emits (p : Pins) :
    Emits IsGpio (ncpWake p : Host σ Unit) := by
  rw [ncpWake]
  apply Emits.ite
  · exact (gpioSet_emits _ _).bind fun _ => gpioSet_emits _ _
  · apply (gpioGet_emits _).bind
    intro level
    apply Emits.ite Emits.pure
    apply (gpioDrainEvents_emits _).bind
    intro _
    apply (gpioSet_emits _ _).bind
    intro _
    exact (gpioWaitFalling_emits _ _).bind fun _ => gpioSet_emits _ _

end EzspSpi
