import EzspSpi.Board.Pins
import EzspSpi.Core.Monitor
import EzspSpi.Host.Playback
import EzspSpi.Spi.Framing

/-!
# Booting the application

The NCP boots its bootloader if nRESET is released while nWAKE is low.  The
lines keep the level they were last driven to, also past the end of a process,
and a process may be killed between any two operations; still nRESET and nWAKE
are never both low.
-/

namespace EzspSpi

open Program

variable {σ : Type} [Kernel σ]

/-! ## The lines -/

/-- The level of every line, and the lines this process holds under which
descriptors. -/
structure Lines where
  level : BitVec 32 → Bool
  held : List (Int × BitVec 32)

/-- The line an event hands out, with its descriptor. -/
def handedOut : HostEvent → Option (Int × BitVec 32)
  | .call (.requestOutput offset _) (some fd) => some (fd, offset)
  | .call (.requestInputEdges offset) (some fd) => some (fd, offset)
  | _ => none

def closedFd : HostEvent → Option Int
  | .call (.close fd) _ => some fd
  | _ => none

def holdStep (held : List (Int × BitVec 32)) (e : HostEvent) :
    List (Int × BitVec 32) :=
  (handedOut e).toList ++
    held.filter fun h => decide (closedFd e ≠ some h.1)

/-- The line an event drives, and the level it drives it to. -/
def drives (held : List (Int × BitVec 32)) :
    HostEvent → Option (BitVec 32 × Bool)
  | .call (.requestOutput offset high) (some _) => some (offset, high)
  | .call (.gpioSetValue fd high) true =>
      (held.lookup fd).map fun offset => (offset, high)
  | _ => none

def Lines.step (L : Lines) (e : HostEvent) : Lines where
  level := match drives L.held e with
    | some (offset, high) => Function.update L.level offset high
    | none => L.level
  held := holdStep L.held e

/-- A line is handed out only while it is free, and under a descriptor that
is free. -/
def Fresh (held : List (Int × BitVec 32)) (e : HostEvent) : Prop :=
  ∀ h ∈ handedOut e, h.1 ∉ held.map Prod.fst ∧ h.2 ∉ held.map Prod.snd

instance (held : List (Int × BitVec 32)) (e : HostEvent) :
    Decidable (Fresh held e) :=
  inferInstanceAs (Decidable (∀ h ∈ handedOut e, _))

/-- The kernel hands out lines and descriptors to one holder at a time. -/
def Exclusive : List (Int × BitVec 32) → List HostEvent → Prop
  | _, [] => True
  | held, e :: t => Fresh held e ∧ Exclusive (holdStep held e) t

instance decidableExclusive : (held : List (Int × BitVec 32)) →
    (t : List HostEvent) → Decidable (Exclusive held t)
  | _, [] => inferInstanceAs (Decidable True)
  | held, e :: t =>
      have := decidableExclusive (holdStep held e) t
      inferInstanceAs (Decidable (_ ∧ _))

/-- The lines a board has nRESET and nWAKE on. -/
structure Wiring where
  reset : BitVec 32
  wake : BitVec 32

/-- nRESET goes from low to high while nWAKE is low: the bootloader's entry
condition. -/
def EntersBootloader (W : Wiring) (L : Lines) (e : HostEvent) : Prop :=
  L.level W.reset = false ∧ (L.step e).level W.reset = true ∧
    L.level W.wake = false

/-! ## Processes -/

/-- What a process does with the lines once they are open; `select` is the
chip select around its transfers. -/
inductive LineOp where
  | reset
  | wake
  | select (level : Bool)
  deriving DecidableEq, Repr

def lineOps (g : Globals) (p : Pins) : List LineOp → Host σ Unit
  | [] => pure ()
  | .reset :: ops => do
      ncpReset p
      lineOps g p ops
  | .wake :: ops => do
      ncpWake p
      lineOps g p ops
  | .select level :: ops => do
      csDrive g p level
      lineOps g p ops

def process (c : Cfg) (lines : LineCfg) (ops : List LineOp) : Host σ Pins := do
  let (p, csFollows) ← pinsOpen lines
  lineOps ⟨c, csFollows⟩ p ops
  pinsClose p

/-- The life of one process: its settings, what it does, the surroundings it
starts in, and after how many events it is killed, if it has not ended. -/
structure Life (σ : Type) where
  c : Cfg
  lines : LineCfg
  ops : List LineOp
  world : σ
  survived : ℕ

/-- The settings as `pins_autodetect` leaves them. -/
def settledLines (name : Option (List Byte)) (lines : LineCfg) : LineCfg :=
  (boardDetect name).elim lines fun b => boardLines b lines

namespace Life

def trace (l : Life σ) : List HostEvent :=
  (process l.c l.lines l.ops l.world).trace.take l.survived

/-- The process takes these lines for nRESET and nWAKE. -/
def Wired (W : Wiring) (l : Life σ) : Prop :=
  let name := (Surroundings.answer (I := host) .boardName l.world).1
  (settledLines name l.lines).resetLine = W.reset ∧
    (settledLines name l.lines).wakeLine = W.wake

/-- The lines after a process: it holds none any more, and they keep their
level. -/
def leaves (L : Lines) (l : Life σ) : Lines where
  level := (l.trace.foldl Lines.step L).level
  held := []

end Life

/-! ## Where the levels are in between -/

/-- nRESET and nWAKE are not both low. -/
def Apart (W : Wiring) (L : Lines) : Prop :=
  L.level W.reset = true ∨ L.level W.wake = true

/-- The bootloader is not entered, and the lines are not both low after. -/
def bootMonitor (W : Wiring) : Monitor host Lines where
  step := Lines.step
  rely L e := Fresh L.held e
  guarantee L e := ¬EntersBootloader W L e ∧ Apart W (L.step e)

theorem relied_iff_exclusive {W : Wiring} {L : Lines} {t : List HostEvent} :
    (bootMonitor W).Relied L t ↔ Exclusive L.held t := by
  induction t generalizing L with
  | nil => rfl
  | cons e t ih => exact and_congr_right fun _ => ih

/-- Another line of this process. -/
def Other (W : Wiring) (L : Lines) (fd : Int) : Prop :=
  ∀ offset ∈ L.held.lookup fd, offset ≠ W.reset ∧ offset ≠ W.wake

/-- The same of a line that may have been refused. -/
def Spare (W : Wiring) (L : Lines) (fd : Int) : Prop := 0 ≤ fd → Other W L fd

/-- The process holds nRESET and nWAKE, and they are at these levels. -/
structure At (W : Wiring) (p : Pins) (reset wake : Bool) (L : Lines) :
    Prop where
  heldReset : L.held.lookup p.reset = some W.reset
  heldWake : L.held.lookup p.wake = some W.wake
  distinct : W.reset ≠ W.wake
  nsselInt : Spare W L p.nsselInt
  cs : Spare W L p.cs
  levelReset : L.level W.reset = reset
  levelWake : L.level W.wake = wake

/-- An event that neither drives a line nor hands one out or takes one
back. -/
structure LeavesLines (e : HostEvent) : Prop where
  drives : ∀ held, drives held e = none
  handedOut : handedOut e = none
  closed : closedFd e = none

theorem LeavesLines.step {e : HostEvent} (he : LeavesLines e) (L : Lines) :
    L.step e = L := by
  have hheld : holdStep L.held e = L.held := by
    rw [holdStep, he.handedOut, he.closed]
    exact List.filter_eq_self.mpr fun _ _ => rfl
  rw [Lines.step, he.drives, hheld]

theorem held_lineSet (L : Lines) (fd : Int) (value : Bool) :
    (L.step (lineSet fd value)).held = L.held :=
  List.filter_eq_self.mpr fun _ _ => rfl

theorem level_lineSet {L : Lines} {fd : Int} {offset : BitVec 32}
    (hfd : L.held.lookup fd = some offset) (value : Bool) :
    (L.step (lineSet fd value)).level =
      Function.update L.level offset value := by
  simp [Lines.step, drives, lineSet, hfd]

namespace At

variable {W : Wiring} {p : Pins} {reset wake : Bool} {L : Lines}

theorem apart (hL : At W p reset wake L) (hhigh : reset = true ∨ wake = true) :
    Apart W L := by
  rw [Apart, hL.levelReset, hL.levelWake]
  exact hhigh

/-- The same lines are held, and their levels are these. -/
theorem congr (hL : At W p reset wake L) {L' : Lines} {reset' wake' : Bool}
    (hheld : L'.held = L.held) (hreset : L'.level W.reset = reset')
    (hwake : L'.level W.wake = wake') : At W p reset' wake' L' where
  heldReset := hheld ▸ hL.heldReset
  heldWake := hheld ▸ hL.heldWake
  distinct := hL.distinct
  nsselInt hfd := by
    rw [Other, hheld]
    exact hL.nsselInt hfd
  cs hfd := by
    rw [Other, hheld]
    exact hL.cs hfd
  levelReset := hreset
  levelWake := hwake

theorem setReset (hL : At W p reset wake L) (value : Bool) :
    At W p value wake (L.step (lineSet p.reset value)) := by
  apply hL.congr (held_lineSet L _ _)
  · rw [level_lineSet hL.heldReset, Function.update_self]
  · rw [level_lineSet hL.heldReset,
      Function.update_of_ne hL.distinct.symm, hL.levelWake]

theorem setWake (hL : At W p reset wake L) (value : Bool) :
    At W p reset value (L.step (lineSet p.wake value)) := by
  apply hL.congr (held_lineSet L _ _)
  · rw [level_lineSet hL.heldWake, Function.update_of_ne hL.distinct,
      hL.levelReset]
  · rw [level_lineSet hL.heldWake, Function.update_self]

theorem setOther (hL : At W p reset wake L) {fd : Int} (hfd : Other W L fd)
    (value : Bool) : At W p reset wake (L.step (lineSet fd value)) := by
  cases hlookup : L.held.lookup fd with
  | none =>
      have hlevel : (L.step (lineSet fd value)).level = L.level := by
        simp [Lines.step, drives, lineSet, hlookup]
      apply hL.congr (held_lineSet L _ _)
      · rw [hlevel, hL.levelReset]
      · rw [hlevel, hL.levelWake]
  | some offset =>
      obtain ⟨hreset, hwake⟩ := hfd offset hlookup
      apply hL.congr (held_lineSet L _ _)
      · rw [level_lineSet hlookup, Function.update_of_ne hreset.symm,
          hL.levelReset]
      · rw [level_lineSet hlookup, Function.update_of_ne hwake.symm,
          hL.levelWake]

end At

section Levels

variable {W : Wiring}

/-- An event that drives no line. -/
theorem guarantee_of_no_drive {L : Lines} {e : HostEvent}
    (he : drives L.held e = none) (hL : Apart W L) :
    (bootMonitor W).guarantee L e := by
  have hlevel : (L.step e).level = L.level := by
    rw [Lines.step, he]
  constructor
  · rintro ⟨hlow, hhigh, _⟩
    rw [hlevel, hlow] at hhigh
    exact Bool.false_ne_true hhigh
  · rw [Apart, hlevel]
    exact hL

omit [Kernel σ] in
/-- Events that leave the lines alone, as long as these are not both low. -/
theorem Emits.leaves_lines {α : Type} {m : Host σ α} {A : Lines → Prop}
    (hm : Emits LeavesLines m) (hA : ∀ L, A L → Apart W L) :
    Watched (bootMonitor W) A m fun _ => A := by
  apply hm.watched
  intro L e he hL
  have hstep : (bootMonitor W).step L e = L := he.step L
  exact ⟨guarantee_of_no_drive (he.drives _) (hA L hL), hstep.symm ▸ hL⟩

/-- Driving a line is driving it, or dying with the line as it was. -/
theorem gpioSet_watched {A B : Lines → Prop} {fd : Int} {value : Bool}
    (hA : ∀ L, A L → Apart W L)
    (hset : ∀ L, A L → ¬EntersBootloader W L (lineSet fd value) ∧
      Apart W (L.step (lineSet fd value)) ∧ B (L.step (lineSet fd value))) :
    Watched (bootMonitor W) A (gpioSet fd value : Host σ Unit)
      fun _ => B := by
  rw [gpioSet]
  apply Watched.bind (B := fun ok L => ok = true → B L)
  · apply Watched.call
    intro L ok hL _
    cases ok with
    | true =>
        obtain ⟨henters, hapart, hB⟩ := hset L hL
        exact ⟨⟨henters, hapart⟩, fun _ => hB⟩
    | false =>
        exact ⟨guarantee_of_no_drive rfl (hA L hL),
          fun hok => absurd hok Bool.false_ne_true⟩
  · intro ok
    cases ok with
    | true => exact Watched.pure fun L hL => hL rfl
    | false => exact Watched.halt

/-- nRESET may be driven while nWAKE is high. -/
theorem setReset_watched {p : Pins} {reset : Bool} (value : Bool) :
    Watched (bootMonitor W) (At W p reset true)
      (gpioSet p.reset value : Host σ Unit) fun _ => At W p value true := by
  apply gpioSet_watched
  · exact fun L hL => hL.apart (Or.inr rfl)
  · intro L hL
    refine ⟨?_, (hL.setReset value).apart (Or.inr rfl), hL.setReset value⟩
    rintro ⟨_, _, hlow⟩
    rw [hL.levelWake] at hlow
    exact Bool.false_ne_true hlow.symm

/-- nWAKE may be driven while nRESET is high. -/
theorem setWake_watched {p : Pins} {wake : Bool} (value : Bool) :
    Watched (bootMonitor W) (At W p true wake)
      (gpioSet p.wake value : Host σ Unit) fun _ => At W p true value := by
  apply gpioSet_watched
  · exact fun L hL => hL.apart (Or.inl rfl)
  · intro L hL
    refine ⟨?_, (hL.setWake value).apart (Or.inl rfl), hL.setWake value⟩
    rintro ⟨hlow, _, _⟩
    rw [hL.levelReset] at hlow
    exact Bool.false_ne_true hlow.symm

/-- Any other line of the process may be driven. -/
theorem setOther_watched {p : Pins} {fd : Int} (value : Bool)
    (hfd : ∀ L, At W p true true L → Other W L fd) :
    Watched (bootMonitor W) (At W p true true)
      (gpioSet fd value : Host σ Unit) fun _ => At W p true true := by
  apply gpioSet_watched
  · exact fun L hL => hL.apart (Or.inl rfl)
  · intro L hL
    have hset := hL.setOther (hfd L hL) value
    refine ⟨?_, hset.apart (Or.inl rfl), hset⟩
    rintro ⟨hlow, _, _⟩
    rw [hL.levelReset] at hlow
    exact Bool.false_ne_true hlow.symm

omit [Kernel σ] in
private theorem gpioWaitRounds_leaves (rounds : List EdgeWait) :
    Emits LeavesLines (gpioWaitRounds rounds : Host σ (Option ℕ)) := by
  induction rounds with
  | nil => exact Emits.halt
  | cons round rounds ih =>
      cases round with
      | interrupted => exact ih
      | rising => exact ih
      | failed => exact Emits.pure
      | timeout => exact Emits.pure
      | shortRead => exact Emits.pure
      | falling elapsedMs => exact Emits.pure

theorem gpioWaitFalling_leaves (fd : Int) (timeoutMs : ℕ) :
    Emits LeavesLines (gpioWaitFalling fd timeoutMs : Host σ (Option ℕ)) :=
  (Emits.call fun _ => ⟨fun _ => rfl, rfl, rfl⟩).bind gpioWaitRounds_leaves

theorem gpioDrainEvents_watched {A : Lines → Prop} (fd : Int)
    (hA : ∀ L, A L → Apart W L) :
    Watched (bootMonitor W) A (gpioDrainEvents fd : Host σ Unit)
      fun _ => A :=
  Emits.leaves_lines (Emits.call fun _ => ⟨fun _ => rfl, rfl, rfl⟩) hA

/-! ## The sequences of the program -/

/-- Both lines high. -/
theorem At.high {p : Pins} {reset : Bool} {L : Lines}
    (hL : At W p reset true L) : Apart W L := hL.apart (Or.inr rfl)

theorem ncpReset_watched (p : Pins) :
    Watched (bootMonitor W) (At W p true true) (ncpReset p : Host σ Unit)
      fun _ => At W p true true := by
  rw [ncpReset]
  apply (setWake_watched true).bind
  intro _
  apply (setReset_watched false).bind
  intro _
  have hdrain : Watched (bootMonitor W) (At W p false true)
      (gpioDrainEvents p.hint : Host σ Unit) fun _ => At W p false true :=
    gpioDrainEvents_watched _ fun _ hL => hL.high
  apply (Watched.onlyIf fun _ => hdrain).bind
  intro _
  apply (setReset_watched true).bind
  intro _
  have hwait : Emits LeavesLines
      (discard (gpioWaitFalling p.hint 2000) : Host σ Unit) :=
    (gpioWaitFalling_leaves _ _).bind fun _ => Emits.pure
  exact Watched.onlyIf fun _ => Emits.leaves_lines hwait fun _ hL => hL.high

theorem ncpWake_watched (p : Pins) :
    Watched (bootMonitor W) (At W p true true) (ncpWake p : Host σ Unit)
      fun _ => At W p true true := by
  rw [ncpWake]
  apply Watched.ite
  · intro _
    exact (setWake_watched false).bind fun _ => setWake_watched true
  · intro _
    have hlook : Watched (bootMonitor W) (At W p true true)
        (gpioGet p.hint : Host σ (Option Bool)) fun _ => At W p true true :=
      Emits.leaves_lines (Emits.call fun _ => ⟨fun _ => rfl, rfl, rfl⟩)
        fun _ hL => hL.high
    apply hlook.bind
    intro level
    apply Watched.ite
    · exact fun _ => Watched.pure fun _ hL => hL
    · intro _
      apply (gpioDrainEvents_watched _ fun _ hL => hL.high).bind
      intro _
      apply (setWake_watched false).bind
      intro _
      have hwait : Watched (bootMonitor W) (At W p true false)
          (gpioWaitFalling p.hint 100 : Host σ (Option ℕ))
          fun _ => At W p true false :=
        Emits.leaves_lines (gpioWaitFalling_leaves _ _)
          fun _ hL => hL.apart (Or.inl rfl)
      exact hwait.bind fun _ => setWake_watched true

theorem csDrive_watched (g : Globals) (p : Pins) (level : Bool) :
    Watched (bootMonitor W) (At W p true true)
      (csDrive g p level : Host σ Unit) fun _ => At W p true true := by
  rw [csDrive]
  apply Watched.bind (B := fun _ => At W p true true)
  · exact Watched.onlyIf fun hcs => setOther_watched level fun _ hL => hL.cs hcs
  · intro _
    exact Watched.onlyIf fun hnssel =>
      setOther_watched level fun _ hL => hL.nsselInt hnssel.1

theorem lineOps_watched (g : Globals) (p : Pins) (ops : List LineOp) :
    Watched (bootMonitor W) (At W p true true)
      (lineOps g p ops : Host σ Unit) fun _ => At W p true true := by
  induction ops with
  | nil => exact Watched.pure fun _ hL => hL
  | cons op ops ih =>
      cases op with
      | reset => exact (ncpReset_watched p).bind fun _ => ih
      | wake => exact (ncpWake_watched p).bind fun _ => ih
      | select level => exact (csDrive_watched g p level).bind fun _ => ih

/-! ## Opening and closing -/

/-- A line handed out besides nRESET and nWAKE is another one. -/
theorem At.handedOut {p : Pins} {reset wake : Bool} {L : Lines}
    (hL : At W p reset wake L) {e : HostEvent} {fd : Int}
    {offset : BitVec 32} (he : handedOut e = some (fd, offset))
    (hclosed : closedFd e = none) (hfresh : Fresh L.held e)
    (hdrives : ∀ d ∈ drives L.held e, d.1 = offset) :
    At W p reset wake (L.step e) ∧ Other W (L.step e) fd := by
  have hheld : (L.step e).held = (fd, offset) :: L.held := by
    rw [Lines.step, holdStep, he, hclosed]
    exact congrArg _ (List.filter_eq_self.mpr fun _ _ => rfl)
  obtain ⟨hfd, hoffset⟩ := hfresh _ he
  have hmem {fd' : Int} {offset' : BitVec 32}
      (hheld' : L.held.lookup fd' = some offset') :
      (fd', offset') ∈ L.held := by
    obtain ⟨l₁, l₂, hsplit, _⟩ := List.lookup_eq_some_iff.mp hheld'
    rw [hsplit]
    exact List.mem_append_right l₁ List.mem_cons_self
  have hne {fd' : Int} {offset' : BitVec 32}
      (hheld' : L.held.lookup fd' = some offset') :
      fd' ≠ fd ∧ offset ≠ offset' := by
    constructor
    · exact fun heq => hfd (List.mem_map.mpr ⟨_, hmem hheld', heq⟩)
    · exact fun heq => hoffset (List.mem_map.mpr ⟨_, hmem hheld', heq.symm⟩)
  have hlookup {fd' : Int} (hfd' : fd' ≠ fd) :
      (L.step e).held.lookup fd' = L.held.lookup fd' := by
    rw [hheld, List.lookup_cons, beq_false_of_ne hfd']
  have hlevel {line : BitVec 32} (hline : offset ≠ line) :
      (L.step e).level line = L.level line := by
    rw [Lines.step]
    cases hdrive : drives L.held e with
    | none => rfl
    | some d =>
        have heq := hdrives d hdrive
        subst heq
        exact Function.update_of_ne hline.symm _ _
  have hself : Other W (L.step e) fd := by
    intro offset' hoffset'
    rw [hheld, List.lookup_cons_self] at hoffset'
    cases hoffset'
    exact ⟨(hne hL.heldReset).2, (hne hL.heldWake).2⟩
  have hother {fd' : Int} (hfd' : Other W L fd') : Other W (L.step e) fd' := by
    by_cases heq : fd' = fd
    · exact heq ▸ hself
    · rw [Other, hlookup heq]
      exact hfd'
  refine ⟨⟨?_, ?_, hL.distinct, fun h => hother (hL.nsselInt h),
    fun h => hother (hL.cs h), ?_, ?_⟩, hself⟩
  · rw [hlookup (hne hL.heldReset).1, hL.heldReset]
  · rw [hlookup (hne hL.heldWake).1, hL.heldWake]
  · rw [hlevel (hne hL.heldReset).2, hL.levelReset]
  · rw [hlevel (hne hL.heldWake).2, hL.levelWake]

/-- A line requested as an output and handed out. -/
def granted (offset : BitVec 32) (value : Bool) (fd : ℕ) : HostEvent :=
  .call (.requestOutput offset value) (some fd)

/-- A request is granted, or the process dies with the lines as they were. -/
theorem gpioRequestOutput_watched {A : Lines → Prop} {B : Int → Lines → Prop}
    {offset : BitVec 32} {value : Bool} (hA : ∀ L, A L → Apart W L)
    (hgrant : ∀ L (fd : ℕ), A L → Fresh L.held (granted offset value fd) →
      (bootMonitor W).guarantee L (granted offset value fd) ∧
        B fd (L.step (granted offset value fd))) :
    Watched (bootMonitor W) A (gpioRequestOutput offset value : Host σ Int)
      B := by
  rw [gpioRequestOutput]
  apply Watched.bind (B := fun fd L => ∀ n : ℕ, fd = some n → B n L)
  · apply Watched.call
    intro L fd hL hfresh
    cases fd with
    | none => exact ⟨guarantee_of_no_drive rfl (hA L hL), fun n hn => nomatch hn⟩
    | some n =>
        obtain ⟨hguarantee, hB⟩ := hgrant L n hL hfresh
        refine ⟨hguarantee, fun n' hn' => ?_⟩
        cases hn'
        exact hB
  · intro fd
    cases fd with
    | none => exact Watched.halt
    | some n => exact Watched.pure fun L hL => hL n rfl

/-- What a process finds: it holds no line, and nRESET and nWAKE are not both
low. -/
structure Vacant (W : Wiring) (L : Lines) : Prop where
  held : L.held = []
  apart : Apart W L

/-- nRESET has been requested. -/
structure ResetHeld (W : Wiring) (fd : Int) (L : Lines) : Prop where
  held : L.held = [(fd, W.reset)]
  level : L.level W.reset = true

theorem resetRequest_watched :
    Watched (bootMonitor W) (Vacant W)
      (gpioRequestOutput W.reset true : Host σ Int) (ResetHeld W) := by
  apply gpioRequestOutput_watched fun L hL => hL.apart
  intro L fd hL _
  have hlevel : (L.step (granted W.reset true fd)).level W.reset = true :=
    Function.update_self ..
  have hheld : (L.step (granted W.reset true fd)).held =
      [((fd : Int), W.reset)] := by
    rw [Lines.step, holdStep, hL.held]
    rfl
  refine ⟨⟨?_, Or.inl hlevel⟩, hheld, hlevel⟩
  rintro ⟨hlow, _, hwake⟩
  rcases hL.apart with hhigh | hhigh
  · exact Bool.false_ne_true (hlow.symm.trans hhigh)
  · exact Bool.false_ne_true (hwake.symm.trans hhigh)

theorem wakeRequest_watched (reset : Int) :
    Watched (bootMonitor W) (ResetHeld W reset)
      (gpioRequestOutput W.wake true : Host σ Int)
      fun wake => At W ⟨reset, wake, -1, -1, -1⟩ true true := by
  apply gpioRequestOutput_watched fun L hL => Or.inl hL.level
  intro L fd hL hfresh
  obtain ⟨hfd, hline⟩ := hfresh _ rfl
  rw [hL.held, List.map_singleton, List.mem_singleton] at hfd hline
  have hdistinct : W.reset ≠ W.wake := Ne.symm hline
  have hwake : (L.step (granted W.wake true fd)).level W.wake = true :=
    Function.update_self ..
  have hreset : (L.step (granted W.wake true fd)).level W.reset = true :=
    (Function.update_of_ne hdistinct ..).trans hL.level
  have hheld : (L.step (granted W.wake true fd)).held =
      [((fd : Int), W.wake), (reset, W.reset)] := by
    rw [Lines.step, holdStep, hL.held]
    rfl
  refine ⟨⟨?_, Or.inl hreset⟩, ?_⟩
  · rintro ⟨hlow, _, _⟩
    exact Bool.false_ne_true (hlow.symm.trans hL.level)
  · have hnone : ¬(0 : Int) ≤ -1 := by decide
    refine ⟨?_, ?_, hdistinct, fun h => absurd h hnone,
      fun h => absurd h hnone, hreset, hwake⟩
    · rw [hheld, List.lookup_cons, beq_false_of_ne (Ne.symm hfd)]
      exact List.lookup_cons_self
    · rw [hheld]
      exact List.lookup_cons_self

theorem At.request {p : Pins} {L : Lines} (hL : At W p true true L)
    {offset : BitVec 32} {value : Bool} {fd : ℕ}
    (hfresh : Fresh L.held (granted offset value fd)) :
    (bootMonitor W).guarantee L (granted offset value fd) ∧
      At W p true true (L.step (granted offset value fd)) ∧
      Other W (L.step (granted offset value fd)) fd := by
  have hdrives : ∀ d ∈ drives L.held (granted offset value fd),
      d.1 = offset := by
    intro d hd
    cases hd
    rfl
  obtain ⟨hat, hother⟩ := hL.handedOut rfl rfl hfresh hdrives
  refine ⟨⟨?_, hat.high⟩, hat, hother⟩
  rintro ⟨hlow, _, _⟩
  exact Bool.false_ne_true (hlow.symm.trans hL.levelReset)

/-- Every other line is requested with nRESET and nWAKE high. -/
theorem otherRequest_watched {p : Pins} (offset : BitVec 32) (value : Bool) :
    Watched (bootMonitor W) (At W p true true)
      (gpioRequestOutput offset value : Host σ Int)
      fun fd L => At W p true true L ∧ Other W L fd := by
  exact gpioRequestOutput_watched (fun L hL => hL.high)
    fun L fd hL hfresh => hL.request hfresh

theorem gpioTryOutput_watched {p : Pins} (offset : BitVec 32) (value : Bool) :
    Watched (bootMonitor W) (At W p true true)
      (gpioTryOutput offset value : Host σ Int)
      fun fd L => At W p true true L ∧ Spare W L fd := by
  rw [gpioTryOutput]
  apply Watched.bind (B := fun fd L => At W p true true L ∧
    ∀ n : ℕ, fd = some n → Other W L n)
  · apply Watched.call
    intro L fd hL hfresh
    cases fd with
    | none =>
        have hrefused : LeavesLines (.call (.requestOutput offset value) none) :=
          ⟨fun _ => rfl, rfl, rfl⟩
        have hsame : (bootMonitor W).step L
            (.call (.requestOutput offset value) none) = L := hrefused.step L
        rw [hsame]
        exact ⟨guarantee_of_no_drive rfl hL.high, hL, fun n hn => nomatch hn⟩
    | some n =>
        obtain ⟨hguarantee, hat, hother⟩ := hL.request hfresh
        refine ⟨hguarantee, hat, fun n' hn' => ?_⟩
        cases hn'
        exact hother
  · intro fd
    cases fd with
    | none => exact Watched.pure fun L hL => ⟨hL.1, fun h => absurd h (by decide)⟩
    | some n => exact Watched.pure fun L hL => ⟨hL.1, fun _ => hL.2 n rfl⟩

theorem gpioRequestInputEdges_watched {p : Pins} (offset : BitVec 32) :
    Watched (bootMonitor W) (At W p true true)
      (gpioRequestInputEdges offset : Host σ Int)
      fun _ => At W p true true := by
  rw [gpioRequestInputEdges]
  apply Watched.bind (B := fun _ => At W p true true)
  · apply Watched.call
    intro L fd hL hfresh
    refine ⟨guarantee_of_no_drive rfl hL.high, ?_⟩
    cases fd with
    | none =>
        have hrefused : LeavesLines (.call (.requestInputEdges offset) none) :=
          ⟨fun _ => rfl, rfl, rfl⟩
        have hsame : (bootMonitor W).step L
            (.call (.requestInputEdges offset) none) = L := hrefused.step L
        rw [hsame]
        exact hL
    | some n =>
        exact (hL.handedOut (e := .call (.requestInputEdges offset) (some n))
          rfl rfl hfresh fun d hd => nomatch hd).1
  · exact fun _ => Watched.pure fun _ hL => hL

theorem nsselIntOpen_watched {p : Pins} (lines : LineCfg) :
    Watched (bootMonitor W) (At W p true true)
      (nsselIntOpen lines : Host σ (Int × Bool))
      fun out L => At W p true true L ∧ Spare W L out.1 := by
  rw [nsselIntOpen]
  apply Watched.ite
  · intro _
    exact Watched.pure fun L hL => ⟨hL, fun h => absurd h (by decide)⟩
  · intro _
    apply (otherRequest_watched _ _).bind
    intro fd
    exact Watched.pure fun L hL => ⟨hL.1, fun _ => hL.2⟩

theorem csOpen_watched {p : Pins} (lines : LineCfg) :
    Watched (bootMonitor W) (At W p true true)
      (csOpen lines : Host σ Int)
      fun fd L => At W p true true L ∧ Spare W L fd := by
  rw [csOpen]
  apply Watched.ite
  · intro _
    exact Watched.pure fun L hL => ⟨hL, fun h => absurd h (by decide)⟩
  · exact fun _ => gpioTryOutput_watched _ _

theorem At.withPins {p p' : Pins} {reset wake : Bool} {L : Lines}
    (hL : At W p reset wake L) (hreset : p'.reset = p.reset)
    (hwake : p'.wake = p.wake) (hnssel : Spare W L p'.nsselInt)
    (hcs : Spare W L p'.cs) : At W p' reset wake L :=
  ⟨hreset ▸ hL.heldReset, hwake ▸ hL.heldWake, hL.distinct, hnssel, hcs,
    hL.levelReset, hL.levelWake⟩

/-- The lines of one process, on a board wired the way it takes it to be. -/
theorem pinsRequest_watched {lines : LineCfg}
    (hreset : lines.resetLine = W.reset) (hwake : lines.wakeLine = W.wake) :
    Watched (bootMonitor W) (Vacant W)
      (pinsRequest lines : Host σ (Pins × Bool))
      fun out => At W out.1 true true := by
  rw [pinsRequest, hreset, hwake]
  apply resetRequest_watched.bind
  intro reset
  apply (wakeRequest_watched reset).bind
  intro wake
  apply (nsselIntOpen_watched lines).bind
  rintro ⟨nsselInt, csFollows⟩
  have hopened : Watched (bootMonitor W)
      (fun L => At W ⟨reset, wake, -1, -1, -1⟩ true true L ∧ Spare W L nsselInt)
      (csOpen lines : Host σ Int)
      fun cs => At W ⟨reset, wake, nsselInt, cs, -1⟩ true true :=
    (csOpen_watched (p := ⟨reset, wake, nsselInt, -1, -1⟩) lines).mono
      (fun L hL => hL.1.withPins rfl rfl hL.2 hL.1.cs)
      fun cs L hL => hL.1.withPins rfl rfl hL.1.nsselInt hL.2
  apply hopened.bind
  intro cs
  apply (gpioRequestInputEdges_watched lines.intLine).bind
  intro hint
  exact Watched.pure fun L hL => hL.withPins rfl rfl hL.nsselInt hL.cs

/-- Closing drives no line. -/
theorem pinsClose_watched (p : Pins) :
    Watched (bootMonitor W) (Apart W) (pinsClose p : Host σ Pins)
      fun _ => Apart W := by
  have hclose (fd : Int) : Watched (bootMonitor W) (Apart W)
      (closeHeld fd : Host σ Unit) fun _ => Apart W := by
    refine Watched.onlyIf fun _ => Watched.call ?_
    exact fun L r hL _ => ⟨guarantee_of_no_drive rfl hL, hL⟩
  rw [pinsClose]
  apply (hclose _).bind
  intro _
  apply (hclose _).bind
  intro _
  apply (hclose _).bind
  intro _
  apply (hclose _).bind
  intro _
  exact (hclose _).bind fun _ => Watched.pure fun _ hL => hL

end Levels

section Lives

variable {W : Wiring}

/-- A process once it has read the name of the board. -/
theorem settled_watched (c : Cfg) (lines : LineCfg) (ops : List LineOp)
    {name : Option (List Byte)}
    (hreset : (settledLines name lines).resetLine = W.reset)
    (hwake : (settledLines name lines).wakeLine = W.wake) :
    Watched (bootMonitor W) (Vacant W)
      (do
        let lines ← pinsSettle lines name
        let (p, csFollows) ← pinsRequest lines
        lineOps ⟨c, csFollows⟩ p ops
        pinsClose p : Host σ Pins)
      fun _ => Apart W := by
  have hsettle : Watched (bootMonitor W) (Vacant W)
      (pinsSettle lines name : Host σ LineCfg)
      fun lines' L => Vacant W L ∧ lines' = settledLines name lines := by
    rw [pinsSettle, settledLines]
    cases boardDetect name with
    | none => exact Watched.pure fun L hL => ⟨hL, rfl⟩
    | some b =>
        exact Watched.ite (fun _ => Watched.halt)
          fun _ => Watched.pure fun L hL => ⟨hL, rfl⟩
  apply hsettle.bind
  intro lines'
  refine Watched.given (fun L hL => hL.2) fun heq => ?_
  subst heq
  have hrequest := pinsRequest_watched (σ := σ) hreset hwake
  apply (hrequest.mono (fun L hL => hL.1) fun _ _ hL => hL).bind
  rintro ⟨p, csFollows⟩
  apply (lineOps_watched ⟨c, csFollows⟩ p ops).bind
  intro _
  exact (pinsClose_watched p).mono (fun L hL => hL.high) fun _ _ hL => hL

/-- A life that takes the lines for what they are is guaranteed not to enter
the bootloader, and leaves the lines not both low. -/
theorem Life.guaranteed {l : Life σ} (hwired : l.Wired W) {L : Lines}
    (hL : Vacant W L) : (bootMonitor W).Guaranteed L l.trace := by
  apply Monitor.Guaranteed.take
  have hrun : process l.c l.lines l.ops l.world =
      (call (I := host) .boardName >>= fun name => do
        let lines ← pinsSettle l.lines name
        let (p, csFollows) ← pinsRequest lines
        lineOps ⟨l.c, csFollows⟩ p l.ops
        pinsClose p : Host σ Pins) l.world := by
    simp only [process, pinsOpen, pinsAutodetect, bind_assoc]
  rw [hrun, call_bind_apply]
  have hread : LeavesLines (.call .boardName
      (Surroundings.answer (I := host) .boardName l.world).1) :=
    ⟨fun _ => rfl, rfl, rfl⟩
  have hrest := (settled_watched l.c l.lines l.ops hwired.1
    hwired.2).guaranteed (Surroundings.answer (I := host) .boardName l.world).2
    L hL
  intro _
  refine ⟨guarantee_of_no_drive rfl hL.apart, ?_⟩
  exact (congrArg (fun L' => (bootMonitor W).Guaranteed L' _)
    (hread.step L)).mpr hrest

theorem Life.leaves_vacant {l : Life σ} (hwired : l.Wired W)
    (hexclusive : Exclusive [] l.trace) {L : Lines} (hL : Vacant W L) :
    Vacant W (Life.leaves L l) := by
  have hrelied : (bootMonitor W).Relied L l.trace := by
    rw [relied_iff_exclusive, hL.held]
    exact hexclusive
  refine ⟨rfl, ?_⟩
  exact (Life.guaranteed hwired hL).invariant hrelied (fun _ _ h => h.2) hL.apart

/-- From both lines high, or just one of them, whatever processes come one
after the other, however they use the lines and wherever they are killed:
nRESET never goes from low to high while nWAKE is low. -/
theorem lives_never_enter_bootloader (W : Wiring) (L : Lines)
    (hheld : L.held = []) (hapart : Apart W L) (lives : List (Life σ))
    (l : Life σ)
    (hwired : ∀ l' ∈ lives ++ [l], l'.Wired W)
    (hexclusive : ∀ l' ∈ lives ++ [l], Exclusive [] l'.trace)
    (t₁ : List HostEvent) (e : HostEvent) (t₂ : List HostEvent)
    (htrace : l.trace = t₁ ++ e :: t₂) :
    ¬EntersBootloader W
      (t₁.foldl Lines.step (lives.foldl Life.leaves L)) e := by
  have hvacant : Vacant W (lives.foldl Life.leaves L) := by
    have hprocesses : ∀ l' ∈ lives, l'.Wired W ∧ Exclusive [] l'.trace :=
      fun l' hl' => ⟨hwired l' (List.mem_append_left _ hl'),
        hexclusive l' (List.mem_append_left _ hl')⟩
    clear hwired hexclusive htrace
    induction lives using List.reverseRecOn with
    | nil => exact ⟨hheld, hapart⟩
    | append_singleton lives l' ih =>
        obtain ⟨hwired', hexclusive'⟩ := hprocesses l' List.mem_concat_self
        rw [List.foldl_concat]
        apply Life.leaves_vacant hwired' hexclusive'
        exact ih fun l'' hl'' => hprocesses l'' (List.mem_append_left _ hl'')
  have hguaranteed := Life.guaranteed (hwired l List.mem_concat_self) hvacant
  have hrelied : (bootMonitor W).Relied (lives.foldl Life.leaves L)
      (t₁ ++ [e]) := by
    have hall : (bootMonitor W).Relied (lives.foldl Life.leaves L)
        (t₁ ++ [e] ++ t₂) := by
      rw [relied_iff_exclusive, hvacant.held, List.append_assoc]
      exact htrace ▸ hexclusive l List.mem_concat_self
    exact (Monitor.relied_append.mp hall).1
  rw [htrace] at hguaranteed
  exact (hguaranteed.at_event hrelied).1

/-- A process killed while it holds the NCP in reset, and one after it that
resets the NCP again. -/
def killedInReset : Life Bench :=
  ⟨⟨2, true⟩, defaultLines, [.reset], ⟨some (ascii "linksys,whw03v2\n"), 3⟩, 8⟩

def resetAgain : Life Bench :=
  ⟨⟨2, true⟩, defaultLines, [.reset, .wake], ⟨some (ascii "linksys,whw03v2\n"), 3⟩,
    100⟩

/-- Opening the lines again releases the NCP from the reset. -/
theorem lives_never_enter_bootloader_reopened :
    ¬EntersBootloader ⟨49, 31⟩
      ((resetAgain.trace.take 1).foldl Lines.step
        ([killedInReset].foldl Life.leaves ⟨fun _ => true, []⟩))
      (granted 49 true 3) := by
  have hwired : ∀ l' ∈ [killedInReset] ++ [resetAgain], l'.Wired ⟨49, 31⟩ := by
    intro l' hl'
    rcases List.mem_pair.mp hl' with rfl | rfl <;> exact ⟨rfl, rfl⟩
  have hexclusive : ∀ l' ∈ [killedInReset] ++ [resetAgain],
      Exclusive [] l'.trace := by
    intro l' hl'
    rcases List.mem_pair.mp hl' with rfl | rfl <;> decide +kernel
  exact lives_never_enter_bootloader ⟨49, 31⟩ ⟨fun _ => true, []⟩ rfl
    (Or.inl rfl) [killedInReset] resetAgain hwired hexclusive _ _ _
    (split_at (n := 1) (e := granted 49 true 3) rfl)

end Lives

end EzspSpi
