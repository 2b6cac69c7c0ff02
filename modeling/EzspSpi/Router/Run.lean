import EzspSpi.Router.Flows

/-!
# The router daemon

`cmd_run`: restore the network, then one pass of the loop at a time, which
waits for nHOST_INT or the control socket, drains the callbacks and sends the
report that is due.
-/

namespace EzspSpi

open Program

variable {σ : Type} [Kernel σ] (g : Globals) (c : RouterCfg) (p : Pins)

/-- The loop's state besides the lines. -/
structure Running where
  router : Router
  out : List Byte
  nextReport : Int
  listenFd : Int
  deriving DecidableEq, Repr

/-- `cmd_run` up to its loop, with `out` as the stack has it; `none` if no
version can be negotiated.  The surroundings answer `rand`, so that seeding it
has no counterpart. -/
def runStart (r : Router) (out : List Byte) : Host σ (Option Running) := do
  let (r, ver) ← radioUp g c p r
  if ver = none then pure none
  else do
    let r ← ezspApplyConfig g p r
    let (r, _) ← ezspCmd g p r ezspGetEui64 [] 16
    let now ← call (I := host) .time
    let stagger ←
      if c.reportSecs ≠ 0 then call (I := host) .rand else pure 0
    let (r, reply) ← ezspCmd g p r ezspNetworkInit [] 64
    let out := overwrite out 0 (reply.getD [])
    let r ←
      if status? reply ≠ some emberSuccess then do
        let (r, _) ← ezspCmd g p r ezspNetworkState [] 8
        pure r
      else pure r
    let listenFd ← call (I := host) .controlListen
    pure (some ⟨r, out, now + (stagger % 30 : ℕ),
      listenFd.elim (-1) fun fd => fd⟩)

/-- Whether nHOST_INT goes into the poll set. -/
def runWatch : Host σ Bool :=
  if 0 ≤ p.hint then do
    let level ← gpioGet p.hint
    pure (decide (level ≠ some false))
  else pure false

/-- The time to sleep, in the 32 bits of an `int` and a `long`. -/
def runTimeout (nextReport now : Int) : Int :=
  let due := max 0 ((nextReport - now).bmod (2 ^ 32))
  let ms := (due * 1000).bmod (2 ^ 32)
  if ms < 30000 then ms else 30000

/-- The wait of a pass: the events at the places of the poll set, and none
without one. -/
def runPoll (st : Running) (watch : Bool) : Host σ (ℕ → Revents) := do
  let timeout ←
    if c.reportSecs ≠ 0 then do
      let now ← call (I := host) .time
      pure (runTimeout st.nextReport now)
    else pure 30000
  let fds := (if 0 ≤ st.listenFd then [st.listenFd] else []) ++
    if watch then [p.hint] else []
  if fds ≠ [] then call (I := host) (.pollEvents fds timeout)
  else pure fun _ => ⟨false, false, false⟩

/-- What a drained callback leads to, with `out` as the poll left it. -/
def runCallback (r : Router) (id : Byte) (out : List Byte) :
    Host σ Router :=
  if id = ezspIncomingMessageHandler then zclHandleIncoming g p r out
  else if id = ezspMessageSentHandler ∧ out.getD 15 0 ≠ emberSuccess then
    pure { r with reportFailed := r.reportFailed + 1 }
  else pure r

/-- The drain, which goes on until a poll brings no callback; `stuck` stands
for one that has not ended after so many polls. -/
def runDrain : (polls : ℕ) → Router → (out : List Byte) →
    Host σ (Router × List Byte)
  | 0, _, _ => halt .stuck
  | polls + 1, r, out => do
      let (r, id, payload) ← ezspPollCallback g p r 64
      let out := overwrite out 0 payload
      let r ← runCallback g p r id out
      if id = 0 then pure (r, out) else runDrain polls r out

/-- The report of a pass, if one is due. -/
def runReport (st : Running) : Host σ Running :=
  if c.reportSecs = 0 then pure st
  else do
    let now ← call (I := host) .time
    if now < st.nextReport then pure st
    else do
      let r ← zclReport g p st.router
      let now ← call (I := host) .time
      let interval ← reportInterval c
      pure { st with router := r, nextReport := now + interval.toNat }

/-- What a pass does for the events: the control socket comes first in the
poll set. -/
def runServe (polls : ℕ) (st : Running) (watch : Bool)
    (revents : ℕ → Revents) : Host σ Running := do
  let hintPlace := if 0 ≤ st.listenFd then 1 else 0
  onlyIf (watch = true ∧ (revents hintPlace).pollin = true)
    (call (I := host) (.gpioReadEdge p.hint))
  let r ←
    if 0 ≤ st.listenFd ∧ (revents 0).pollin = true then
      controlAccept g p st.listenFd st.router
    else pure st.router
  let (r, out) ← runDrain g p polls r st.out
  runReport g c p { st with router := r, out := out }

/-- One pass of the loop of `cmd_run`. -/
def runPass (polls : ℕ) (st : Running) : Host σ Running := do
  let watch ← runWatch p
  let revents ← runPoll c p st watch
  runServe g c p polls st watch revents

/-- So many passes of the loop. -/
def runPasses (polls : ℕ) : (passes : ℕ) → Running → Host σ Running
  | 0, st => pure st
  | passes + 1, st => do
      let st ← runPass g c p polls st
      runPasses polls passes st

/-- `cmd_run` as far as so many passes, none of which drains for longer than
so many polls; 1 if it ends on its own. -/
def cmdRun (polls passes : ℕ) (out : List Byte) (r : Router) : Host σ ℕ := do
  let st ← runStart g c p r out
  match st with
  | none => pure 1
  | some st => do
      let _ ← runPasses g c p polls passes st
      pure 0

/-- The same, with the state it is left in; `none` if it ends on its own. -/
def runReach (polls passes : ℕ) (out : List Byte) (r : Router) :
    Host σ (Option Running) := do
  let st ← runStart g c p r out
  match st with
  | none => pure none
  | some st => do
      let st ← runPasses g c p polls passes st
      pure (some st)

theorem cmdRun_eq (polls passes : ℕ) (out : List Byte) (r : Router) :
    (cmdRun g c p polls passes out r : Host σ ℕ) =
      runReach g c p polls passes out r >>= fun st =>
        pure (if st = none then 1 else 0) := by
  rw [cmdRun, runReach, bind_assoc]
  congr 1
  funext st
  cases st with
  | none => rfl
  | some st =>
      dsimp only
      rw [bind_assoc]
      rfl

end EzspSpi
