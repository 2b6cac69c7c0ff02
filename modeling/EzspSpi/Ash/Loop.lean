import EzspSpi.Ash.Bridge

/-!
# The bridge's main loop

`cmd_bridge` after its lines and its listening socket are open: one pass of
the `poll` loop at a time, and a run of any number of them.
-/

namespace EzspSpi

open Program

variable {σ : Type} [Kernel σ] (g : Globals)

/-- The bridge before its first client. -/
def bridgeInit (p : Pins) (srv : Int) : Bridge where
  p := p
  srv := srv
  cli := -1
  ready := false
  negotiated := false
  frm := 0
  ack := 0
  cbseq := 0
  ver := 4
  rx := []
  esc := false
  sent := fun _ => []

def bridgeDropClient (b : Bridge) : Host σ Bridge :=
  if b.cli < 0 then pure b
  else do
    call (I := host) (.close b.cli)
    pure { b with cli := -1, rx := [], esc := false }

/-- The bridge as a newly accepted client finds it. -/
def bridgeAccepted (b : Bridge) (fd : ℕ) : Bridge :=
  { b with
    cli := fd
    ready := false
    negotiated := false
    rx := []
    esc := false
    frm := 0
    ack := 0
    ver := 4
    sent := fun _ => [] }

/-- A connection waiting on the listening socket: one client owns the radio,
so the client before it is dropped. -/
def bridgeAccept (b : Bridge) : Host σ Bridge := do
  let fd ← call (I := host) (.accept b.srv)
  match fd with
  | none => pure b
  | some fd => do
      let b ← if 0 ≤ b.cli then bridgeDropClient b else pure b
      pure (bridgeAccepted b fd)

/-- Data, or its absence, from the client. -/
def bridgeRead (b : Bridge) : Host σ Bridge := do
  let got ← call (I := host) (.read b.cli)
  match got with
  | .bytes [] => bridgeDropClient b
  | .bytes buf => bridgeFeed g b buf
  | .interrupted => pure b
  | .failed => bridgeDropClient b

/-- What a pass does for the events on nHOST_INT and the client: `ivCli` and
`ivHint` are their places in the poll set. -/
def bridgeServeClient (b : Bridge) (ivCli ivHint : Option ℕ)
    (revents : ℕ → Revents) : Host σ Bridge := do
  onlyIf (ivHint.any (fun iv => (revents iv).pollin) = true)
    (call (I := host) (.gpioReadEdge b.p.hint))
  if ivCli.any (fun iv => (revents iv).pollerr || (revents iv).pollhup) then
    bridgeDropClient b
  else do
    let b ←
      if ivCli.any (fun iv => (revents iv).pollin) then bridgeRead g b
      else pure b
    bridgeDrainCallbacks g b

/-- The rest of a pass once `poll` has returned.  The places in the poll set
were taken before a new client is accepted. -/
def bridgeServe (b : Bridge) (ivCli ivHint : Option ℕ)
    (revents : ℕ → Revents) : Host σ Bridge := do
  let b ← if (revents 0).pollin then bridgeAccept b else pure b
  bridgeServeClient g b ivCli ivHint revents

/-- Whether nHOST_INT goes into the poll set: it is only watched while
released, as an asserted line has no edge left. -/
def bridgeWatch (b : Bridge) : Host σ Bool :=
  if 0 ≤ b.cli ∧ 0 ≤ b.p.hint then do
    let level ← gpioGet b.p.hint
    pure (decide (level ≠ some false))
  else pure false

/-- One pass of the loop of `cmd_bridge`. -/
def bridgePass (b : Bridge) : Host σ Bridge := do
  let watch ← bridgeWatch b
  let cliFds := if 0 ≤ b.cli then [b.cli] else []
  let hintFds := if watch then [b.p.hint] else []
  let ivCli := if 0 ≤ b.cli then some 1 else none
  let ivHint := if watch then some (1 + cliFds.length) else none
  let timeout := if 0 ≤ b.cli ∧ b.p.hint < 0 then 20 else 1000
  let got ← call (I := host) (.poll ([b.srv] ++ cliFds ++ hintFds) timeout)
  match got with
  | .interrupted => pure b
  | .failed => die
  | .ready revents => bridgeServe g b ivCli ivHint revents

/-- So many passes of `cmd_bridge`. -/
def cmdBridge : (passes : ℕ) → Bridge → Host σ Bridge
  | 0, b => pure b
  | passes + 1, b => do
      let b ← bridgePass g b
      cmdBridge passes b

end EzspSpi
