import EzspSpi.Router.Control

/-!
# The commands that bring the network up

The commands of `ezsp.c`, `zcl.c` and `control.c` that start the stack, from
the open lines to their exit status.  What they print has no counterpart.
-/

namespace EzspSpi

open Program

variable {σ : Type} [Kernel σ] (g : Globals) (c : RouterCfg) (p : Pins)

/-- The start of every command: reset the NCP, unless told not to, and
negotiate a version. -/
def radioUp (r : Router) : Host σ (Router × Option ℕ) := do
  onlyIf (c.noReset = false) (commandReset p)
  ezspInit g p c r

def cmdInfo (r : Router) : Host σ ℕ := do
  let (r, ver) ← radioUp g c p r
  if ver = none then pure 1
  else do
    let r ← ezspApplyConfig g p r
    let (r, _) ← ezspCmd g p r ezspNetworkInit [] 64
    let (r, _) ← ezspCmd g p r ezspGetEui64 [] 64
    let (r, _) ← ezspCmd g p r ezspGetNodeId [] 64
    let (r, _) ← ezspCmd g p r ezspNetworkState [] 64
    let (_, _) ← ezspCmd g p r ezspGetNetworkParameters [] 64
    pure 0

def cmdStatus (r : Router) : Host σ ℕ := do
  let answered ← call (I := host) (.controlQuery (ascii "status\n"))
  if answered then pure 0
  else do
    let (r, ver) ← radioUp g c p r
    if ver = none then pure 1
    else do
      let r ← ezspApplyConfig g p r
      let (r, _) ← ezspCmd g p r ezspNetworkInit [] 64
      let _ ← controlStatus g p r 512
      pure 0

/-- The entries of a table, one after the other. -/
def dumpTable (frameId : Byte) :
    (entries index : ℕ) → Router → Host σ Router
  | 0, _, r => pure r
  | entries + 1, index, r => do
      let (r, _) ← ezspCmd g p r frameId [BitVec.ofNat 8 index] 64
      dumpTable frameId entries (index + 1) r

def cmdNeighbors (r : Router) : Host σ ℕ := do
  let answered ← call (I := host) (.controlQuery (ascii "neighbors\n"))
  if answered then pure 0
  else do
    let (r, ver) ← radioUp g c p r
    if ver = none then pure 1
    else do
      let r ← ezspApplyConfig g p r
      let (r, reply) ← ezspCmd g p r ezspNetworkInit [] 64
      if (status? reply).any (fun s => decide (s ≠ emberSuccess)) then pure 1
      else do
        let (r, _) ← ezspCmd g p r ezspGetParentChildParams [] 64
        let (r, count) ← ezspCmd g p r ezspNeighborCount [] 64
        let r ← dumpTable g p ezspGetNeighbor (countOf count) 0 r
        let _ ← dumpTable g p ezspGetRouteTableEntry 16 0 r
        pure 0

/-- The trust centre link key and the current network key. -/
def wantedKeys : List Byte := [0x01, 0x03]

def cmdKeys (r : Router) : Host σ ℕ := do
  let (r, ver) ← radioUp g c p r
  if ver = none then pure 1
  else do
    let r ← ezspApplyConfig g p r
    let (r, _) ← ezspCmd g p r ezspNetworkInit [] 64
    let _ ← wantedKeys.foldlM (fun r key => do
      let (r, _) ← ezspCmd g p r ezspGetKey [key] 64
      pure r) r
    pure 0

def cmdPermit (arg : Option (List Byte)) (r : Router) : Host σ ℕ := do
  let asked := (arg.map strtoulDecimal).getD 180
  let secs := if asked = 0 then 180 else asked
  let answered ← call (I := host) (.controlQuery
    (snprintf 64 (ascii "permit " ++ unsignedText secs.toNat ++ ascii "\n")))
  if answered then pure 0
  else do
    let (r, ver) ← radioUp g c p r
    if ver = none then pure 1
    else do
      let r ← ezspApplyConfig g p r
      let (r, reply) ← ezspCmd g p r ezspNetworkInit [] 64
      if (status? reply).any (fun s => decide (s ≠ emberSuccess)) then pure 1
      else do
        let (_, opened, _) ← ezspPermit g p r secs 128
        pure (if opened then 0 else 1)

def cmdPower (arg : Option (List Byte)) (r : Router) : Host σ ℕ := do
  let dbm := (arg.map strtolDecimal).getD 8
  let answered ← call (I := host) (.controlQuery
    (snprintf 64 (ascii "power " ++ signedText dbm.toInt ++ ascii "\n")))
  if answered then pure 0
  else do
    let (r, ver) ← radioUp g c p r
    if ver = none then pure 1
    else do
      let r ← ezspApplyConfig g p r
      let (r, _) ← ezspCmd g p r ezspNetworkInit [] 64
      let (_, set, _) ← ezspSetPower g p r dbm 128
      pure (if set then 0 else 1)

/-! ## Leaving -/

/-- The polls of `cmd_leave` for NETWORK_DOWN.  What a callback does not
overwrite stays in `out`. -/
def leavePolls : (polls : ℕ) → Router → (out : List Byte) → Host σ ℕ
  | 0, _, _ => pure 1
  | polls + 1, r, out => do
      let (r, id, payload) ← ezspPollCallback g p r 64
      let out := overwrite out 0 payload
      if id = ezspStackStatusHandler ∧ out.getD 0 0 = emberNetworkDown then
        pure 0
      else leavePolls polls r out

/-- `cmd_leave` with `out` as the stack has it. -/
def cmdLeave (out : List Byte) (r : Router) : Host σ ℕ := do
  let (r, ver) ← radioUp g c p r
  if ver = none then pure 1
  else do
    let r ← ezspApplyConfig g p r
    let (r, reply) ← ezspCmd g p r ezspNetworkInit [] 64
    let out := overwrite out 0 (reply.getD [])
    let (r, reply) ← ezspCmd g p r ezspLeaveNetwork [] 64
    if status? reply ≠ some emberSuccess then pure 1
    else leavePolls g p 40 r (overwrite out 0 (reply.getD []))

/-! ## Joining -/

/-- The well-known global trust centre link key. -/
def zigbeeAlliance09 : List Byte :=
  [0x5A, 0x69, 0x67, 0x42, 0x65, 0x65, 0x41, 0x6C,
    0x6C, 0x69, 0x61, 0x6E, 0x63, 0x65, 0x30, 0x39]

/-- The security state: the bitmask and the preconfigured key; the network key
and the trust centre are left zero. -/
def securityParams : List Byte :=
  [c.secBitmask.setWidth 8, (c.secBitmask >>> 8).setWidth 8] ++
    zigbeeAlliance09 ++ List.replicate 24 0

/-- The parameters of `joinNetwork`: a router by MAC association, with the
update id of the beacon. -/
def joinParams (r : Router) (nwkUpdateId : Byte) : List Byte :=
  0x02 :: r.extPanId.take 8 ++
    [c.panId.setWidth 8, (c.panId >>> 8).setWidth 8, c.txPower.setWidth 8,
      c.channel.setWidth 8, 0x00, 0x00, 0x00, nwkUpdateId, 0, 0, 0, 0]

/-- What the wait for the network ends with. -/
inductive JoinOutcome where
  | up
  | transient
  | failed
  deriving DecidableEq, Repr

/-- The wait for `stackStatusHandler`.  A terminal status ends it, and two of
these are worth a fresh attempt. -/
def joinPolls : (polls : ℕ) → Router → (out : List Byte) →
    Host σ (Router × List Byte × JoinOutcome)
  | 0, r, out => pure (r, out, .failed)
  | polls + 1, r, out => do
      let (r, id, payload) ← ezspPollCallback g p r 64
      let out := overwrite out 0 payload
      if id ≠ ezspStackStatusHandler then joinPolls polls r out
      else
        let status := out.getD 0 0
        if status = emberNetworkUp then pure (r, out, .up)
        else if status = 0xAD ∨ status = 0x94 then pure (r, out, .transient)
        else if status = 0xAB ∨ status = 0x98 ∨ status = 0xAF then
          pure (r, out, .failed)
        else joinPolls polls r out

/-- `join_timeout * 4` in an `int`; nothing is polled for a negative one. -/
def joinPollCount : ℕ := (4 * c.joinTimeout).toInt.toNat

/-- From the label `attempt` to the end of the wait.  A rejected command ends
the attempt like a terminal status does. -/
def joinOnce (nwkUpdateId : Byte) (r : Router) (out : List Byte) :
    Host σ (Router × List Byte × JoinOutcome) := do
  let (r, reply) ← ezspCmd g p r ezspJoinNetwork (joinParams c r nwkUpdateId) 64
  let out := overwrite out 0 (reply.getD [])
  if status? reply ≠ some emberSuccess then pure (r, out, .failed)
  else joinPolls g p (joinPollCount c) r out

/-- An attempt, with so many retries left. -/
def joinAttempt (nwkUpdateId : Byte) :
    (retries : ℕ) → Router → (out : List Byte) → Host σ ℕ
  | 0, r, out => do
      let (_, _, outcome) ← joinOnce g c p nwkUpdateId r out
      pure (if outcome = .up then 0 else 1)
  | retries + 1, r, out => do
      let (r, out, outcome) ← joinOnce g c p nwkUpdateId r out
      match outcome with
      | .up => pure 0
      | .transient => joinAttempt nwkUpdateId retries r out
      | .failed => pure 1

/-- The look at the network before joining it: whether to go on, and the update
id of its beacon. -/
def joinPrecheck (r : Router) (out : List Byte) :
    Host σ (Router × Option Byte) :=
  if c.noPrecheck then pure (r, some 0)
  else do
    let (r, found) ← scanFind g p r c.channel c.panId out
    match found with
    | .failed => pure (r, some 0)
    | .notFound => pure (r, none)
    | .found ext allowing nwkUpdateId =>
        let r := { r with extPanId := ext, haveExtPanId := true }
        pure (r, if allowing then some nwkUpdateId else none)

/-- `cmd_join` from the configuration on. -/
def joinConfigured (nwkUpdateId : Byte) (r : Router) (out : List Byte) :
    Host σ ℕ := do
  let r ← ezspApplyConfig g p r
  let (r, reply) ← ezspCmd g p r ezspGetConfigurationValue
    [ezspConfigStackProfile] 64
  let profile := reply.getD []
  let out := overwrite out 0 profile
  if profile.length ≥ 3 ∧ profile.getD 0 0 = emberSuccess ∧
      profile.getD 1 0 ≠ 2 then
    pure 1
  else do
    let (r, reply) ← ezspCmd g p r ezspSetInitialSecurityState
      (securityParams c) 64
    let out := overwrite out 0 (reply.getD [])
    if status? reply ≠ some emberSuccess then pure 1
    else joinAttempt g c p nwkUpdateId c.joinRetries.toInt.toNat r out

/-- `cmd_join` with the buffers of `scan_find` and its own as the stack has
them. -/
def cmdJoin (scanOut out : List Byte) (r : Router) : Host σ ℕ :=
  if c.channel = 0 ∨ c.havePanId = false then die
  else if r.haveExtPanId = false ∧ c.noPrecheck = true then die
  else do
    let (r, ver) ← radioUp g c p r
    if ver = none then pure 1
    else do
      let (r, go) ← joinPrecheck g c p r scanOut
      match go with
      | none => pure 1
      | some nwkUpdateId => joinConfigured g c p nwkUpdateId r out

end EzspSpi
