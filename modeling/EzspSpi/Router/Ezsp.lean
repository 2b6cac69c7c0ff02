import EzspSpi.Ash.Bridge
import EzspSpi.Core.Buffer
import EzspSpi.Router.Text

/-!
# EZSP for the router

The functions of `ezsp.c` and `zcl.c` by which the router commands the NCP.
Each takes the process-wide variables and returns them as it leaves them.
-/

namespace EzspSpi

open Program

variable {σ : Type} [Kernel σ]

def ezspNetworkInit : Byte := 0x17
def ezspNetworkState : Byte := 0x18
def ezspStackStatusHandler : Byte := 0x19
def ezspStartScan : Byte := 0x1A
def ezspNetworkFoundHandler : Byte := 0x1B
def ezspScanCompleteHandler : Byte := 0x1C
def ezspJoinNetwork : Byte := 0x1F
def ezspLeaveNetwork : Byte := 0x20
def ezspPermitJoining : Byte := 0x22
def ezspGetEui64 : Byte := 0x26
def ezspGetNodeId : Byte := 0x27
def ezspGetNetworkParameters : Byte := 0x28
def ezspGetParentChildParams : Byte := 0x29
def ezspSendUnicast : Byte := 0x34
def ezspMessageSentHandler : Byte := 0x3F
def ezspIncomingMessageHandler : Byte := 0x45
def ezspGetChildData : Byte := 0x4A
def ezspGetConfigurationValue : Byte := 0x52
def ezspSetConfigurationValue : Byte := 0x53
def ezspSetInitialSecurityState : Byte := 0x68
def ezspGetKey : Byte := 0x6A
def ezspGetNeighbor : Byte := 0x79
def ezspNeighborCount : Byte := 0x7A
def ezspGetRouteTableEntry : Byte := 0x7B
def ezspSetRadioPower : Byte := 0x99
def ezspAddEndpointId : Byte := 0x02
def ezspActiveScan : Byte := 0x01

def ezspConfigStackProfile : Byte := 0x0C
def ezspConfigSecurityLevel : Byte := 0x0D
def ezspConfigTcAddressCacheSize : Byte := 0x19
def ezspConfigKeyTableSize : Byte := 0x1E

def emberSuccess : Byte := 0x00
def emberNetworkUp : Byte := 0x90
def emberNetworkDown : Byte := 0x91

/-- The settings of `struct cfg` for the router's commands. -/
structure RouterCfg where
  noReset : Bool
  ezspWant : BitVec 32
  channel : BitVec 32
  panId : BitVec 16
  havePanId : Bool
  txPower : BitVec 32
  secBitmask : BitVec 16
  joinTimeout : BitVec 32
  joinRetries : BitVec 32
  reportSecs : BitVec 32
  noPrecheck : Bool
  deriving DecidableEq, Repr

/-- `cfg` as the process starts with it. -/
def defaultCfg : RouterCfg where
  noReset := false
  ezspWant := 4
  channel := 0
  panId := 0
  havePanId := false
  txPower := 8
  -- a preconfigured key, and that of the trust centre is global
  secBitmask := 0x0104
  joinTimeout := 60
  joinRetries := 2
  reportSecs := 300
  noPrecheck := false

/-- The variables that outlive a function: `cfg.ezsp_version`, what a scan
finds out for `cfg`, the `static` counters of `ezsp_xfer` and `zcl_send`, the
host name, and the counters of the reports. -/
structure Router where
  ezspVersion : ℕ
  extPanId : List Byte
  haveExtPanId : Bool
  seq : Byte
  tag : Byte
  hostName : List Byte
  reportCount : BitVec 32
  reportFailed : BitVec 32
  reportLast : Int
  deriving DecidableEq, Repr

def routerInit : Router where
  ezspVersion := 4
  extPanId := List.replicate 8 0
  haveExtPanId := false
  seq := 0
  tag := 0
  hostName := []
  reportCount := 0
  reportFailed := 0
  reportLast := 0

variable (g : Globals) (p : Pins)

/-! ## Frames -/

/-- The version dependent part of the header, after the sequence number. -/
def ezspHeader (ver : ℕ) (frameId : Byte) : List Byte :=
  if ver ≥ 8 then [0x00, 0x01, frameId, 0x00]
  else if ver ≥ 5 then [0x00, 0xFF, 0x00, frameId]
  else [0x00, frameId]

/-- The bytes `ezsp_xfer` puts together in `tx`. -/
def ezspTx (ver : ℕ) (seq frameId : Byte) (params : List Byte) : List Byte :=
  [spiCmdEzspFrame, BitVec.ofNat 8 (params.length + (ezspLayout ver).1), seq] ++
    ezspHeader ver frameId ++ params ++ [spiFrameTerminator]

/-- `ezsp_xfer`: the frame id that came back and the payload, or `none` for
`-1`. -/
def ezspXfer (r : Router) (frameId : Byte) (params : List Byte)
    (payloadMax : ℕ) : Host σ (Router × Option (Byte × List Byte)) :=
  if params.length + 5 > 160 then die
  else do
    let (cls, rx) ←
      doCmd g p (ezspTx r.ezspVersion r.seq frameId params) 260 true
    let r' := { r with seq := r.seq + 1 }
    let (hdr, idOff) := ezspLayout r.ezspVersion
    -- 0xFE <len> <header> <payload> 0xA7
    if cls ≠ .ezsp ∨ (rx.getD 1 0).toNat < hdr then pure (r', none)
    else
      let len := min ((rx.getD 1 0).toNat - hdr) payloadMax
      pure (r', some (rx.getD (2 + idOff) 0, (rx.drop (2 + hdr)).take len))

/-- `ezsp_cmd`, which only warns of another frame id. -/
def ezspCmd (r : Router) (frameId : Byte) (params : List Byte)
    (payloadMax : ℕ) : Host σ (Router × Option (List Byte)) := do
  let (r, reply) ← ezspXfer g p r frameId params payloadMax
  pure (r, reply.map Prod.snd)

/-- The status byte of a reply that has one. -/
def status? (reply : Option (List Byte)) : Option Byte :=
  reply.bind List.head?

/-- `ezsp_poll_callback`: the frame id, 0 for none, and the payload it leaves
in the buffer. -/
def ezspPollCallback (r : Router) (max : ℕ) :
    Host σ (Router × Byte × List Byte) := do
  let (r, reply) ← ezspXfer g p r ezspCallback [] max
  match reply with
  | none => pure (r, 0, [])
  | some (id, payload) =>
      pure (r, if id = ezspNoCallbacks then 0 else id, payload)

/-! ## Bringing the NCP up -/

def commandReset : Host σ Unit := do
  note .reset
  ncpReset p

/-- Asking for a version, in the one layout every NCP understands before a
version is agreed. -/
def askVersion (r : Router) (want : Byte) :
    Host σ (Router × Option (List Byte)) :=
  ezspCmd g p { r with ezspVersion := 4 } ezspVersion [want] 8

/-- Adopt the version that came back. -/
def agreeVersion (r : Router) (out : List Byte) : Router × Option ℕ :=
  let ver := (out.getD 0 0).toNat
  ({ r with ezspVersion := ver }, if ver > 8 then none else some ver)

/-- `ezsp_init`: the version, or `none` for `-1`. -/
def ezspInit (c : RouterCfg) (r : Router) : Host σ (Router × Option ℕ) := do
  let want := c.ezspWant.setWidth 8
  let (r, reply) ← askVersion g p r want
  let out := reply.getD []
  if out.length < 3 then pure (r, none)
  else if out.getD 0 0 ≠ want then do
    -- version() is only accepted as the first command after a reset
    commandReset p
    let (r, reply) ← askVersion g p r (out.getD 0 0)
    let out' := reply.getD []
    if out'.length < 3 ∨ out'.getD 0 0 ≠ out.getD 0 0 then pure (r, none)
    else pure (agreeVersion r out')
  else pure (agreeVersion r out)

/-- `ezsp_set_config`: whether the NCP took the value. -/
def ezspSetConfig (r : Router) (id : Byte) (value : BitVec 16) :
    Host σ (Router × Bool) := do
  let params := [id, value.setWidth 8, (value >>> 8).setWidth 8]
  let (r, reply) ← ezspCmd g p r ezspSetConfigurationValue params 4
  pure (r, decide (status? reply = some emberSuccess))

def zclEndpoint : Byte := 1

/-- Endpoint 1, profile HA, a range extender, with the cluster Basic. -/
def endpointParams : List Byte :=
  [zclEndpoint, 0x04, 0x01, 0x08, 0x00, 1, 1, 0, 0x00, 0x00]

def ezspAddEndpoint (r : Router) : Host σ (Router × Bool) := do
  let (r, reply) ← ezspCmd g p r ezspAddEndpointId endpointParams 8
  pure (r, decide (status? reply = some 0))

/-- `ezsp_apply_config`, which looks at none of the results but to announce
them. -/
def ezspApplyConfig (r : Router) : Host σ Router := do
  let (r, _) ← ezspSetConfig g p r ezspConfigStackProfile 2
  let (r, _) ← ezspSetConfig g p r ezspConfigSecurityLevel 5
  let (r, _) ← ezspSetConfig g p r ezspConfigKeyTableSize 4
  let (r, _) ← ezspSetConfig g p r ezspConfigTcAddressCacheSize 2
  let (r, _) ← ezspAddEndpoint g p r
  pure r

/-! ## The join window and the power -/

/-- The status that the messages show: `0xFF` where none came back. -/
def shownStatus (reply : Option (List Byte)) : Byte :=
  (status? reply).getD 0xFF

/-- `ezsp_permit`: whether the window is open, and the message. -/
def ezspPermit (r : Router) (seconds : BitVec 32) (max : ℕ) :
    Host σ (Router × Bool × List Byte) := do
  let param : Byte := if seconds > 254 then 254 else seconds.setWidth 8
  let (r, reply) ← ezspCmd g p r ezspPermitJoining [param] 8
  if status? reply ≠ some emberSuccess then
    pure (r, false, snprintf max (ascii "permit: failed (status 0x" ++
      hexByte (shownStatus reply) ++ ascii " " ++
      ascii (emberStatusName (shownStatus reply)) ++ ascii ")\n"))
  else
    pure (r, true, snprintf max
      (ascii "permit: open for " ++ unsignedText param.toNat ++ ascii " s\n"))

/-- `ezsp_set_power`: whether the power is set, and the message. -/
def ezspSetPower (r : Router) (dbm : BitVec 32) (max : ℕ) :
    Host σ (Router × Bool × List Byte) := do
  let param : Byte := dbm.setWidth 8
  let (r, reply) ← ezspCmd g p r ezspSetRadioPower [param] 8
  if status? reply ≠ some emberSuccess then
    pure (r, false, snprintf max (ascii "power: " ++ signedText dbm.toInt ++
      ascii " dBm refused (status 0x" ++ hexByte (shownStatus reply) ++
      ascii " " ++ ascii (emberStatusName (shownStatus reply)) ++
      ascii ")\n"))
  else
    pure (r, true, snprintf max
      (ascii "power: set to " ++ signedText dbm.toInt ++ ascii " dBm\n"))

/-! ## Scanning for one network -/

/-- Two bytes of a buffer, the low one first. -/
def le16 (buf : List Byte) (at' : ℕ) : BitVec 16 :=
  (buf.getD at' 0).setWidth 16 ||| ((buf.getD (at' + 1) 0).setWidth 16 <<< 8)

/-- The parameters of `startScan`: an active scan of these channels. -/
def scanParams (mask : BitVec 32) (duration : Byte) : List Byte :=
  [ezspActiveScan, mask.setWidth 8, (mask >>> 8).setWidth 8,
    (mask >>> 16).setWidth 8, (mask >>> 24).setWidth 8, duration]

/-- What `scan_find` reports; a failed scan is `-1`. -/
inductive ScanResult where
  | failed
  | notFound
  | found (ext : List Byte) (allowing : Bool) (nwkUpdateId : Byte)
  deriving DecidableEq, Repr

/-- The polls of `scan_find`.  What a callback does not overwrite stays in
`out`. -/
def scanPolls (panId : BitVec 16) :
    (polls : ℕ) → Router → (out : List Byte) → Host σ (Router × ScanResult)
  | 0, r, _ => pure (r, .notFound)
  | polls + 1, r, out => do
      let (r, id, payload) ← ezspPollCallback g p r 64
      let out := overwrite out 0 payload
      if id = ezspNetworkFoundHandler then
        if le16 out 1 ≠ panId then scanPolls panId polls r out
        else pure (r, .found ((out.drop 3).take 8)
          (decide (out.getD 11 0 ≠ 0)) (out.getD 13 0))
      else if id = ezspScanCompleteHandler then pure (r, .notFound)
      else scanPolls panId polls r out

/-- `scan_find` with `out` as the stack has it. -/
def scanFind (r : Router) (channel : BitVec 32) (panId : BitVec 16)
    (out : List Byte) : Host σ (Router × ScanResult) := do
  let params := scanParams (1 <<< channel.toNat) 3
  let (r, reply) ← ezspCmd g p r ezspStartScan params 64
  if status? reply ≠ some emberSuccess then pure (r, .failed)
  else scanPolls g p panId 80 r (overwrite out 0 (reply.getD []))

end EzspSpi
