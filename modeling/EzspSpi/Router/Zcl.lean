import EzspSpi.Router.Ezsp

/-!
# The ZCL application

The messages of `zcl.c`: sending a unicast, answering Read Attributes on the
cluster Basic, and the periodic report.
-/

namespace EzspSpi

open Program

variable {σ : Type} [Kernel σ] (g : Globals) (p : Pins)

def zclManufacturer : List Byte := ascii "Linksys"
def zclModel : List Byte := ascii "WHW03V2"
def zclSwbuild : List Byte := ascii "ezsp-spi 0.1"

/-- `zcl_location`: the host name, looked up once. -/
def zclLocation (r : Router) : Host σ (Router × List Byte) :=
  if r.hostName ≠ [] then pure (r, r.hostName)
  else do
    let name ← call (I := host) .hostname
    let name := (name.getD (ascii "openwrt")).take 31
    pure ({ r with hostName := name }, name)

/-- The parameters of `sendUnicast` to this endpoint's peer. -/
def unicastParams (r : Router) (dest cluster : BitVec 16)
    (payload : List Byte) : List Byte :=
  [0x00, dest.setWidth 8, (dest >>> 8).setWidth 8,
    -- the APS frame: profile, cluster, endpoints, options, group, sequence
    0x04, 0x01, cluster.setWidth 8, (cluster >>> 8).setWidth 8,
    zclEndpoint, zclEndpoint, 0x40, 0x01, 0x00, 0x00, 0x00,
    r.tag, BitVec.ofNat 8 payload.length] ++ payload

/-- `zcl_send`: whether the stack accepted the message. -/
def zclSend (r : Router) (dest cluster : BitVec 16) (payload : List Byte) :
    Host σ (Router × Bool) :=
  if payload.length > 64 then pure (r, false)
  else do
    let r' := { r with tag := r.tag + 1 }
    let (r, reply) ← ezspCmd g p r' ezspSendUnicast
      (unicastParams r dest cluster payload) 8
    pure (r, decide (status? reply = some emberSuccess))

/-- The record of an attribute that is a number. -/
def scalarRecord (id : BitVec 16) (type val : Byte) : List Byte :=
  [id.setWidth 8, (id >>> 8).setWidth 8, 0x00, type, val]

/-- The record of an attribute that is a string. -/
def stringRecord (id : BitVec 16) (str : List Byte) : List Byte :=
  [id.setWidth 8, (id >>> 8).setWidth 8, 0x00, 0x42,
    BitVec.ofNat 8 str.length] ++ str

def unsupportedRecord (id : BitVec 16) : List Byte :=
  [id.setWidth 8, (id >>> 8).setWidth 8, 0x86]

/-- The record of a Basic attribute. -/
def attrRecord (r : Router) (id : BitVec 16) :
    Host σ (Router × List Byte) :=
  if id = 0x0000 then pure (r, scalarRecord id 0x20 3)
  else if id = 0x0001 then pure (r, scalarRecord id 0x20 1)
  else if id = 0x0002 then pure (r, scalarRecord id 0x20 0x58)
  else if id = 0x0003 then pure (r, scalarRecord id 0x20 2)
  else if id = 0x0004 then pure (r, stringRecord id zclManufacturer)
  else if id = 0x0005 then pure (r, stringRecord id zclModel)
  else if id = 0x0007 then pure (r, scalarRecord id 0x30 0x01)
  else if id = 0x0010 then do
    let (r, name) ← zclLocation r
    pure (r, stringRecord id name)
  else if id = 0x4000 then pure (r, stringRecord id zclSwbuild)
  else pure (r, unsupportedRecord id)

/-- `zcl_append_attr`: the record, if it still fits. -/
def zclAppendAttr (r : Router) (resp : List Byte) (max : ℕ)
    (id : BitVec 16) : Host σ (Router × List Byte) := do
  let (r, rec) ← attrRecord r id
  pure (r, if resp.length + rec.length > max then resp else resp ++ rec)

/-- The attribute ids of a request, two bytes each. -/
def attributeIds : List Byte → List (BitVec 16)
  | low :: high :: rest => le16 [low, high] 0 :: attributeIds rest
  | _ => []

/-- The records of all attributes of a request that fit. -/
def appendAttrs (r : Router) (resp : List Byte) (ids : List (BitVec 16)) :
    Host σ (Router × List Byte) :=
  ids.foldlM (fun (r, resp) id => zclAppendAttr r resp 96 id) (r, resp)

def zclProfileZdo : BitVec 16 := 0x0000
def zdoMgmtPermitJoiningReq : BitVec 16 := 0x0036
def zclClusterBasic : BitVec 16 := 0x0000

/-- `zcl_handle_incoming` from the ZCL frame on. -/
def zclHandleFrame (r : Router) (sender cluster : BitVec 16)
    (zcl : List Byte) : Host σ Router :=
  let fc := zcl.getD 0 0
  let i := if fc &&& 0x04 ≠ 0 then 3 else 1
  if i + 1 ≥ zcl.length then pure r
  else if cluster ≠ zclClusterBasic then pure r
  -- only profile-wide Read Attributes
  else if fc &&& 0x03 ≠ 0x00 ∨ zcl.getD (i + 1) 0 ≠ 0x00 then pure r
  else do
    let (r, resp) ← appendAttrs r [0x18, zcl.getD i 0, 0x01]
      (attributeIds (zcl.drop (i + 2)))
    let (r, _) ← zclSend g p r sender zclClusterBasic resp
    pure r

/-- `zcl_handle_incoming`: type, APS frame, link quality, sender, and the
contents with their length in front. -/
def zclHandleIncoming (r : Router) (m : List Byte) : Host σ Router :=
  let zlen := (m.getD 18 0).toNat
  if m.length < 20 ∨ zlen < 3 ∨ m.length < 19 + zlen then pure r
  else if le16 m 1 = zclProfileZdo ∧ le16 m 3 = zdoMgmtPermitJoiningReq then
    pure r
  else zclHandleFrame g p r (le16 m 14) (le16 m 3) ((m.drop 19).take zlen)

/-- An unsolicited report of the attribute ZCLVersion. -/
def reportFrame : List Byte := [0x18, 0, 0x0A, 0x00, 0x00, 0x20, 3]

def zclReport (r : Router) : Host σ Router := do
  let now ← call (I := host) .time
  let (r, sent) ← zclSend g p { r with reportLast := now } 0x0000
    zclClusterBasic reportFrame
  if sent then pure { r with reportCount := r.reportCount + 1 }
  else pure { r with reportFailed := r.reportFailed + 1 }

/-- `report_interval`: jittered by a fifth in either direction. -/
def reportInterval (c : RouterCfg) : Host σ (BitVec 32) :=
  let span := c.reportSecs / 5
  if span = 0 then pure c.reportSecs
  else do
    let random ← call (I := host) .rand
    pure (c.reportSecs - span + BitVec.ofNat 32 random % (2 * span + 1))

end EzspSpi
