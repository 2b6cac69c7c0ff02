import EzspSpi.Router.Configured
import EzspSpi.Router.ScanPage
import EzspSpi.Router.Verify

/-!
# The commands that only look

`cmd_scan`, `cmd_config`, `cmd_policy` and `cmd_bootloader`, from the open
lines to the exit status and the lines they print, and the table of all
commands that talk to the NCP in EZSP frames.
-/

namespace EzspSpi

open Program

variable {σ : Type} [Kernel σ] (g : Globals) (c : RouterCfg) (p : Pins)

def ezspGetPolicy : Byte := 0x56

/-! ## Scanning -/

/-- The channels of a scan: the one configured, or 11 to 26. -/
def scanMask : BitVec 32 :=
  if c.channel ≠ 0 then 1 <<< c.channel.toNat else 0x07FFF800

def scanRefused (reply : Option (List Byte)) : Line :=
  ascii "  startScan failed (status 0x" ++ hexByte (shownStatus reply) ++
    ascii " " ++ ascii (emberStatusName (shownStatus reply)) ++ ascii ")"

/-- `cmd_scan` with `out` as the stack has it. -/
def cmdScan (out : List Byte) (r : Router) : Host σ (ℕ × List Line) := do
  let (r, ver) ← radioUp g c p r
  if ver = none then pure (1, [])
  else do
    let (r, reply) ← ezspCmd g p r ezspStartScan (scanParams (scanMask c) 4) 64
    if status? reply ≠ some emberSuccess then pure (1, [scanRefused reply])
    else do
      let out := overwrite out 0 (reply.getD [])
      let (found, lines) ← scanRounds g p 240 0 r out
      pure (if found ≠ 0 then 0 else 1, ascii "  scanning..." :: [] :: lines)

/-! ## Dumping the configuration and the policies -/

/-- `%-*s`: blanks up to the width. -/
def leftJustified (width : ℕ) (text : List Byte) : List Byte :=
  text ++ List.replicate (width - text.length) 0x20

def ezspConfigName (id : Byte) : String :=
  if id = 0x01 then "packet buffer count"
  else if id = 0x02 then "neighbor table size"
  else if id = 0x03 then "aps unicast message count"
  else if id = 0x04 then "binding table size"
  else if id = 0x05 then "address table size"
  else if id = 0x06 then "multicast table size"
  else if id = 0x07 then "route table size"
  else if id = 0x08 then "discovery table size"
  else if id = 0x0C then "stack profile"
  else if id = 0x0D then "security level"
  else if id = 0x10 then "max hops"
  else if id = 0x11 then "max end device children"
  else if id = 0x12 then "indirect transmission timeout"
  else if id = 0x13 then "end device poll timeout"
  else if id = 0x17 then "tx power mode"
  else if id = 0x18 then "disable relay"
  else if id = 0x19 then "trust center address cache size"
  else if id = 0x1A then "source route table size"
  else if id = 0x1E then "key table size"
  else if id = 0x1F then "aps ack timeout"
  else if id = 0x20 then "active scan duration"
  else if id = 0x22 then "pan id conflict report threshold"
  else if id = 0x24 then "request key timeout"
  else if id = 0x2A then "application zdo flags"
  else if id = 0x2B then "broadcast table size"
  else if id = 0x2C then "mac filter table size"
  else if id = 0x2D then "supported networks"
  else if id = 0x36 then "transient key timeout"
  else ""

def ezspPolicyName (id : Byte) : String :=
  if id = 0x00 then "trust center"
  else if id = 0x01 then "binding modification"
  else if id = 0x02 then "unicast replies"
  else if id = 0x03 then "poll handler"
  else if id = 0x04 then "message contents in callback"
  else if id = 0x05 then "tc key request"
  else if id = 0x06 then "app key request"
  else if id = 0x07 then "packet validate library"
  else if id = 0x08 then "zll"
  else ""

/-- The hint that matters here: who answers unicasts. -/
def ezspDecisionHint (policy decision : Byte) : String :=
  if policy ≠ 0x02 then ""
  else if decision = 0x20 then "  <- NCP replies (wanted)"
  else if decision = 0x21 then "  <- HOST must reply (breaks relaying)"
  else ""

/-- The row of a configuration value; one that is not supported has none. -/
def configRow (id : Byte) (out : List Byte) : Option Line :=
  if out.length < 3 ∨ out.getD 0 0 ≠ emberSuccess then none
  else some (ascii "  0x" ++ hexByte id ++ ascii "  " ++
    leftJustified 34 (ascii (ezspConfigName id)) ++ ascii " " ++
      unsignedText (le16 out 1).toNat)

def policyRow (id : Byte) (out : List Byte) : Option Line :=
  if out.length < 2 ∨ out.getD 0 0 ≠ emberSuccess then none
  else some (ascii "  0x" ++ hexByte id ++ ascii "  " ++
    leftJustified 30 (ascii (ezspPolicyName id)) ++ ascii " 0x" ++
      hexByte (out.getD 1 0) ++
        ascii (ezspDecisionHint id (out.getD 1 0)))

/-- One command for each id, and the rows of those that have one. -/
def dumpRows (frameId : Byte) (row : Byte → List Byte → Option Line) :
    (ids : List Byte) → Router → Host σ (List Line)
  | [], _ => pure []
  | id :: ids, r => do
      let (r, reply) ← ezspCmd g p r frameId [id] 8
      let later ← dumpRows frameId row ids r
      pure ((row id (reply.getD [])).toList ++ later)

/-- The ids 0x01 to 0x40. -/
def configIds : List Byte := (List.range' 0x01 0x40).map (BitVec.ofNat 8)

/-- The ids 0x00 to 0x08. -/
def policyIds : List Byte := (List.range' 0x00 0x09).map (BitVec.ofNat 8)

def tableHead (width : ℕ) (id name value : String) : Line :=
  ascii "  " ++ leftJustified 5 (ascii id) ++ ascii " " ++
    leftJustified width (ascii name) ++ ascii " " ++ ascii value

def cmdConfig (r : Router) : Host σ (ℕ × List Line) := do
  let (r, ver) ← radioUp g c p r
  if ver = none then pure (1, [])
  else do
    let rows ← dumpRows g p ezspGetConfigurationValue configRow configIds r
    pure (0, [] :: tableHead 34 "id" "name" "value" ::
      tableHead 34 "-----" "----" "-----" :: rows)

def cmdPolicy (r : Router) : Host σ (ℕ × List Line) := do
  let (r, ver) ← radioUp g c p r
  if ver = none then pure (1, [])
  else do
    let rows ← dumpRows g p ezspGetPolicy policyRow policyIds r
    pure (0, [] :: tableHead 30 "id" "policy" "decision" ::
      tableHead 30 "-----" "------" "--------" :: rows)

/-! ## The bootloader -/

/-- What the answer to getBootloaderVersion is reported as. -/
def bootloaderLines (out : List Byte) : List Line :=
  [ascii "  bootloader version   0x" ++ hexWord (out.getD 0 0) (out.getD 1 0) ++
      (if le16 out 0 = 0xFFFF then ascii "  (none / not present)" else []),
    ascii "  platform             " ++ unsignedText (out.getD 2 0).toNat,
    ascii "  micro                " ++ unsignedText (out.getD 3 0).toNat,
    ascii "  phy                  " ++ unsignedText (out.getD 4 0).toNat,
    [],
    ascii "  Note: the standalone bootloader lives in its own flash",
    ascii "  region. Writing an application image does not touch it, so a",
    ascii "  failed application flash leaves the bootloader able to retry."]

def cmdBootloader (r : Router) : Host σ (ℕ × List Line) := do
  let (r, ver) ← radioUp g c p r
  if ver = none then pure (1, [])
  else do
    let (_, reply) ← ezspCmd g p r ezspGetBootloaderVersion [] 16
    let out := reply.getD []
    if out.length < 5 then
      pure (1, [ascii "  no answer -- no standalone bootloader reported"])
    else pure (0, bootloaderLines out)

/-! ## All of them -/

/-- The commands of `main` that talk to the NCP in EZSP frames of their own,
with their arguments and the buffers as the stack has them. -/
inductive RadioCommand where
  | flow (flow : Flow)
  | scan (out : List Byte)
  | config
  | policy
  | bootloader
  | verify (file : Option (List Byte))

def RadioCommand.program (r : Router) : RadioCommand → Host σ ℕ
  | .flow f => f.program g c p r
  | .scan out => Prod.fst <$> cmdScan g c p out r
  | .config => Prod.fst <$> cmdConfig g c p r
  | .policy => Prod.fst <$> cmdPolicy g c p r
  | .bootloader => Prod.fst <$> cmdBootloader g c p r
  | .verify file => cmdVerify g c p file r

end EzspSpi
