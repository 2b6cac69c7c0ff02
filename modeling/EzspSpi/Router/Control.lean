import EzspSpi.Router.Zcl

/-!
# The control socket

`control.c` where it answers the socket: the state of the network as
"key: value" lines, and one request of a client with its reply.
-/

namespace EzspSpi

open Program

variable {σ : Type} [Kernel σ] (g : Globals) (p : Pins)

/-! ## `control_status` -/

/-- The lines for the EUI64, if it came back. -/
def eui64Lines (reply : Option (List Byte)) : List (List Byte) :=
  let out := reply.getD []
  if out.length ≥ 8 then
    ascii "eui64: " :: colonHex (out.take 8).reverse
  else []

def nodeIdLines (reply : Option (List Byte)) : List (List Byte) :=
  let out := reply.getD []
  if out.length ≥ 2 then
    [ascii "node_id: 0x" ++ hexWord (out.getD 0 0) (out.getD 1 0) ++ ascii "\n"]
  else []

/-- The lines for the network parameters, which mean something only with the
status SUCCESS. -/
def parameterLines (reply : Option (List Byte)) : List (List Byte) :=
  let out := reply.getD []
  if out.length ≥ 14 ∧ out.getD 0 0 = emberSuccess then
    [ascii "node_type: " ++ ascii (nodeTypeName (out.getD 1 0)) ++ ascii "\n",
      ascii "ext_pan_id: "] ++ colonHex ((out.drop 2).take 8) ++
    [ascii "pan_id: 0x" ++ hexWord (out.getD 10 0) (out.getD 11 0) ++
        ascii "\n",
      ascii "tx_power: " ++ signedText (out.getD 12 0).toInt ++ ascii "\n",
      ascii "channel: " ++ unsignedText (out.getD 13 0).toNat ++ ascii "\n"]
  else []

def stateLine (reply : Option (List Byte)) : List Byte :=
  ascii "state: " ++
    ascii (((status? reply).map networkStateName).getD "unknown") ++ ascii "\n"

def reportsLine (r : Router) : List Byte :=
  ascii "reports: " ++ unsignedText r.reportCount.toNat ++ ascii " sent, " ++
    unsignedText r.reportFailed.toNat ++ ascii " failed\n"

/-- The time since the last report, if there was one, in the 32 bits of a
`long`. -/
def lastReportLines (r : Router) : Host σ (List (List Byte)) :=
  if r.reportLast ≠ 0 then do
    let now ← call (I := host) .time
    pure [ascii "last_report: " ++
      signedText ((now - r.reportLast).bmod (2 ^ 32)) ++ ascii "s ago\n"]
  else pure []

def controlStatus (r : Router) (max : ℕ) : Host σ (Router × List Byte) := do
  let (r, state) ← ezspCmd g p r ezspNetworkState [] 64
  let (r, eui) ← ezspCmd g p r ezspGetEui64 [] 64
  let (r, nodeId) ← ezspCmd g p r ezspGetNodeId [] 64
  let (r, parameters) ← ezspCmd g p r ezspGetNetworkParameters [] 64
  let last ← lastReportLines r
  let lines := [stateLine state] ++ eui64Lines eui ++ nodeIdLines nodeId ++
    parameterLines parameters ++ [reportsLine r] ++ last ++ [ascii "ok\n"]
  pure (r, (lines.foldl (Reply.print max) Reply.empty).text)

/-! ## `control_accept` -/

/-- The reply to "scan", which the stack normally refuses. -/
def acceptScan (r : Router) : Host σ (Router × List Byte) := do
  let (r, reply) ← ezspCmd g p r ezspStartScan (scanParams 0x07FFF800 3) 32
  pure (r, snprintf 1024
    (ascii "scan: refused while joined (status 0x" ++
      hexByte (shownStatus reply) ++ ascii " " ++
      ascii (emberStatusName (shownStatus reply)) ++ ascii ")\n" ++
      ascii "hint: stop the service to scan, it leaves the mesh\n"))

/-- The line for one entry of a table, if the NCP has it. -/
def neighborLine (reply : Option (List Byte)) : List (List Byte) :=
  let o := reply.getD []
  if o.length < 15 ∨ o.getD 0 0 ≠ emberSuccess then []
  else
    [ascii "neighbor: 0x" ++ hexWord (o.getD 1 0) (o.getD 2 0) ++
      ascii " lqi " ++ unsignedText (o.getD 3 0).toNat ++
      ascii " in " ++ unsignedText (o.getD 4 0).toNat ++
      ascii " out " ++ unsignedText (o.getD 5 0).toNat ++ ascii "\n"]

def routeLine (reply : Option (List Byte)) : List (List Byte) :=
  let o := reply.getD []
  if o.length < 7 ∨ o.getD 0 0 ≠ emberSuccess ∨ o.getD 5 0 = 2 then []
  -- an empty slot
  else if le16 o 1 = 0xFFFF then []
  else
    [ascii "route: dest 0x" ++ hexWord (o.getD 1 0) (o.getD 2 0) ++
      ascii " via 0x" ++ hexWord (o.getD 3 0) (o.getD 4 0) ++
      ascii " state " ++ unsignedText (o.getD 5 0).toNat ++ ascii "\n"]

def childLines (reply : Option (List Byte)) : List (List Byte) :=
  let o := reply.getD []
  if o.length < 12 ∨ o.getD 0 0 ≠ emberSuccess then []
  else
    (ascii "child: 0x" ++ hexWord (o.getD 1 0) (o.getD 2 0) ++ ascii " ") ::
      colonHex ((o.drop 3).take 8).reverse

/-- The entries of a table from `index` on, each asked for with the same
command, as long as the buffer has `room` for one more. -/
def tableEntries (frameId : Byte) (lines : Option (List Byte) → List (List Byte))
    (room : ℕ → Bool) :
    (entries index : ℕ) → Router → Reply → Host σ (Router × Reply)
  | 0, _, r, reply => pure (r, reply)
  | entries + 1, index, r, reply =>
      if room reply.at' then do
        let (r, entry) ← ezspCmd g p r frameId [BitVec.ofNat 8 index] 64
        tableEntries frameId lines room entries (index + 1) r
          ((lines entry).foldl (Reply.print 1024) reply)
      else pure (r, reply)

/-- A count, 0 where none came back. -/
def countOf (reply : Option (List Byte)) : ℕ := ((status? reply).getD 0).toNat

def acceptNeighbors (r : Router) : Host σ (Router × List Byte) := do
  let (r, count) ← ezspCmd g p r ezspNeighborCount [] 64
  let reply := Reply.empty.print 1024
    (ascii "neighbors: " ++ unsignedText (countOf count) ++ ascii "\n")
  let room := fun at' => decide (at' < 1024 - 80)
  let (r, reply) ← tableEntries g p ezspGetNeighbor neighborLine room
    (countOf count) 0 r reply
  let (r, reply) ← tableEntries g p ezspGetRouteTableEntry routeLine room
    16 0 r reply
  pure (r, reply.text)

def acceptChildren (r : Router) : Host σ (Router × List Byte) := do
  let (r, count) ← ezspCmd g p r ezspGetParentChildParams [] 64
  let reply := Reply.empty.print 1024
    (ascii "children: " ++ unsignedText (countOf count) ++ ascii "\n")
  let (r, reply) ← tableEntries g p ezspGetChildData childLines (fun _ => true)
    (min (countOf count) 8) 0 r reply
  pure (r, reply.text)

def acceptPower (r : Router) (req : List Byte) :
    Host σ (Router × List Byte) := do
  let dbm := if req.getD 5 0 = 0x20 then strtolDecimal (req.drop 6) else 8
  let (r, _, msg) ← ezspSetPower g p r dbm 1024
  pure (r, msg)

def acceptPermit (r : Router) (req : List Byte) :
    Host σ (Router × List Byte) := do
  let secs := if req.getD 6 0 = 0x20 then strtoulDecimal (req.drop 7) else 180
  let (r, _, msg) ← ezspPermit g p r secs 1024
  pure (r, msg)

/-- A request up to the end of its line. -/
def requestLine (bytes : List Byte) : List Byte :=
  (bytes.take 63).takeWhile fun c =>
    decide (c ≠ 0x00 ∧ c ≠ 0x0D ∧ c ≠ 0x0A)

/-- What a request is answered with. -/
def acceptRequest (r : Router) (req : List Byte) :
    Host σ (Router × List Byte) :=
  if req = ascii "status" then controlStatus g p r 1024
  else if req = ascii "scan" then acceptScan g p r
  else if req = ascii "neighbors" then acceptNeighbors g p r
  else if req = ascii "children" then acceptChildren g p r
  else if ascii "power" <+: req then acceptPower g p r req
  else if ascii "permit" <+: req then acceptPermit g p r req
  else pure (r, ascii ("error: unknown command\n" ++
    "commands: status scan children neighbors permit [seconds]\n" ++
    "          power [dbm]\n"))

/-- The one `write` of the reply, whose result is ignored. -/
def writeReply (fd : Int) (buf : List Byte) : Host σ Unit := do
  let got ← call (I := host) (.writeOnce fd buf)
  if got = .sigpipe then halt .killed else pure ()

def controlAccept (listenFd : Int) (r : Router) : Host σ Router := do
  let fd ← call (I := host) (.accept listenFd)
  match fd with
  | none => pure r
  | some fd => do
      let got ← call (I := host) (.read fd)
      match got with
      | .bytes (b :: bytes) => do
          let (r, reply) ← acceptRequest g p r (requestLine (b :: bytes))
          writeReply fd reply
          call (I := host) (.close fd)
          pure r
      | _ => do
          call (I := host) (.close fd)
          pure r

end EzspSpi
