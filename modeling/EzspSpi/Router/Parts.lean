import EzspSpi.Router.Run
import EzspSpi.Spi.Parts

/-!
# The parts of the router's commands

What holds of transactions, of the commands whose frame id is in `S` and of the
reply to a client, and carries over to the whole, holds of the router's
commands.
-/

namespace EzspSpi

open Program

variable {σ : Type} [Kernel σ]

/-- A command that neither configures the NCP nor starts the network, and whose
frame id stands in every layout for itself. -/
def IsRoutine (frameId : Byte) : Prop :=
  frameId ∉ [ezspSetConfigurationValue, ezspNetworkInit, ezspJoinNetwork,
    0x01, 0xFF]

instance (frameId : Byte) : Decidable (IsRoutine frameId) :=
  inferInstanceAs (Decidable (_ ∉ _))

/-- The commands of the router with such a frame id. -/
def RouterCommand (S : Byte → Prop) (tx : List Byte) : Prop :=
  ∃ ver seq frameId params, S frameId ∧ tx = ezspTx ver seq frameId params

structure RouterParts (J : (α : Type) → Host σ α → Prop)
    (S : Byte → Prop) : Prop extends TxnParts J (RouterCommand S) where
  routine : ∀ frameId, IsRoutine frameId → S frameId
  call : ∀ c, IsAsideCall c → J (host.Resp c) (Program.call (I := host) c)
  writeReply : ∀ fd buf, J Unit (EzspSpi.writeReply fd buf)

theorem writeReply_emits {K : HostEvent → Prop} {fd : Int} {buf : List Byte}
    (hK : ∀ got, K (.call (.writeOnce fd buf) got)) :
    Emits K (writeReply fd buf : Host σ Unit) :=
  (Emits.call hK).bind fun _ => Emits.ite Emits.halt Emits.pure

namespace TxnParts

variable {J : (α : Type) → Host σ α → Prop} {T : List Byte → Prop}
  (hJ : TxnParts J T) (g : Globals) (p : Pins)

include hJ

theorem ezspXfer (r : Router) {frameId : Byte} {params : List Byte}
    (hfits : ¬params.length + 5 > 160)
    (htx : T (ezspTx r.ezspVersion r.seq frameId params)) (payloadMax : ℕ) :
    J _ (EzspSpi.ezspXfer g p r frameId params payloadMax) := by
  rw [EzspSpi.ezspXfer, if_neg hfits]
  apply hJ.bind (hJ.doCmd g p htx 260 true)
  rintro ⟨cls, rx⟩
  exact Modular.ite (hJ.pure _) (hJ.pure _)

theorem askVersion
    (hask : ∀ seq want, T (ezspTx 4 seq EzspSpi.ezspVersion [want]))
    (r : Router) (want : Byte) : J _ (EzspSpi.askVersion g p r want) := by
  have hfits : ¬[want].length + 5 > 160 := by simp
  have hxfer := hJ.ezspXfer g p { r with ezspVersion := 4 } hfits
    (hask r.seq want) 8
  exact hJ.bind hxfer fun _ => hJ.pure _

theorem commandReset (hreset : J Unit (note .reset)) :
    J Unit (EzspSpi.commandReset p) :=
  hJ.bind hreset fun _ => hJ.ncpReset p

theorem ezspInit
    (hask : ∀ seq want, T (ezspTx 4 seq EzspSpi.ezspVersion [want]))
    (hreset : J Unit (note .reset)) (c : RouterCfg) (r : Router) :
    J _ (EzspSpi.ezspInit g p c r) := by
  apply hJ.bind (hJ.askVersion g p hask r _)
  rintro ⟨r', reply⟩
  apply Modular.ite (hJ.pure _)
  apply Modular.ite _ (hJ.pure _)
  apply hJ.bind (hJ.commandReset p hreset)
  intro _
  apply hJ.bind (hJ.askVersion g p hask r' _)
  rintro ⟨r'', reply'⟩
  exact Modular.ite (hJ.pure _) (hJ.pure _)

theorem radioUp
    (hask : ∀ seq want, T (ezspTx 4 seq EzspSpi.ezspVersion [want]))
    (hreset : J Unit (note .reset)) (c : RouterCfg) (r : Router) :
    J _ (EzspSpi.radioUp g c p r) :=
  hJ.bind (hJ.onlyIf (hJ.commandReset p hreset)) fun _ =>
    hJ.ezspInit g p hask hreset c r

end TxnParts

/-! ## ZCL -/

section Zcl

variable {J : (α : Type) → Host σ α → Prop} {T : List Byte → Prop}
  (hJ : TxnParts J T)
  (hhostname : J _ (Program.call (I := host) .hostname))
  (hsend : ∀ ver seq params, T (ezspTx ver seq ezspSendUnicast params))
  (g : Globals) (p : Pins)

namespace TxnParts

include hJ

section Records

include hhostname

theorem zclLocation (r : Router) : J _ (EzspSpi.zclLocation r) :=
  Modular.ite (hJ.pure _) (hJ.bind hhostname fun _ => hJ.pure _)

theorem attrRecord (r : Router) (id : BitVec 16) :
    J _ (EzspSpi.attrRecord r id) := by
  rw [EzspSpi.attrRecord]
  repeat apply Modular.ite (hJ.pure _)
  apply Modular.ite
  · exact hJ.bind (hJ.zclLocation hhostname r) fun _ => hJ.pure _
  · exact Modular.ite (hJ.pure _) (hJ.pure _)

end Records

include hsend

theorem zclSend (r : Router) (dest cluster : BitVec 16)
    (payload : List Byte) :
    J _ (EzspSpi.zclSend g p r dest cluster payload) := by
  rw [EzspSpi.zclSend]
  by_cases hlong : payload.length > 64
  · rw [if_pos hlong]
    exact hJ.pure _
  · have hlength : (unicastParams r dest cluster payload).length =
        16 + payload.length := by
      rw [unicastParams, List.length_append]
      rfl
    have hfits : ¬(unicastParams r dest cluster payload).length + 5 > 160 := by
      omega
    have hxfer := hJ.ezspXfer g p { r with tag := r.tag + 1 } hfits
      (hsend _ _ _) 8
    rw [if_neg hlong]
    apply hJ.bind (hJ.bind hxfer fun _ => hJ.pure _)
    exact fun _ => hJ.pure _

include hhostname

theorem zclHandleFrame (r : Router) (sender cluster : BitVec 16)
    (zcl : List Byte) :
    J Router (EzspSpi.zclHandleFrame g p r sender cluster zcl) := by
  apply Modular.ite (hJ.pure _)
  apply Modular.ite (hJ.pure _)
  apply Modular.ite (hJ.pure _)
  have hattr (out : Router × List Byte) (id : BitVec 16) :
      J _ (zclAppendAttr out.1 out.2 96 id) :=
    hJ.bind (hJ.attrRecord hhostname _ _) fun _ => hJ.pure _
  apply hJ.bind (hJ.foldlM hattr _ _)
  rintro ⟨r', resp⟩
  exact hJ.bind (hJ.zclSend hsend g p _ _ _ _) fun _ => hJ.pure _

theorem runCallback (r : Router) (id : Byte) (out : List Byte) :
    J Router (EzspSpi.runCallback g p r id out) := by
  have hincoming : J Router (zclHandleIncoming g p r out) :=
    Modular.ite (hJ.pure _) (Modular.ite (hJ.pure _)
      (hJ.zclHandleFrame hhostname hsend g p _ _ _ _))
  exact Modular.ite hincoming (Modular.ite (hJ.pure _) (hJ.pure _))

end TxnParts

end Zcl

/-! ## Commands -/

theorem length_securityParams_le (c : RouterCfg) :
    (securityParams c).length ≤ 135 := by
  simp [securityParams, zigbeeAlliance09]

theorem length_joinParams_le (c : RouterCfg) (r : Router) (nwkUpdateId : Byte) :
    (joinParams c r nwkUpdateId).length ≤ 135 := by
  have hext := List.length_take_le 8 r.extPanId
  simp only [joinParams, List.length_append, List.length_cons, List.length_nil]
  omega

/-- A property of the commands with a frame id in `S`, all but the routine ones
of which start or configure something. -/
structure CommandParts (J : (α : Type) → Host σ α → Prop) (S : Byte → Prop)
    (g : Globals) (p : Pins) : Prop extends Modular J where
  routine : ∀ frameId, IsRoutine frameId → S frameId
  xfer : ∀ (r : Router) (frameId : Byte) (params : List Byte)
    (payloadMax : ℕ), S frameId → params.length ≤ 135 →
    J _ (EzspSpi.ezspXfer g p r frameId params payloadMax)

namespace CommandParts

variable {J : (α : Type) → Host σ α → Prop} {S : Byte → Prop} {g : Globals}
  {p : Pins} (hJ : CommandParts J S g p)

include hJ

theorem ezspCmd {frameId : Byte} (hid : S frameId) (r : Router)
    {params : List Byte} (hparams : params.length ≤ 135) (payloadMax : ℕ) :
    J _ (EzspSpi.ezspCmd g p r frameId params payloadMax) :=
  hJ.bind (hJ.xfer r frameId params payloadMax hid hparams) fun _ => hJ.pure _

theorem routineCmd {frameId : Byte} (hid : IsRoutine frameId) (r : Router)
    {params : List Byte} (hparams : params.length ≤ 135) (payloadMax : ℕ) :
    J _ (EzspSpi.ezspCmd g p r frameId params payloadMax) :=
  hJ.ezspCmd (hJ.routine _ hid) r hparams payloadMax

theorem ezspPollCallback (r : Router) (max : ℕ) :
    J _ (EzspSpi.ezspPollCallback g p r max) := by
  have hid : S ezspCallback := hJ.routine _ (by decide)
  apply hJ.bind (hJ.xfer r ezspCallback [] max hid (Nat.zero_le 135))
  rintro ⟨r', reply⟩
  cases reply with
  | none => exact hJ.pure _
  | some reply => exact hJ.pure _

theorem ezspSetConfig (hset : S ezspSetConfigurationValue) (r : Router)
    (id : Byte) (value : BitVec 16) :
    J _ (EzspSpi.ezspSetConfig g p r id value) := by
  have hparams : [id, value.setWidth 8, (value >>> 8).setWidth 8].length ≤
      135 := by
    simp
  exact hJ.bind (hJ.ezspCmd hset r hparams _) fun _ => hJ.pure _

theorem ezspAddEndpoint (r : Router) :
    J _ (EzspSpi.ezspAddEndpoint g p r) :=
  hJ.bind (hJ.routineCmd (by decide) r (by decide) _) fun _ => hJ.pure _

theorem ezspApplyConfig (hset : S ezspSetConfigurationValue) (r : Router) :
    J Router (EzspSpi.ezspApplyConfig g p r) := by
  rw [EzspSpi.ezspApplyConfig]
  apply hJ.bind (hJ.ezspSetConfig hset r _ _)
  intro out
  apply hJ.bind (hJ.ezspSetConfig hset out.1 _ _)
  intro out
  apply hJ.bind (hJ.ezspSetConfig hset out.1 _ _)
  intro out
  apply hJ.bind (hJ.ezspSetConfig hset out.1 _ _)
  intro out
  exact hJ.bind (hJ.ezspAddEndpoint out.1) fun _ => hJ.pure _

theorem scanPolls (panId : BitVec 16) (polls : ℕ) (r : Router)
    (out : List Byte) : J _ (EzspSpi.scanPolls g p panId polls r out) := by
  induction polls generalizing r out with
  | zero => exact hJ.pure _
  | succ polls ih =>
      apply hJ.bind (hJ.ezspPollCallback r 64)
      rintro ⟨r', id, payload⟩
      apply Modular.ite
      · exact Modular.ite (ih _ _) (hJ.pure _)
      · exact Modular.ite (hJ.pure _) (ih _ _)

theorem scanFind (r : Router) (channel : BitVec 32) (panId : BitVec 16)
    (out : List Byte) : J _ (EzspSpi.scanFind g p r channel panId out) := by
  have hparams : (scanParams (1 <<< channel.toNat) 3).length ≤ 135 := by
    simp [scanParams]
  apply hJ.bind (hJ.routineCmd (by decide) r hparams _)
  rintro ⟨r', reply⟩
  exact Modular.ite (hJ.pure _) (hJ.scanPolls _ _ _ _)

theorem joinPrecheck (c : RouterCfg) (r : Router) (out : List Byte) :
    J _ (EzspSpi.joinPrecheck g c p r out) := by
  apply Modular.ite (hJ.pure _)
  apply hJ.bind (hJ.scanFind r _ _ _)
  rintro ⟨r', found⟩
  cases found with
  | failed => exact hJ.pure _
  | notFound => exact hJ.pure _
  | found ext allowing nwkUpdateId => exact hJ.pure _

theorem joinPolls (polls : ℕ) (r : Router) (out : List Byte) :
    J _ (EzspSpi.joinPolls g p polls r out) := by
  induction polls generalizing r out with
  | zero => exact hJ.pure _
  | succ polls ih =>
      apply hJ.bind (hJ.ezspPollCallback r 64)
      rintro ⟨r', id, payload⟩
      apply Modular.ite (ih r' _)
      apply Modular.ite (hJ.pure _)
      apply Modular.ite (hJ.pure _)
      exact Modular.ite (hJ.pure _) (ih r' _)

theorem joinOnce (hjoin : S ezspJoinNetwork) (c : RouterCfg)
    (nwkUpdateId : Byte) (r : Router) (out : List Byte) :
    J _ (EzspSpi.joinOnce g c p nwkUpdateId r out) := by
  have hparams := length_joinParams_le c r nwkUpdateId
  apply hJ.bind (hJ.ezspCmd hjoin r hparams _)
  rintro ⟨r', reply⟩
  exact Modular.ite (hJ.pure _) (hJ.joinPolls _ r' _)

theorem joinAttempt (hjoin : S ezspJoinNetwork) (c : RouterCfg)
    (nwkUpdateId : Byte) (retries : ℕ) (r : Router) (out : List Byte) :
    J ℕ (EzspSpi.joinAttempt g c p nwkUpdateId retries r out) := by
  induction retries generalizing r out with
  | zero =>
      exact hJ.bind (hJ.joinOnce hjoin c _ r out) fun _ => hJ.pure _
  | succ retries ih =>
      apply hJ.bind (hJ.joinOnce hjoin c _ r out)
      rintro ⟨r', out', outcome⟩
      cases outcome with
      | up => exact hJ.pure _
      | transient => exact ih r' out'
      | failed => exact hJ.pure _

theorem joinConfigured (hset : S ezspSetConfigurationValue)
    (hjoin : S ezspJoinNetwork) (c : RouterCfg) (nwkUpdateId : Byte)
    (r : Router) (out : List Byte) :
    J ℕ (EzspSpi.joinConfigured g c p nwkUpdateId r out) := by
  apply hJ.bind (hJ.ezspApplyConfig hset r)
  intro r
  apply hJ.bind (hJ.routineCmd (by decide) r (by decide) 64)
  rintro ⟨r, profile⟩
  apply Modular.ite (hJ.pure 1)
  have hparams := length_securityParams_le c
  apply hJ.bind (hJ.routineCmd (by decide) r hparams 64)
  rintro ⟨r, reply⟩
  exact Modular.ite (hJ.pure 1) (hJ.joinAttempt hjoin c _ _ r _)

end CommandParts

namespace RouterParts

variable {J : (α : Type) → Host σ α → Prop} {S : Byte → Prop}
  (hJ : RouterParts J S) (g : Globals) (p : Pins)

include hJ

/-! ## EZSP -/

theorem commandParts : CommandParts J S g p where
  toModular := hJ.toModular
  routine := hJ.routine
  xfer r _ _ payloadMax hid hparams :=
    hJ.ezspXfer g p r (by omega) ⟨_, _, _, _, hid, rfl⟩ payloadMax

theorem ezspCmd {frameId : Byte} (hid : S frameId) (r : Router)
    {params : List Byte} (hparams : params.length ≤ 135) (payloadMax : ℕ) :
    J _ (EzspSpi.ezspCmd g p r frameId params payloadMax) :=
  (hJ.commandParts g p).ezspCmd hid r hparams payloadMax

theorem routineCmd {frameId : Byte} (hid : IsRoutine frameId) (r : Router)
    {params : List Byte} (hparams : params.length ≤ 135) (payloadMax : ℕ) :
    J _ (EzspSpi.ezspCmd g p r frameId params payloadMax) :=
  (hJ.commandParts g p).routineCmd hid r hparams payloadMax

theorem radioUp (hreset : J Unit (note .reset)) (c : RouterCfg)
    (r : Router) : J _ (EzspSpi.radioUp g c p r) := by
  have hid : S EzspSpi.ezspVersion := hJ.routine _ (by decide)
  exact hJ.toTxnParts.radioUp g p (fun _ _ => ⟨_, _, _, _, hid, rfl⟩) hreset c r

theorem ezspPermit (r : Router) (seconds : BitVec 32) (max : ℕ) :
    J _ (EzspSpi.ezspPermit g p r seconds max) := by
  apply hJ.bind (hJ.routineCmd g p (by decide) r (by simp) _)
  rintro ⟨r', reply⟩
  exact Modular.ite (hJ.pure _) (hJ.pure _)

theorem ezspSetPower (r : Router) (dbm : BitVec 32) (max : ℕ) :
    J _ (EzspSpi.ezspSetPower g p r dbm max) := by
  apply hJ.bind (hJ.routineCmd g p (by decide) r (by simp) _)
  rintro ⟨r', reply⟩
  exact Modular.ite (hJ.pure _) (hJ.pure _)

/-! ## ZCL -/

theorem zclSend (r : Router) (dest cluster : BitVec 16)
    (payload : List Byte) : J _ (EzspSpi.zclSend g p r dest cluster payload) :=
  hJ.toTxnParts.zclSend
    (fun _ _ _ => ⟨_, _, _, _, hJ.routine _ (by decide), rfl⟩) g p _ _ _ _

theorem zclReport (r : Router) : J Router (EzspSpi.zclReport g p r) := by
  apply hJ.bind (hJ.call .time ⟨trivial, id⟩)
  intro now
  apply hJ.bind (hJ.zclSend g p _ _ _ _)
  rintro ⟨r', sent⟩
  exact Modular.ite (hJ.pure _) (hJ.pure _)

theorem reportInterval (c : RouterCfg) :
    J _ (EzspSpi.reportInterval c) :=
  Modular.ite (hJ.pure _)
    (hJ.bind (hJ.call .rand ⟨trivial, id⟩) fun _ => hJ.pure _)

/-! ## The control socket -/

theorem controlStatus (r : Router) (max : ℕ) :
    J _ (EzspSpi.controlStatus g p r max) := by
  apply hJ.bind (hJ.routineCmd g p (by decide) r (by simp) _)
  intro state
  apply hJ.bind (hJ.routineCmd g p (by decide) state.1 (by simp) _)
  intro eui
  apply hJ.bind (hJ.routineCmd g p (by decide) eui.1 (by simp) _)
  intro nodeId
  apply hJ.bind (hJ.routineCmd g p (by decide) nodeId.1 (by simp) _)
  intro parameters
  have hlast : J _ (lastReportLines parameters.1) :=
    Modular.ite
      (hJ.bind (hJ.call .time ⟨trivial, id⟩) fun _ => hJ.pure _) (hJ.pure _)
  exact hJ.bind hlast fun _ => hJ.pure _

theorem tableEntries {frameId : Byte} (hid : IsRoutine frameId)
    (lines : Option (List Byte) → List (List Byte)) (room : ℕ → Bool)
    (entries index : ℕ) (r : Router) (reply : Reply) :
    J _ (EzspSpi.tableEntries g p frameId lines room entries index r
      reply) := by
  induction entries generalizing index r reply with
  | zero => exact hJ.pure _
  | succ entries ih =>
      apply Modular.ite _ (hJ.pure _)
      exact hJ.bind (hJ.routineCmd g p hid r (by simp) _) fun _ => ih _ _ _

theorem acceptNeighbors (r : Router) :
    J _ (EzspSpi.acceptNeighbors g p r) := by
  apply hJ.bind (hJ.routineCmd g p (by decide) r (by simp) _)
  intro count
  apply hJ.bind (hJ.tableEntries g p (by decide) _ _ _ _ count.1 _)
  intro neighbors
  exact hJ.bind (hJ.tableEntries g p (by decide) _ _ _ _ neighbors.1 _)
    fun _ => hJ.pure _

theorem acceptChildren (r : Router) :
    J _ (EzspSpi.acceptChildren g p r) := by
  apply hJ.bind (hJ.routineCmd g p (by decide) r (by simp) _)
  intro count
  exact hJ.bind (hJ.tableEntries g p (by decide) _ _ _ _ count.1 _)
    fun _ => hJ.pure _

theorem acceptRequest (r : Router) (req : List Byte) :
    J _ (EzspSpi.acceptRequest g p r req) := by
  apply Modular.ite (hJ.controlStatus g p r _)
  apply Modular.ite
  · have hparams : (scanParams 0x07FFF800 3).length ≤ 135 := by
      simp [scanParams]
    exact hJ.bind (hJ.routineCmd g p (by decide) r hparams _) fun _ =>
      hJ.pure _
  apply Modular.ite (hJ.acceptNeighbors g p r)
  apply Modular.ite (hJ.acceptChildren g p r)
  apply Modular.ite (hJ.bind (hJ.ezspSetPower g p r _ _) fun _ => hJ.pure _)
  apply Modular.ite (hJ.bind (hJ.ezspPermit g p r _ _) fun _ => hJ.pure _)
  exact hJ.pure _

theorem controlAccept (listenFd : Int) (r : Router) :
    J Router (EzspSpi.controlAccept g p listenFd r) := by
  apply hJ.bind (hJ.call (.accept _) ⟨trivial, id⟩)
  intro fd
  cases fd with
  | none => exact hJ.pure _
  | some fd =>
      have hclose (r : Router) : J Router (do
          Program.call (I := host) (.close fd)
          pure r) :=
        hJ.bind (hJ.call (.close _) ⟨trivial, id⟩) fun _ => hJ.pure _
      apply hJ.bind (hJ.call (.read _) ⟨trivial, id⟩)
      intro got
      cases got with
      | bytes bytes =>
          cases bytes with
          | nil => exact hclose r
          | cons b bytes =>
              apply hJ.bind (hJ.acceptRequest g p r _)
              intro answer
              exact hJ.bind (hJ.writeReply _ _) fun _ => hclose answer.1
      | interrupted => exact hclose r
      | failed => exact hclose r

/-! ## Tables and leaving -/

theorem dumpTable {frameId : Byte} (hid : IsRoutine frameId)
    (entries index : ℕ) (r : Router) :
    J Router (EzspSpi.dumpTable g p frameId entries index r) := by
  induction entries generalizing index r with
  | zero => exact hJ.pure _
  | succ entries ih =>
      exact hJ.bind (hJ.routineCmd g p hid r (by simp) _) fun _ => ih _ _

theorem leavePolls (polls : ℕ) (r : Router) (out : List Byte) :
    J ℕ (EzspSpi.leavePolls g p polls r out) := by
  induction polls generalizing r out with
  | zero => exact hJ.pure _
  | succ polls ih =>
      apply hJ.bind ((hJ.commandParts g p).ezspPollCallback r 64)
      rintro ⟨r', id, payload⟩
      exact Modular.ite (hJ.pure _) (ih r' _)

/-! ## The daemon -/

theorem runCallback (r : Router) (id : Byte) (out : List Byte) :
    J Router (EzspSpi.runCallback g p r id out) :=
  hJ.toTxnParts.runCallback (hJ.call .hostname ⟨trivial, not_false⟩)
    (fun _ _ _ => ⟨_, _, _, _, hJ.routine _ (by decide), rfl⟩) g p _ _ _

theorem runDrain (hstuck : J (Router × List Byte) (Program.halt .stuck))
    (polls : ℕ) (r : Router) (out : List Byte) :
    J _ (EzspSpi.runDrain g p polls r out) := by
  induction polls generalizing r out with
  | zero => exact hstuck
  | succ polls ih =>
      apply hJ.bind ((hJ.commandParts g p).ezspPollCallback r 64)
      rintro ⟨r', id, payload⟩
      apply hJ.bind (hJ.runCallback g p r' id _)
      exact fun r'' => Modular.ite (hJ.pure _) (ih r'' _)

theorem runReport (c : RouterCfg) (st : Running) :
    J Running (EzspSpi.runReport g c p st) := by
  apply Modular.ite (hJ.pure _)
  apply hJ.bind (hJ.call .time ⟨trivial, id⟩)
  intro now
  apply Modular.ite (hJ.pure _)
  apply hJ.bind (hJ.zclReport g p _)
  intro r
  apply hJ.bind (hJ.call .time ⟨trivial, id⟩)
  intro now
  exact hJ.bind (hJ.reportInterval c) fun _ => hJ.pure _

section Loop

variable {polls : ℕ}
  (hdrain : ∀ r out, J _ (EzspSpi.runDrain g p polls r out))

include hdrain

theorem runServe (c : RouterCfg) (st : Running) (watch : Bool)
    (revents : ℕ → Revents) :
    J Running (EzspSpi.runServe g c p polls st watch revents) := by
  have hrest (r : Router) : J Running
      (EzspSpi.runDrain g p polls r st.out >>= fun drained =>
        EzspSpi.runReport g c p
          { st with router := drained.1, out := drained.2 }) :=
    hJ.bind (hdrain r st.out) fun _ => hJ.runReport g p c _
  rw [EzspSpi.runServe]
  apply hJ.bind (hJ.onlyIf (hJ.call (.gpioReadEdge _) ⟨trivial, id⟩))
  intro _
  split
  · exact hJ.bind (hJ.controlAccept g p _ _) hrest
  · exact hJ.bind (hJ.pure _) hrest

variable (hpoll : ∀ fds timeout,
  J (ℕ → Revents) (Program.call (I := host) (.pollEvents fds timeout)))

include hpoll

omit hdrain in
theorem runPoll (c : RouterCfg) (st : Running) (watch : Bool) :
    J _ (EzspSpi.runPoll c p st watch) := by
  have hwait (timeout : Int) (fds : List Int) : J _ (
      if fds ≠ [] then Program.call (I := host) (.pollEvents fds timeout)
      else pure fun _ => ⟨false, false, false⟩) :=
    Modular.ite (hpoll _ _) (hJ.pure _)
  rw [EzspSpi.runPoll]
  split
  · apply hJ.bind (hJ.call .time ⟨trivial, id⟩)
    intro now
    exact hJ.bind (hJ.pure _) fun timeout => hwait timeout _
  · exact hJ.bind (hJ.pure _) fun timeout => hwait timeout _

theorem runPass (c : RouterCfg) (st : Running) :
    J Running (EzspSpi.runPass g c p polls st) := by
  have hwatch : J Bool (runWatch p) := by
    apply Modular.ite _ (hJ.pure _)
    exact hJ.bind (hJ.gpioGet _) fun _ => hJ.pure _
  apply hJ.bind hwatch
  intro watch
  apply hJ.bind (hJ.runPoll p hpoll c st watch)
  exact fun revents => hJ.runServe g p hdrain c st watch revents

theorem runPasses (c : RouterCfg) (passes : ℕ) (st : Running) :
    J Running (EzspSpi.runPasses g c p polls passes st) := by
  induction passes generalizing st with
  | zero => exact hJ.pure _
  | succ passes ih =>
      exact hJ.bind (hJ.runPass g p hdrain hpoll c st) fun st' => ih st'

end Loop

/-- `cmd_run` from the configuration on. -/
theorem runConfigured (hinit : S ezspNetworkInit) (c : RouterCfg)
    (out : List Byte) (r : Router) : J (Option Running) (do
      let (r, _) ← EzspSpi.ezspCmd g p r ezspGetEui64 [] 16
      let now ← Program.call (I := host) .time
      let stagger ←
        if c.reportSecs ≠ 0 then Program.call (I := host) .rand else pure 0
      let (r, reply) ← EzspSpi.ezspCmd g p r ezspNetworkInit [] 64
      let out := overwrite out 0 (reply.getD [])
      let r ←
        if status? reply ≠ some emberSuccess then do
          let (r, _) ← EzspSpi.ezspCmd g p r ezspNetworkState [] 8
          pure r
        else pure r
      let listenFd ← Program.call (I := host) .controlListen
      pure (some ⟨r, out, now + (stagger % 30 : ℕ),
        listenFd.elim (-1) fun fd => fd⟩)) := by
  have hlisten (f : Option ℕ → Option Running) : J (Option Running) (do
      let listenFd ← Program.call (I := host) .controlListen
      pure (f listenFd)) :=
    hJ.bind (hJ.call .controlListen ⟨trivial, id⟩) fun _ => hJ.pure _
  have hinited (r : Router) (now : Int) (stagger : ℕ) :
      J (Option Running) (do
        let (r, reply) ← EzspSpi.ezspCmd g p r ezspNetworkInit [] 64
        let out := overwrite out 0 (reply.getD [])
        let r ←
          if status? reply ≠ some emberSuccess then do
            let (r, _) ← EzspSpi.ezspCmd g p r ezspNetworkState [] 8
            pure r
          else pure r
        let listenFd ← Program.call (I := host) .controlListen
        pure (some ⟨r, out, now + (stagger % 30 : ℕ),
          listenFd.elim (-1) fun fd => fd⟩)) := by
    apply hJ.bind (hJ.ezspCmd g p hinit r (by simp) _)
    rintro ⟨r', reply⟩
    dsimp only
    split
    · apply hJ.bind (hJ.routineCmd g p (by decide) r' (by simp) _)
      exact fun _ => hJ.bind (hJ.pure _) fun _ => hlisten _
    · exact hJ.bind (hJ.pure _) fun _ => hlisten _
  apply hJ.bind (hJ.routineCmd g p (by decide) r (by simp) _)
  intro eui
  apply hJ.bind (hJ.call .time ⟨trivial, id⟩)
  intro now
  split
  · exact hJ.bind (hJ.call .rand ⟨trivial, id⟩) fun _ => hinited _ _ _
  · exact hJ.bind (hJ.pure _) fun _ => hinited _ _ _

/-- `cmd_run` up to its loop. -/
theorem runStart (hreset : J Unit (note .reset))
    (hset : S ezspSetConfigurationValue) (hinit : S ezspNetworkInit)
    (c : RouterCfg) (r : Router) (out : List Byte) :
    J (Option Running) (EzspSpi.runStart g c p r out) := by
  apply hJ.bind (hJ.radioUp g p hreset c r)
  rintro ⟨r', ver⟩
  apply Modular.ite (hJ.pure _)
  apply hJ.bind ((hJ.commandParts g p).ezspApplyConfig hset r')
  exact hJ.runConfigured g p hinit c out

theorem cmdRun (hreset : J Unit (note .reset))
    (hset : S ezspSetConfigurationValue) (hinit : S ezspNetworkInit)
    {polls : ℕ} (hdrain : ∀ r out, J _ (EzspSpi.runDrain g p polls r out))
    (hpoll : ∀ fds timeout,
      J (ℕ → Revents) (Program.call (I := host) (.pollEvents fds timeout)))
    (c : RouterCfg) (passes : ℕ) (out : List Byte) (r : Router) :
    J ℕ (EzspSpi.cmdRun g c p polls passes out r) := by
  apply hJ.bind (hJ.runStart g p hreset hset hinit c r out)
  intro st
  cases st with
  | none => exact hJ.pure _
  | some st =>
      exact hJ.bind (hJ.runPasses g p hdrain hpoll c passes st) fun _ =>
        hJ.pure _

end RouterParts

end EzspSpi
