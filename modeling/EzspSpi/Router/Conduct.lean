import EzspSpi.Router.Commands
import EzspSpi.Router.Reports

/-!
# How the router conducts itself

A contract and an assertion about the router and the history that are kept by
whatever leaves the bus alone, and by the transfers in `S`, are kept by every
command that makes no other transfer.
-/

namespace EzspSpi

open Program

variable {σ : Type} [Kernel σ] {α β : Type}

/-- From this router on the contract is kept, and the assertion holds of the
router that comes out. -/
def Abides (C : Contract host) (Inv : Router → List HostEvent → Prop)
    (r : Router) (next : α → Router) (m : Host σ α) : Prop :=
  ∀ h, Inv r h → Holds C h m fun a h' => Inv (next a) h'

namespace Abides

variable {C : Contract host} {Inv : Router → List HostEvent → Prop}
  {r : Router}

omit [Kernel σ] in
theorem pure {a : α} {next : α → Router} (hnext : next a = r) :
    Abides C Inv r next (Pure.pure a : Host σ α) :=
  fun _ hInv => Holds.pure (hnext ▸ hInv)

omit [Kernel σ] in
theorem bind {m : Host σ α} {f : α → Host σ β} {next : α → Router}
    {next' : β → Router} (hm : Abides C Inv r next m)
    (hf : ∀ a, Abides C Inv (next a) next' (f a)) :
    Abides C Inv r next' (m >>= f) :=
  fun h hInv => (hm h hInv).seq fun a h' hInv' => hf a h' hInv'

omit [Kernel σ] in
theorem ite {c : Prop} [Decidable c] {m m' : Host σ α} {next : α → Router}
    (hm : Abides C Inv r next m) (hm' : Abides C Inv r next m') :
    Abides C Inv r next (if c then m else m') := by
  split
  · exact hm
  · exact hm'

omit [Kernel σ] in
theorem foldlM {γ : Type} {f : β → γ → Host σ β} {next : β → Router}
    (hf : ∀ b x, Abides C Inv (next b) next (f b x)) (xs : List γ) (b : β) :
    Abides C Inv (next b) next (xs.foldlM f b) :=
  fun h hInv => Holds.foldlM (fun b x h => hf b x h) xs b h hInv

end Abides

/-- The same as far as the next frame goes. -/
structure Router.Like (r r' : Router) : Prop where
  seq : r'.seq = r.seq
  ezspVersion : r'.ezspVersion = r.ezspVersion

/-- An event that neither transfers anything nor moves a line, and is no
commanded reset. -/
def IsStill : HostEvent → Prop
  | .call (.spiTransfer _ _ _) _ => False
  | .call (.gpioSetValue _ _) _ => False
  | .note .reset => False
  | _ => True

/-- A frame id that may be sent with any parameters. -/
def Free (S : Byte → List Byte → Prop) (frameId : Byte) : Prop :=
  ∀ params, S frameId params

/-- The one true configuration and the endpoint may be sent. -/
structure Applies (S : Byte → List Byte → Prop) : Prop where
  settings : ∀ params ∈ trueConfiguration, S ezspSetConfigurationValue params
  endpoint : S ezspAddEndpointId endpointParams

/-- The attempts to join the configured network may be made. -/
structure Joins (S : Byte → List Byte → Prop) (c : RouterCfg) : Prop where
  join : ∀ r nwkUpdateId, S ezspJoinNetwork (joinParams c r nwkUpdateId)
  poll : Free S ezspCallback

structure Conduct (σ : Type) [Kernel σ] (g : Globals) (p : Pins)
    (C : Contract host) (Inv : Router → List HostEvent → Prop)
    (S : Byte → List Byte → Prop) : Prop where
  halt : ∀ h, C.halt h
  still : ∀ {r : Router} {h : List HostEvent} {e : HostEvent}, Inv r h →
    IsStill e → C.event h e ∧ Inv r (h ++ [e])
  alike : ∀ {r r' : Router} {h : List HostEvent}, Inv r h → r.Like r' →
    Inv r' h
  xfer : ∀ (r : Router) (frameId : Byte) (params : List Byte) (max : ℕ),
    S frameId params → params.length ≤ 135 →
    Abides C Inv r Prod.fst (ezspXfer g p r frameId params max : Host σ _)

namespace Conduct

variable {C : Contract host} {Inv : Router → List HostEvent → Prop}
  {S : Byte → List Byte → Prop} {g : Globals} {p : Pins}
  (hI : Conduct σ g p C Inv S)

include hI

theorem emits {m : Host σ α} (hm : Emits IsStill m) (r : Router) :
    Abides C Inv r (fun _ => r) m :=
  fun _ hInv => hm.holds (fun _ _ he hInv' => hI.still hInv' he)
    (fun h _ => hI.halt h) hInv

theorem call (c : Call) (hc : ∀ got, IsStill (.call c got)) (r : Router) :
    Abides C Inv r (fun _ => r)
      (Program.call (I := host) c : Host σ (host.Resp c)) :=
  hI.emits (Emits.call hc) r

/-- Another router to go on with. -/
theorem instead {r r' : Router} (hlike : r.Like r') {m : Host σ α}
    {next : α → Router} (hm : Abides C Inv r' next m) :
    Abides C Inv r next m :=
  fun h hInv => hm h (hI.alike hInv hlike)

theorem pure {a : α} {next : α → Router} {r : Router}
    (hlike : r.Like (next a)) :
    Abides C Inv r next (Pure.pure a : Host σ α) :=
  hI.instead hlike (Abides.pure rfl)

/-! ## Commands -/

theorem ezspCmd {frameId : Byte} {params : List Byte}
    (hid : S frameId params) (r : Router) (hparams : params.length ≤ 135)
    (max : ℕ) :
    Abides C Inv r Prod.fst (EzspSpi.ezspCmd g p r frameId params max :
      Host σ _) :=
  (hI.xfer r frameId params max hid hparams).bind fun _ => Abides.pure rfl

theorem ezspPollCallback (hid : Free S ezspCallback) (r : Router) (max : ℕ) :
    Abides C Inv r Prod.fst (EzspSpi.ezspPollCallback g p r max :
      Host σ _) := by
  apply (hI.xfer r ezspCallback [] max (hid []) (Nat.zero_le 135)).bind
  rintro ⟨r', reply⟩
  cases reply with
  | none => exact Abides.pure rfl
  | some reply => exact Abides.pure rfl

theorem ezspApplyConfig (happlies : Applies S) (r : Router) :
    Abides C Inv r id (EzspSpi.ezspApplyConfig g p r : Host σ _) := by
  have hset (r : Router) (setting : Byte × BitVec 16)
      (hsetting : settingParams setting ∈ trueConfiguration) :
      Abides C Inv r Prod.fst
        (EzspSpi.ezspSetConfig g p r setting.1 setting.2 : Host σ _) := by
    have hparams : (settingParams setting).length ≤ 135 := by
      simp [settingParams]
    exact (hI.ezspCmd (happlies.settings _ hsetting) r hparams 4).bind
      fun _ => Abides.pure rfl
  have hendpoint (r : Router) : Abides C Inv r Prod.fst
      (EzspSpi.ezspAddEndpoint g p r : Host σ _) :=
    (hI.ezspCmd happlies.endpoint r (by decide) 8).bind fun _ =>
      Abides.pure rfl
  apply (hset r (ezspConfigStackProfile, 2) (by decide)).bind
  intro out
  apply (hset out.1 (ezspConfigSecurityLevel, 5) (by decide)).bind
  intro out
  apply (hset out.1 (ezspConfigKeyTableSize, 4) (by decide)).bind
  intro out
  apply (hset out.1 (ezspConfigTcAddressCacheSize, 2) (by decide)).bind
  intro out
  exact (hendpoint out.1).bind fun _ => Abides.pure rfl

theorem ezspPermit (hid : Free S ezspPermitJoining) (r : Router)
    (seconds : BitVec 32) (max : ℕ) :
    Abides C Inv r Prod.fst (EzspSpi.ezspPermit g p r seconds max :
      Host σ _) := by
  apply (hI.ezspCmd (hid _) r (by simp) 8).bind
  rintro ⟨r', reply⟩
  exact Abides.ite (Abides.pure rfl) (Abides.pure rfl)

theorem ezspSetPower (hid : Free S ezspSetRadioPower) (r : Router)
    (dbm : BitVec 32) (max : ℕ) :
    Abides C Inv r Prod.fst (EzspSpi.ezspSetPower g p r dbm max :
      Host σ _) := by
  apply (hI.ezspCmd (hid _) r (by simp) 8).bind
  rintro ⟨r', reply⟩
  exact Abides.ite (Abides.pure rfl) (Abides.pure rfl)

/-! ## Scanning and joining -/

theorem scanPolls (hid : Free S ezspCallback) (panId : BitVec 16) (polls : ℕ)
    (r : Router) (out : List Byte) :
    Abides C Inv r Prod.fst (EzspSpi.scanPolls g p panId polls r out :
      Host σ _) := by
  induction polls generalizing r out with
  | zero => exact Abides.pure rfl
  | succ polls ih =>
      apply (hI.ezspPollCallback hid r 64).bind
      rintro ⟨r', id, payload⟩
      apply Abides.ite
      · exact Abides.ite (ih _ _) (Abides.pure rfl)
      · exact Abides.ite (Abides.pure rfl) (ih _ _)

/-- The frame ids of a scan. -/
def scanIds : List Byte := [ezspStartScan, ezspCallback]

theorem scanFind (hS : ∀ id ∈ scanIds, Free S id) (r : Router)
    (channel : BitVec 32) (panId : BitVec 16) (out : List Byte) :
    Abides C Inv r Prod.fst (EzspSpi.scanFind g p r channel panId out :
      Host σ _) := by
  have hparams : (scanParams (1 <<< channel.toNat) 3).length ≤ 135 := by
    simp [scanParams]
  apply (hI.ezspCmd (hS _ (by decide) _) r hparams 64).bind
  rintro ⟨r', reply⟩
  exact Abides.ite (Abides.pure rfl)
    (hI.scanPolls (hS _ (by decide)) _ _ _ _)

theorem joinPrecheck (hS : ∀ id ∈ scanIds, Free S id) (c : RouterCfg)
    (r : Router) (out : List Byte) :
    Abides C Inv r Prod.fst (EzspSpi.joinPrecheck g c p r out : Host σ _) := by
  apply Abides.ite
  · exact Abides.pure rfl
  · apply (hI.scanFind hS r _ _ _).bind
    rintro ⟨r', found⟩
    cases found with
    | failed => exact Abides.pure rfl
    | notFound => exact Abides.pure rfl
    | found ext allowing nwkUpdateId => exact hI.pure ⟨rfl, rfl⟩

theorem joinPolls (hid : Free S ezspCallback) (polls : ℕ) (r : Router)
    (out : List Byte) :
    Abides C Inv r Prod.fst (EzspSpi.joinPolls g p polls r out : Host σ _) := by
  induction polls generalizing r out with
  | zero => exact Abides.pure rfl
  | succ polls ih =>
      apply (hI.ezspPollCallback hid r 64).bind
      rintro ⟨r', id, payload⟩
      apply Abides.ite
      · exact ih r' _
      · apply Abides.ite
        · exact Abides.pure rfl
        · apply Abides.ite
          · exact Abides.pure rfl
          · exact Abides.ite (Abides.pure rfl) (ih r' _)

theorem joinOnce {c : RouterCfg} (hjoins : Joins S c) (nwkUpdateId : Byte)
    (r : Router) (out : List Byte) :
    Abides C Inv r Prod.fst (EzspSpi.joinOnce g c p nwkUpdateId r out :
      Host σ _) := by
  have hparams := length_joinParams_le c r nwkUpdateId
  apply (hI.ezspCmd (hjoins.join r nwkUpdateId) r hparams 64).bind
  rintro ⟨r', reply⟩
  exact Abides.ite (Abides.pure rfl) (hI.joinPolls hjoins.poll _ r' _)

theorem joinAttempt {c : RouterCfg} (hjoins : Joins S c) (nwkUpdateId : Byte)
    (retries : ℕ) (r : Router) (out : List Byte) {h : List HostEvent}
    (hInv : Inv r h) :
    Holds C h (EzspSpi.joinAttempt g c p nwkUpdateId retries r out :
      Host σ ℕ) fun _ _ => True := by
  induction retries generalizing r out h with
  | zero =>
      apply (hI.joinOnce hjoins nwkUpdateId r out h hInv).seq
      exact fun _ _ _ => Holds.pure trivial
  | succ retries ih =>
      apply (hI.joinOnce hjoins nwkUpdateId r out h hInv).seq
      rintro ⟨r', out', outcome⟩ h' hInv'
      cases outcome with
      | up => exact Holds.pure trivial
      | transient => exact ih r' out' hInv'
      | failed => exact Holds.pure trivial

theorem joinConfigured {c : RouterCfg} (happlies : Applies S)
    (hjoins : Joins S c) (hget : Free S ezspGetConfigurationValue)
    (hsecurity : S ezspSetInitialSecurityState (securityParams c))
    (nwkUpdateId : Byte) (r : Router) (out : List Byte) {h : List HostEvent}
    (hInv : Inv r h) :
    Holds C h (EzspSpi.joinConfigured g c p nwkUpdateId r out : Host σ ℕ)
      fun _ _ => True := by
  apply (hI.ezspApplyConfig happlies r h hInv).seq
  intro r h hInv
  apply (hI.ezspCmd (hget _) r (by decide) 64 h hInv).seq
  rintro ⟨r, profile⟩ h hInv
  dsimp only
  split
  · exact Holds.pure trivial
  · have hparams := length_securityParams_le c
    apply (hI.ezspCmd hsecurity r hparams 64 h hInv).seq
    rintro ⟨r, reply⟩ h hInv
    dsimp only
    split
    · exact Holds.pure trivial
    · exact hI.joinAttempt hjoins _ _ r _ hInv

/-! ## The control socket -/

/-- The frame ids of `control_status`. -/
def statusIds : List Byte :=
  [ezspNetworkState, ezspGetEui64, ezspGetNodeId, ezspGetNetworkParameters]

theorem controlStatus (hS : ∀ id ∈ statusIds, Free S id) (r : Router)
    (max : ℕ) :
    Abides C Inv r Prod.fst (EzspSpi.controlStatus g p r max : Host σ _) := by
  apply (hI.ezspCmd (hS _ (by decide) _) r (by decide) 64).bind
  rintro ⟨r, state⟩
  apply (hI.ezspCmd (hS _ (by decide) _) r (by decide) 64).bind
  rintro ⟨r, eui⟩
  apply (hI.ezspCmd (hS _ (by decide) _) r (by decide) 64).bind
  rintro ⟨r, nodeId⟩
  apply (hI.ezspCmd (hS _ (by decide) _) r (by decide) 64).bind
  rintro ⟨r, parameters⟩
  have hlast : Abides C Inv r (fun _ => r) (lastReportLines r : Host σ _) := by
    apply Abides.ite
    · exact (hI.call .time (fun _ => trivial) r).bind fun _ => Abides.pure rfl
    · exact Abides.pure rfl
  exact hlast.bind fun _ => Abides.pure rfl

theorem tableEntries {frameId : Byte} (hid : Free S frameId)
    (lines : Option (List Byte) → List (List Byte)) (room : ℕ → Bool)
    (entries index : ℕ) (r : Router) (reply : Reply) :
    Abides C Inv r Prod.fst (EzspSpi.tableEntries g p frameId lines room
      entries index r reply : Host σ _) := by
  induction entries generalizing index r reply with
  | zero => exact Abides.pure rfl
  | succ entries ih =>
      apply Abides.ite
      · have hparams : [BitVec.ofNat 8 index].length ≤ 135 := by
          rw [List.length_singleton]
          decide
        apply (hI.ezspCmd (hid _) r hparams 64).bind
        exact fun _ => ih _ _ _
      · exact Abides.pure rfl

/-- The frame ids of `control_accept`. -/
def requestIds : List Byte :=
  statusIds ++ [ezspStartScan, ezspNeighborCount, ezspGetNeighbor,
    ezspGetRouteTableEntry, ezspGetParentChildParams, ezspGetChildData,
    ezspSetRadioPower, ezspPermitJoining]

theorem acceptRequest (hS : ∀ id ∈ requestIds, Free S id) (r : Router)
    (req : List Byte) :
    Abides C Inv r Prod.fst (EzspSpi.acceptRequest g p r req : Host σ _) := by
  have hstatus : ∀ id ∈ statusIds, Free S id :=
    fun id hid => hS id (List.mem_append_left _ hid)
  have hcmd {frameId : Byte} (hid : frameId ∈ requestIds) (r : Router)
      {params : List Byte} (hparams : params.length ≤ 135) (max : ℕ) :=
    hI.ezspCmd (hS frameId hid params) r hparams max
  have htable {frameId : Byte} (hid : frameId ∈ requestIds)
      (lines : Option (List Byte) → List (List Byte)) (room : ℕ → Bool)
      (entries : ℕ) (r : Router) (reply : Reply) :=
    hI.tableEntries (hS frameId hid) lines room entries 0 r reply
  apply Abides.ite
  · exact hI.controlStatus hstatus r 1024
  apply Abides.ite
  · exact (hcmd (by decide) r (by decide) 32).bind fun _ => Abides.pure rfl
  apply Abides.ite
  · apply (hcmd (by decide) r (by decide) 64).bind
    rintro ⟨r, count⟩
    apply (htable (by decide) _ _ _ r _).bind
    rintro ⟨r, reply⟩
    exact (htable (by decide) _ _ _ r _).bind fun _ => Abides.pure rfl
  apply Abides.ite
  · apply (hcmd (by decide) r (by decide) 64).bind
    rintro ⟨r, count⟩
    exact (htable (by decide) _ _ _ r _).bind fun _ => Abides.pure rfl
  apply Abides.ite
  · exact (hI.ezspSetPower (hS _ (by decide)) r _ _).bind fun _ =>
      Abides.pure rfl
  apply Abides.ite
  · exact (hI.ezspPermit (hS _ (by decide)) r _ _).bind fun _ =>
      Abides.pure rfl
  · exact Abides.pure rfl

theorem controlAccept (hS : ∀ id ∈ requestIds, Free S id) (listenFd : Int)
    (r : Router) :
    Abides C Inv r id (EzspSpi.controlAccept g p listenFd r :
      Host σ Router) := by
  apply (hI.call (.accept listenFd) (fun _ => trivial) r).bind
  intro fd
  cases fd with
  | none => exact Abides.pure rfl
  | some fd =>
      have hclose (r : Router) : Abides C Inv r id (do
          Program.call (I := host) (.close fd)
          Pure.pure r : Host σ Router) :=
        (hI.call (.close fd) (fun _ => trivial) r).bind fun _ =>
          Abides.pure rfl
      apply (hI.call (.read fd) (fun _ => trivial) r).bind
      intro got
      cases got with
      | bytes bytes =>
          cases bytes with
          | nil => exact hclose r
          | cons b bytes =>
              apply (hI.acceptRequest hS r _).bind
              rintro ⟨r', reply⟩
              have hwrite : Emits IsStill (writeReply fd reply : Host σ Unit) :=
                writeReply_emits fun _ => trivial
              exact (hI.emits hwrite r').bind fun _ => hclose r'
      | interrupted => exact hclose r
      | failed => exact hclose r

end Conduct

end EzspSpi
