import EzspSpi.Host.Playback
import EzspSpi.Router.Calls
import EzspSpi.Router.Parts
import Mathlib.Data.List.DropRight

/-!
# The configuration the network starts under

Every command that starts the network first sends the four settings of
`ezsp_apply_config`, and nothing else sets a configuration value.  No one looks
at what became of them, so the network starts under the one true configuration
exactly if the NCP took every setting.
-/

namespace EzspSpi

open Program

variable {σ : Type} [Kernel σ]

/-! ## Settings and their acknowledgement -/

/-- networkInit or joinNetwork is sent. -/
def StartsNetwork : HostEvent → Prop
  | .call (.spiTransfer tx false _) _ =>
      commandId tx = ezspNetworkInit ∨ commandId tx = ezspJoinNetwork
  | _ => False

def isCommandedReset : HostEvent → Bool
  | .note .reset => true
  | _ => false

/-- What happened since the last commanded reset, or all of it without one. -/
def sinceCommandedReset (h : List HostEvent) : List HostEvent :=
  h.rtakeWhile fun e => !isCommandedReset e

/-- The parameters of setConfigurationValue. -/
def settingParams (setting : Byte × BitVec 16) : List Byte :=
  [setting.1, setting.2.setWidth 8, (setting.2 >>> 8).setWidth 8]

/-- Stack profile 2, security level 5, key table size 4 and trust centre address
cache 2. -/
def trueConfiguration : List (List Byte) :=
  [(ezspConfigStackProfile, 2), (ezspConfigSecurityLevel, 5),
    (ezspConfigKeyTableSize, 4), (ezspConfigTcAddressCacheSize, 2)].map
      settingParams

/-- A setConfigurationValue command with these parameters. -/
def IsSetting (params tx : List Byte) : Prop :=
  commandId tx = ezspSetConfigurationValue ∧ commandParams tx = params

instance (params tx : List Byte) : Decidable (IsSetting params tx) :=
  inferInstanceAs (Decidable (_ ∧ _))

/-- The exchange carries an answer to setConfigurationValue with the status
SUCCESS: neither refused nor lost nor garbled. -/
def Exchange.accepted (x : Exchange) : Bool :=
  x.frame?.any fun f =>
    decide (f.getD (commandLayout x.command).2 0 = ezspSetConfigurationValue ∧
      (f.drop (commandLayout x.command).1).head? = some emberSuccess)

/-- The NCP has acknowledged this setting since the last commanded reset. -/
def Acknowledged (h : List HostEvent) (params : List Byte) : Prop :=
  ∃ x ∈ exchanges (sinceCommandedReset h), IsSetting params x.command ∧
    x.accepted = true

instance (h : List HostEvent) (params : List Byte) :
    Decidable (Acknowledged h params) :=
  inferInstanceAs (Decidable (∃ x ∈ _, _))

/-- The NCP has acknowledged the one true configuration. -/
def Configured (h : List HostEvent) : Prop :=
  ∀ params ∈ trueConfiguration, Acknowledged h params

/-- Whatever was set since the last commanded reset has been acknowledged. -/
def NothingRefused (h : List HostEvent) : Prop :=
  ∀ x ∈ exchanges (sinceCommandedReset h),
    commandId x.command = ezspSetConfigurationValue →
      Acknowledged h (commandParams x.command)

instance (h : List HostEvent) : Decidable (NothingRefused h) :=
  inferInstanceAs (Decidable (∀ x ∈ _, _))

/-! ## What has been set -/

/-- An event that sends a setting. -/
def Sets (params : List Byte) (e : HostEvent) : Prop :=
  ∃ tx, commandOf e = some tx ∧ IsSetting params tx

/-- Exactly these settings were sent since the last commanded reset. -/
def HasSet (sent : List (List Byte)) (h : List HostEvent) : Prop :=
  ∀ params, (∃ e ∈ sinceCommandedReset h, Sets params e) ↔ params ∈ sent

theorem mem_exchanges_command {t : List HostEvent} {tx : List Byte} :
    (∃ x ∈ exchanges t, x.command = tx) ↔ ∃ e ∈ t, commandOf e = some tx := by
  induction t with
  | nil => simp [exchanges]
  | cons e t ih =>
      cases hcommand : commandOf e with
      | none => simp [exchanges, hcommand, ih]
      | some tx' => simp [exchanges, hcommand, ih]

/-- With exactly the settings of the one true configuration sent, it is
acknowledged if all that was sent is. -/
theorem HasSet.configured_iff {h : List HostEvent}
    (hsent : HasSet trueConfiguration h) :
    Configured h ↔ NothingRefused h := by
  constructor
  · intro hall x hx hid
    obtain ⟨e, he, hcommand⟩ := mem_exchanges_command.mp ⟨x, hx, rfl⟩
    exact hall _ ((hsent _).mp ⟨e, he, x.command, hcommand, hid, rfl⟩)
  · intro hall params hparams
    obtain ⟨e, he, tx, hcommand, hid, rfl⟩ := (hsent params).mpr hparams
    obtain ⟨x, hx, rfl⟩ := mem_exchanges_command.mpr ⟨e, he, hcommand⟩
    exact hall x hx hid

theorem sinceCommandedReset_concat {h : List HostEvent} {e : HostEvent}
    (he : isCommandedReset e = false) :
    sinceCommandedReset (h ++ [e]) = sinceCommandedReset h ++ [e] := by
  apply List.rtakeWhile_concat_pos
  rw [he]
  rfl

theorem sinceCommandedReset_append {h t : List HostEvent}
    (ht : ∀ e ∈ t, isCommandedReset e = false) :
    sinceCommandedReset (h ++ t) = sinceCommandedReset h ++ t := by
  induction t using List.reverseRecOn with
  | nil => simp
  | append_singleton t e ih =>
      have hrest := ih fun e' he' => ht e' (List.mem_append_left _ he')
      rw [← List.append_assoc,
        sinceCommandedReset_concat (ht e List.mem_concat_self), hrest,
        List.append_assoc]

/-- A reset leaves nothing set. -/
theorem HasSet.reset {h : List HostEvent} {e : HostEvent}
    (he : isCommandedReset e = true) : HasSet [] (h ++ [e]) := by
  have hnil : sinceCommandedReset (h ++ [e]) = [] := by
    apply List.rtakeWhile_concat_neg
    simp [he]
  intro params
  simp [hnil]

/-- Events that set nothing leave what was set. -/
theorem HasSet.append {sent : List (List Byte)} {h t : List HostEvent}
    (hsent : HasSet sent h) (hreset : ∀ e ∈ t, isCommandedReset e = false)
    (ht : ∀ e ∈ t, ∀ params, ¬Sets params e) : HasSet sent (h ++ t) := by
  intro params
  rw [sinceCommandedReset_append hreset, ← hsent params]
  constructor
  · rintro ⟨e, he, hsets⟩
    rcases List.mem_append.mp he with he | he
    · exact ⟨e, he, hsets⟩
    · exact absurd hsets (ht e he params)
  · rintro ⟨e, he, hsets⟩
    exact ⟨e, List.mem_append_left _ he, hsets⟩

/-- Events that send one setting add it to what was set. -/
theorem HasSet.set {sent : List (List Byte)} {h t : List HostEvent}
    {params : List Byte} (hsent : HasSet sent h)
    (hreset : ∀ e ∈ t, isCommandedReset e = false)
    (ht : ∀ e ∈ t, ∀ params', Sets params' e → params' = params)
    (hsets : ∃ e ∈ t, Sets params e) : HasSet (sent ++ [params]) (h ++ t) := by
  intro params'
  rw [sinceCommandedReset_append hreset, List.mem_append, List.mem_singleton,
    ← hsent params']
  constructor
  · rintro ⟨e, he, hsets'⟩
    rcases List.mem_append.mp he with he | he
    · exact Or.inl ⟨e, he, hsets'⟩
    · exact Or.inr (ht e he params' hsets')
  · rintro (⟨e, he, hsets'⟩ | rfl)
    · exact ⟨e, List.mem_append_left _ he, hsets'⟩
    · obtain ⟨e, he, hsets'⟩ := hsets
      exact ⟨e, List.mem_append_right _ he, hsets'⟩

/-! ## The commands -/

/-- Whenever the network is started, exactly the one true configuration was
sent. -/
def startsAfterSettings : Contract host where
  event h e := StartsNetwork e → HasSet trueConfiguration h
  halt _ := True

/-- Before the configuration: nothing is set and nothing started. -/
def IsPreparing (e : HostEvent) : Prop :=
  ¬StartsNetwork e ∧ ∀ params, ¬Sets params e

/-- After the configuration: nothing is set, and the NCP is not reset. -/
def IsSettled (e : HostEvent) : Prop :=
  isCommandedReset e = false ∧ ∀ params, ¬Sets params e

/-- While this setting is sent. -/
def IsSetOf (params : List Byte) (e : HostEvent) : Prop :=
  isCommandedReset e = false ∧ ¬StartsNetwork e ∧
    ∀ params', Sets params' e → params' = params

theorem not_sets_of_no_command {e : HostEvent} (he : commandOf e = none)
    (params : List Byte) : ¬Sets params e := by
  rintro ⟨tx, htx, _⟩
  rw [he] at htx
  cases htx

theorem IsPlainCall.not_starts {c : Call} (hc : IsPlainCall c)
    (r : host.Resp c) :
    ¬StartsNetwork (.call c r) ∧ commandOf (.call c r) = none := by
  cases c with
  | spiTransfer tx keepRx keepCs => exact hc.elim
  | _ => exact ⟨id, rfl⟩

theorem commandOf_transfer {tx tx' : List Byte} {keepCs : Bool}
    {rx : host.Resp (.spiTransfer tx false keepCs)}
    (h : commandOf (.call (.spiTransfer tx false keepCs) rx) = some tx') :
    tx' = tx := by
  cases rx with
  | none => cases h
  | some rx =>
      cases h
      rfl

/-- No command with another frame id sets anything. -/
theorem not_sets_of_command {tx : List Byte} {keepCs : Bool}
    (htx : commandId tx ≠ ezspSetConfigurationValue)
    (rx : host.Resp (.spiTransfer tx false keepCs)) (params : List Byte) :
    ¬Sets params (.call (.spiTransfer tx false keepCs) rx) := by
  rintro ⟨tx', hcommand, hid, _⟩
  rw [commandOf_transfer hcommand] at hid
  exact htx hid

theorem IsPlainCall.isPreparing {c : Call} (hc : IsPlainCall c)
    (r : host.Resp c) : IsPreparing (.call c r) :=
  ⟨(hc.not_starts r).1, not_sets_of_no_command (hc.not_starts r).2⟩

theorem IsPlainCall.isSettled {c : Call} (hc : IsPlainCall c)
    (r : host.Resp c) : IsSettled (.call c r) :=
  ⟨rfl, not_sets_of_no_command (hc.not_starts r).2⟩

/-- The routine commands prepare the NCP. -/
theorem preparing_parts : RouterParts
    (fun (α : Type) (m : Host σ α) => Emits IsPreparing m) IsRoutine where
  toTxnParts := by
    apply BusParts.txnParts
    apply emits_busParts
    · exact fun c hc r => hc.isPlainCall.isPreparing r
    · exact fun _ _ _ => ⟨id, not_sets_of_no_command rfl⟩
    · rintro _ keepCs ⟨ver, seq, frameId, params, hid, rfl⟩ rx
      obtain ⟨⟨hset, hinit, hjoin⟩, hplain⟩ :
          (frameId ≠ ezspSetConfigurationValue ∧ frameId ≠ ezspNetworkInit ∧
            frameId ≠ ezspJoinNetwork) ∧ frameId ∉ [0x01, 0xFF] := by
        simpa [IsRoutine, and_assoc] using hid
      have hread := (command_ezspTx hplain ver seq params).1
      constructor
      · rintro (h | h)
        · exact hinit (hread.symm.trans h)
        · exact hjoin (hread.symm.trans h)
      · exact not_sets_of_command (fun h => hset (hread.symm.trans h)) rx
  routine _ := id
  call _ hc := Emits.call hc.1.isPreparing
  writeReply _ _ := writeReply_emits fun _ =>
    ⟨id, not_sets_of_no_command rfl⟩

/-- Once the NCP is configured these commands may be sent. -/
def IsSettledId (frameId : Byte) : Prop :=
  frameId ∉ [ezspSetConfigurationValue, 0x01, 0xFF]

instance (frameId : Byte) : Decidable (IsSettledId frameId) :=
  inferInstanceAs (Decidable (_ ∉ _))

theorem settled_parts : RouterParts
    (fun (α : Type) (m : Host σ α) => Emits IsSettled m) IsSettledId where
  toTxnParts := by
    apply BusParts.txnParts
    apply emits_busParts
    · exact fun c hc r => hc.isPlainCall.isSettled r
    · exact fun _ _ _ => ⟨rfl, not_sets_of_no_command rfl⟩
    · rintro _ keepCs ⟨ver, seq, frameId, params, hid, rfl⟩ rx
      obtain ⟨hset, hplain⟩ : frameId ≠ ezspSetConfigurationValue ∧
          frameId ∉ [0x01, 0xFF] := by
        simpa [IsSettledId] using hid
      have hread := (command_ezspTx hplain ver seq params).1
      exact ⟨rfl, not_sets_of_command (fun h => hset (hread.symm.trans h)) rx⟩
  routine frameId hid := by
    have hsubset : [ezspSetConfigurationValue, 0x01, 0xFF] ⊆
        [ezspSetConfigurationValue, ezspNetworkInit, ezspJoinNetwork,
          0x01, 0xFF] := by
      decide
    exact fun hmem => hid (hsubset hmem)
  call _ hc := Emits.call hc.1.isSettled
  writeReply _ _ := writeReply_emits fun _ =>
    ⟨rfl, not_sets_of_no_command rfl⟩

/-- The transactions of one setting. -/
theorem setting_parts (params : List Byte) : BusParts
    (fun (α : Type) (m : Host σ α) => Emits (IsSetOf params) m)
    (IsSetting params) := by
  apply emits_busParts
  · intro c hc r
    obtain ⟨hstarts, hcommand⟩ := hc.isPlainCall.not_starts r
    exact ⟨rfl, hstarts, fun _ hsets =>
      absurd hsets (not_sets_of_no_command hcommand _)⟩
  · exact fun _ _ _ => ⟨rfl, id, fun _ hsets =>
      absurd hsets (not_sets_of_no_command rfl _)⟩
  · intro tx keepCs htx rx
    refine ⟨rfl, ?_, ?_⟩
    · rintro (h | h)
      · exact absurd (htx.1.symm.trans h) (by decide)
      · exact absurd (htx.1.symm.trans h) (by decide)
    · rintro params' ⟨tx', hcommand, hsetting⟩
      rw [commandOf_transfer hcommand] at hsetting
      exact hsetting.2.symm.trans htx.2

/-! ## What the parts bring about -/

section Specifications

variable (g : Globals) (p : Pins) {h : List HostEvent}

omit [Kernel σ] in
theorem preparing_holds {α : Type} {m : Host σ α} (hm : Emits IsPreparing m)
    (hsent : HasSet [] h) :
    Holds startsAfterSettings h m fun _ h' => HasSet [] h' := by
  apply hm.holds _ (fun _ _ => trivial) hsent
  intro h' e he hsent'
  refine ⟨fun hstarts => absurd hstarts he.1, ?_⟩
  cases hreset : isCommandedReset e with
  | true => exact HasSet.reset hreset
  | false =>
      apply hsent'.append
      · exact fun e' he' => List.mem_singleton.mp he' ▸ hreset
      · exact fun e' he' => List.mem_singleton.mp he' ▸ he.2

omit [Kernel σ] in
theorem settled_holds {α : Type} {m : Host σ α} (hm : Emits IsSettled m)
    (hsent : HasSet trueConfiguration h) :
    Holds startsAfterSettings h m fun _ h' => HasSet trueConfiguration h' := by
  apply hm.holds _ (fun _ _ => trivial) hsent
  intro h' e he hsent'
  refine ⟨fun _ => hsent', ?_⟩
  apply hsent'.append
  · exact fun e' he' => List.mem_singleton.mp he' ▸ he.1
  · exact fun e' he' => List.mem_singleton.mp he' ▸ he.2

theorem startsAfterSettings_bus : Bus startsAfterSettings where
  gpio h e he hstarts := by
    cases e with
    | note n => exact hstarts.elim
    | call c r =>
        cases c with
        | spiTransfer tx keepRx keepCs => exact he.elim
        | _ => exact hstarts.elim
  idle _ _ _ _ hstarts := hstarts.elim
  failed _ _ := trivial

theorem setting_holds {params tx : List Byte} (htx : IsSetting params tx)
    {sent : List (List Byte)} (hsent : HasSet sent h) :
    Holds startsAfterSettings h (doCmd g p tx 260 true : Host σ _)
      fun _ h' => HasSet (sent ++ [params]) h' := by
  have hne : tx ≠ [] := by
    rintro rfl
    exact absurd htx.1 (by decide)
  have hcommand : ∀ t, MayCommand tx t → ∀ rx, startsAfterSettings.event
      (h ++ t) (.call (.spiTransfer tx false true) rx) := by
    rintro t _ rx (hstarts | hstarts)
    · exact absurd (htx.1.symm.trans hstarts) (by decide)
    · exact absurd (htx.1.symm.trans hstarts) (by decide)
  have hemits := (setting_parts (σ := σ) params).doCmd g p htx 260 true
  apply ((doCmd_holds startsAfterSettings_bus (fun _ => trivial) g p hne
    hcommand).emitting hemits).mono
  rintro _ _ ⟨⟨t, x, rfl, hcommanded, _⟩, t', ht', htrace⟩
  obtain rfl : t = t' := List.append_cancel_left htrace
  apply hsent.set (fun e he => (ht' e he).1) (fun e he => (ht' e he).2.2)
  have hx : x ∈ exchanges t := by
    obtain ⟨hlast, _⟩ := hcommanded.exchanges_append []
    exact List.mem_of_getLast? hlast
  obtain ⟨e, he, hsent⟩ := mem_exchanges_command.mp ⟨x, hx, hcommanded.2.1⟩
  exact ⟨e, he, tx, hsent, htx⟩

theorem ezspSetConfig_holds {sent : List (List Byte)}
    (hsent : HasSet sent h) (r : Router) (id : Byte) (value : BitVec 16) :
    Holds startsAfterSettings h (ezspSetConfig g p r id value : Host σ _)
      fun _ h' => HasSet (sent ++ [settingParams (id, value)]) h' := by
  have hsetting : IsSetting (settingParams (id, value))
      (ezspTx r.ezspVersion r.seq ezspSetConfigurationValue
        (settingParams (id, value))) :=
    command_ezspTx (by decide) _ _ _
  have hshort : ¬(settingParams (id, value)).length + 5 > 160 := by
    simp [settingParams]
  have hxfer : Holds startsAfterSettings h
      (ezspXfer g p r ezspSetConfigurationValue (settingParams (id, value)) 4 :
        Host σ _)
      fun _ h' => HasSet (sent ++ [settingParams (id, value)]) h' := by
    rw [ezspXfer, if_neg hshort]
    apply (setting_holds g p hsetting hsent).seq
    rintro ⟨cls, rx⟩ h' hsent'
    dsimp only
    split
    · exact Holds.pure hsent'
    · exact Holds.pure hsent'
  have hcmd : Holds startsAfterSettings h
      (ezspCmd g p r ezspSetConfigurationValue (settingParams (id, value)) 4 :
        Host σ _)
      fun _ h' => HasSet (sent ++ [settingParams (id, value)]) h' :=
    hxfer.seq fun _ _ hsent' => Holds.pure hsent'
  exact hcmd.seq fun _ _ hsent' => Holds.pure hsent'

theorem ezspApplyConfig_holds (hsent : HasSet [] h) (r : Router) :
    Holds startsAfterSettings h (ezspApplyConfig g p r : Host σ Router)
      fun _ h' => HasSet trueConfiguration h' := by
  rw [ezspApplyConfig]
  apply (ezspSetConfig_holds g p hsent r _ _).seq
  intro out h' hsent
  apply (ezspSetConfig_holds g p hsent out.1 _ _).seq
  intro out h' hsent
  apply (ezspSetConfig_holds g p hsent out.1 _ _).seq
  intro out h' hsent
  apply (ezspSetConfig_holds g p hsent out.1 _ _).seq
  intro out h' hsent
  have hparts := (settled_parts (σ := σ)).commandParts g p
  have hendpoint := hparts.ezspAddEndpoint out.1
  exact (settled_holds hendpoint hsent).seq fun _ _ hsent => Holds.pure hsent

theorem radioUp_holds (hsent : HasSet [] h) (c : RouterCfg) (r : Router) :
    Holds startsAfterSettings h (radioUp g c p r : Host σ _)
      fun _ h' => HasSet [] h' := by
  have hreset : Emits IsPreparing (note .reset : Host σ Unit) :=
    fun _ => Holds.note ⟨id, not_sets_of_no_command rfl⟩ trivial
  exact preparing_holds (preparing_parts.radioUp g p hreset c r) hsent

/-- The common course of the commands: bring the NCP up, configure it, and go
on. -/
theorem broughtUp_holds (hsent : HasSet [] h) (c : RouterCfg) (r : Router)
    {α : Type} {a : α} {f : Router → Host σ α}
    (hf : ∀ r, Emits IsSettled (f r)) :
    Holds startsAfterSettings h (do
      let (r, ver) ← radioUp g c p r
      if ver = none then pure a
      else do
        let r ← ezspApplyConfig g p r
        f r) fun out h' => out = a ∨ HasSet trueConfiguration h' := by
  apply (radioUp_holds g p hsent c r).seq
  rintro ⟨r', ver⟩ h' hsent'
  dsimp only
  split
  · exact Holds.pure (Or.inl rfl)
  · apply (ezspApplyConfig_holds g p hsent' r').seq
    intro r'' h'' hsent''
    exact (settled_holds (hf r'') hsent'').mono fun _ _ hsent => Or.inr hsent

end Specifications

/-! ## Every flow -/

/-- The commands that start the network, with their arguments and the buffers
as the stack has them. -/
inductive Flow where
  | run (polls passes : ℕ) (out : List Byte)
  | join (scanOut out : List Byte)
  | leave (out : List Byte)
  | info
  | status
  | neighbors
  | keys
  | permit (arg : Option (List Byte))
  | power (arg : Option (List Byte))

def Flow.program (g : Globals) (c : RouterCfg) (p : Pins) (r : Router) :
    Flow → Host σ ℕ
  | .run polls passes out => cmdRun g c p polls passes out r
  | .join scanOut out => cmdJoin g c p scanOut out r
  | .leave out => cmdLeave g c p out r
  | .info => cmdInfo g c p r
  | .status => cmdStatus g c p r
  | .neighbors => cmdNeighbors g c p r
  | .keys => cmdKeys g c p r
  | .permit arg => cmdPermit g c p arg r
  | .power arg => cmdPower g c p arg r

section Flows

variable (g : Globals) (c : RouterCfg) (p : Pins) {h : List HostEvent}

theorem cmdInfo_holds (hsent : HasSet [] h) (r : Router) :
    Holds startsAfterSettings h (cmdInfo g c p r : Host σ ℕ)
      fun _ _ => True := by
  apply (broughtUp_holds g p hsent c r _).mono fun _ _ _ => trivial
  intro r
  apply settled_parts.bind (settled_parts.ezspCmd g p (by decide) r (by simp) _)
  intro out
  apply settled_parts.bind
    (settled_parts.routineCmd g p (by decide) out.1 (by simp) _)
  intro out
  apply settled_parts.bind
    (settled_parts.routineCmd g p (by decide) out.1 (by simp) _)
  intro out
  apply settled_parts.bind
    (settled_parts.routineCmd g p (by decide) out.1 (by simp) _)
  intro out
  apply settled_parts.bind
    (settled_parts.routineCmd g p (by decide) out.1 (by simp) _)
  exact fun _ => Emits.pure

/-- A command that asks a daemon first. -/
theorem asked_holds (hsent : HasSet [] h) (cmd : List Byte) {m : Host σ ℕ}
    (hm : ∀ h', HasSet [] h' →
      Holds startsAfterSettings h' m fun _ _ => True) :
    Holds startsAfterSettings h (do
      let answered ← call (I := host) (.controlQuery cmd)
      if answered then pure 0 else m) fun _ _ => True := by
  have hquery := preparing_parts.call (σ := σ) (.controlQuery cmd) ⟨trivial, id⟩
  apply (preparing_holds hquery hsent).seq
  intro answered h' hsent'
  split
  · exact Holds.pure trivial
  · exact hm h' hsent'

theorem cmdStatus_holds (hsent : HasSet [] h) (r : Router) :
    Holds startsAfterSettings h (cmdStatus g c p r : Host σ ℕ)
      fun _ _ => True := by
  apply asked_holds hsent
  intro h' hsent'
  apply (broughtUp_holds g p hsent' c r _).mono fun _ _ _ => trivial
  intro r
  apply settled_parts.bind (settled_parts.ezspCmd g p (by decide) r (by simp) _)
  intro out
  exact settled_parts.bind (settled_parts.controlStatus g p out.1 _) fun _ =>
    Emits.pure

theorem cmdNeighbors_holds (hsent : HasSet [] h) (r : Router) :
    Holds startsAfterSettings h (cmdNeighbors g c p r : Host σ ℕ)
      fun _ _ => True := by
  apply asked_holds hsent
  intro h' hsent'
  apply (broughtUp_holds g p hsent' c r _).mono fun _ _ _ => trivial
  intro r
  apply settled_parts.bind (settled_parts.ezspCmd g p (by decide) r (by simp) _)
  intro out
  apply Emits.ite Emits.pure
  apply settled_parts.bind
    (settled_parts.routineCmd g p (by decide) out.1 (by simp) _)
  intro out
  apply settled_parts.bind
    (settled_parts.routineCmd g p (by decide) out.1 (by simp) _)
  intro out
  apply settled_parts.bind (settled_parts.dumpTable g p (by decide) _ _ out.1)
  intro r
  exact settled_parts.bind (settled_parts.dumpTable g p (by decide) _ _ r)
    fun _ => Emits.pure

theorem cmdKeys_holds (hsent : HasSet [] h) (r : Router) :
    Holds startsAfterSettings h (cmdKeys g c p r : Host σ ℕ)
      fun _ _ => True := by
  apply (broughtUp_holds g p hsent c r _).mono fun _ _ _ => trivial
  intro r
  apply settled_parts.bind (settled_parts.ezspCmd g p (by decide) r (by simp) _)
  intro out
  have hkey (r : Router) (key : Byte) : Emits IsSettled
      (ezspCmd g p r ezspGetKey [key] 64 >>= fun out => pure out.1 :
        Host σ Router) :=
    settled_parts.bind (settled_parts.routineCmd g p (by decide) r (by simp) _)
      fun _ => Emits.pure
  exact settled_parts.bind (settled_parts.foldlM hkey _ _) fun _ => Emits.pure

theorem cmdPermit_holds (hsent : HasSet [] h) (arg : Option (List Byte))
    (r : Router) :
    Holds startsAfterSettings h (cmdPermit g c p arg r : Host σ ℕ)
      fun _ _ => True := by
  apply asked_holds hsent
  intro h' hsent'
  apply (broughtUp_holds g p hsent' c r _).mono fun _ _ _ => trivial
  intro r
  apply settled_parts.bind (settled_parts.ezspCmd g p (by decide) r (by simp) _)
  intro out
  apply Emits.ite Emits.pure
  exact settled_parts.bind (settled_parts.ezspPermit g p out.1 _ _) fun _ =>
    Emits.pure

theorem cmdPower_holds (hsent : HasSet [] h) (arg : Option (List Byte))
    (r : Router) :
    Holds startsAfterSettings h (cmdPower g c p arg r : Host σ ℕ)
      fun _ _ => True := by
  apply asked_holds hsent
  intro h' hsent'
  apply (broughtUp_holds g p hsent' c r _).mono fun _ _ _ => trivial
  intro r
  apply settled_parts.bind (settled_parts.ezspCmd g p (by decide) r (by simp) _)
  intro out
  exact settled_parts.bind (settled_parts.ezspSetPower g p out.1 _ _) fun _ =>
    Emits.pure

theorem cmdLeave_holds (hsent : HasSet [] h) (out : List Byte) (r : Router) :
    Holds startsAfterSettings h (cmdLeave g c p out r : Host σ ℕ)
      fun _ _ => True := by
  apply (broughtUp_holds g p hsent c r _).mono fun _ _ _ => trivial
  intro r
  apply settled_parts.bind (settled_parts.ezspCmd g p (by decide) r (by simp) _)
  intro answer
  apply settled_parts.bind
    (settled_parts.routineCmd g p (by decide) answer.1 (by simp) _)
  intro answer
  exact Emits.ite Emits.pure (settled_parts.leavePolls g p _ answer.1 _)

theorem joinConfigured_holds (hsent : HasSet [] h) (nwkUpdateId : Byte)
    (r : Router) (out : List Byte) :
    Holds startsAfterSettings h
      (joinConfigured g c p nwkUpdateId r out : Host σ ℕ)
      fun _ _ => True := by
  apply (ezspApplyConfig_holds g p hsent r).seq
  intro r' h' hsent'
  apply (settled_holds _ hsent').mono fun _ _ _ => trivial
  apply settled_parts.bind
    (settled_parts.routineCmd g p (by decide) r' (by simp) _)
  intro answer
  apply Emits.ite Emits.pure
  apply settled_parts.bind (settled_parts.routineCmd g p (by decide) answer.1
    (length_securityParams_le c) _)
  intro answer
  apply Emits.ite Emits.pure
  exact (settled_parts.commandParts g p).joinAttempt (by decide) c _ _ answer.1 _

theorem cmdJoin_holds (hsent : HasSet [] h) (scanOut out : List Byte)
    (r : Router) :
    Holds startsAfterSettings h (cmdJoin g c p scanOut out r : Host σ ℕ)
      fun _ _ => True := by
  rw [cmdJoin]
  split
  · exact Holds.halt trivial
  split
  · exact Holds.halt trivial
  apply (radioUp_holds g p hsent c r).seq
  rintro ⟨r', ver⟩ h' hsent'
  dsimp only
  split
  · exact Holds.pure trivial
  have hparts := preparing_parts.commandParts (σ := σ) g p
  have hcheck := hparts.joinPrecheck c r' scanOut
  apply (preparing_holds hcheck hsent').seq
  rintro ⟨r'', go⟩ h'' hsent''
  cases go with
  | none => exact Holds.pure trivial
  | some nwkUpdateId => exact joinConfigured_holds g c p hsent'' _ r'' out

theorem cmdRun_holds (hsent : HasSet [] h) (polls passes : ℕ)
    (out : List Byte) (r : Router) :
    Holds startsAfterSettings h (cmdRun g c p polls passes out r : Host σ ℕ)
      fun _ _ => True := by
  have hstart := broughtUp_holds (σ := σ) g p hsent c r (a := none)
    (settled_parts.runConfigured g p (by decide) c out)
  apply Holds.seq hstart
  intro st h' hst
  cases st with
  | none => exact Holds.pure trivial
  | some st =>
      have hsent' : HasSet trueConfiguration h' :=
        hst.resolve_left (Option.some_ne_none st)
      have hpoll (fds : List Int) (timeout : Int) : Emits IsSettled
          (call (I := host) (.pollEvents fds timeout) : Host σ _) :=
        Emits.call fun _ => ⟨rfl, not_sets_of_no_command rfl⟩
      have hpasses := settled_parts.runPasses g p
        (settled_parts.runDrain g p Emits.halt polls) hpoll c passes st
      exact (settled_holds hpasses hsent').seq fun _ _ _ => Holds.pure trivial

theorem Flow.holds (hsent : HasSet [] h) (r : Router) (flow : Flow) :
    Holds startsAfterSettings h (flow.program g c p r : Host σ ℕ)
      fun _ _ => True := by
  cases flow with
  | run polls passes out => exact cmdRun_holds g c p hsent polls passes out r
  | join scanOut out => exact cmdJoin_holds g c p hsent scanOut out r
  | leave out => exact cmdLeave_holds g c p hsent out r
  | info => exact cmdInfo_holds g c p hsent r
  | status => exact cmdStatus_holds g c p hsent r
  | neighbors => exact cmdNeighbors_holds g c p hsent r
  | keys => exact cmdKeys_holds g c p hsent r
  | permit arg => exact cmdPermit_holds g c p hsent arg r
  | power arg => exact cmdPower_holds g c p hsent arg r

end Flows

/-- In every run of every command, with whatever replies, the network is
started under the one true configuration exactly if the NCP has taken every
setting since the last commanded reset. -/
theorem flow_starts_configured_iff (g : Globals) (c : RouterCfg) (p : Pins)
    (r : Router) (flow : Flow) (s : σ) {t₁ t₂ : List HostEvent}
    {e : HostEvent}
    (htrace : (flow.program g c p r s).trace = t₁ ++ e :: t₂)
    (hstarts : StartsNetwork e) : Configured t₁ ↔ NothingRefused t₁ := by
  have hstart : HasSet [] [] := by
    intro params
    simp [sinceCommandedReset]
  have halong := (Flow.holds g c p hstart r flow s).1
  rw [htrace] at halong
  exact (halong.at_event hstarts).configured_iff

/-- An NCP with version 4 that answers the first setting with this status and
takes everything else up to the end of the configuration. -/
def firstSetting (status : Byte) : Playback where
  miso := [0xFE, 0x07, 0x00, 0x80, 0x00, 0x04, 0x02, 0x00, 0x54, 0xA7,
    0xFE, 0x04, 0x01, 0x80, 0x53, status, 0xA7,
    0xFE, 0x04, 0x02, 0x80, 0x53, 0x00, 0xA7,
    0xFE, 0x04, 0x03, 0x80, 0x53, 0x00, 0xA7,
    0xFE, 0x04, 0x04, 0x80, 0x53, 0x00, 0xA7,
    0xFE, 0x04, 0x05, 0x80, 0x02, 0x00, 0xA7]
  polls := []
  accepts := []
  reads := []

private def isNetworkInit : HostEvent → Bool
  | .call (.spiTransfer tx false _) _ => decide (commandId tx = ezspNetworkInit)
  | _ => false

private theorem starts_of_isNetworkInit {t : List HostEvent} {n : ℕ}
    (ht : t[n]?.any isNetworkInit = true) :
    ∃ e, t[n]? = some e ∧ StartsNetwork e := by
  obtain ⟨e, he, hinit⟩ := (Option.any_eq_true _ _).mp ht
  refine ⟨e, he, ?_⟩
  unfold isNetworkInit at hinit
  split at hinit
  · exact Or.inl (of_decide_eq_true hinit)
  · exact absurd hinit Bool.false_ne_true

/-- Every setting is taken, and the network starts configured. -/
theorem flow_starts_configured_info :
    Configured (((Flow.info.program ⟨⟨2, false⟩, true⟩ defaultCfg
      ⟨3, 4, 5, 7, -1⟩ routerInit (firstSetting 0x00)).trace).take 54) := by
  have hany : ((Flow.info.program ⟨⟨2, false⟩, true⟩ defaultCfg
      ⟨3, 4, 5, 7, -1⟩ routerInit (firstSetting 0x00)).trace[54]?).any
        isNetworkInit = true := by
    decide +kernel
  obtain ⟨e, he, hstarts⟩ := starts_of_isNetworkInit hany
  exact (flow_starts_configured_iff ⟨⟨2, false⟩, true⟩ defaultCfg
    ⟨3, 4, 5, 7, -1⟩ routerInit Flow.info (firstSetting 0x00) (split_at he)
    hstarts).mpr (by decide +kernel)

/-- The first setting is refused, and the network starts all the same. -/
theorem flow_starts_refused :
    ¬∀ (g : Globals) (c : RouterCfg) (p : Pins) (r : Router) (flow : Flow)
      (s : Playback) (t₁ t₂ : List HostEvent) (e : HostEvent),
      c.noReset = false →
      (flow.program g c p r s).trace = t₁ ++ e :: t₂ → StartsNetwork e →
      Configured t₁ := by
  intro hall
  have hany : ((Flow.info.program ⟨⟨2, false⟩, true⟩ defaultCfg
      ⟨3, 4, 5, 7, -1⟩ routerInit (firstSetting 0x35)).trace[54]?).any
        isNetworkInit = true := by
    decide +kernel
  obtain ⟨e, he, hstarts⟩ := starts_of_isNetworkInit hany
  have hconfigured := hall ⟨⟨2, false⟩, true⟩ defaultCfg ⟨3, 4, 5, 7, -1⟩
    routerInit Flow.info (firstSetting 0x35) _ _ e rfl (split_at he) hstarts
  have hprofile := hconfigured [0x0C, 0x02, 0x00] (by decide)
  exact absurd hprofile (by decide +kernel)

end EzspSpi
