import EzspSpi.Router.Codec
import EzspSpi.Router.Flows

/-!
# Amounts of dBm and of seconds

`cmd_power` and `cmd_permit` ask the daemon or drive the radio.  Either way the
number goes through text and back, and the NCP is given the same byte; only for
a power that has no byte of its own is that byte not what the message names.
-/

namespace EzspSpi

open Program

variable {σ : Type} [Kernel σ] (g : Globals) (c : RouterCfg) (p : Pins)

/-- The power `cmd_power` is to set. -/
def powerArgument (arg : Option (List Byte)) : BitVec 32 :=
  (arg.map strtolDecimal).getD 8

/-- The time `cmd_permit` is to open the window for. -/
def permitArgument (arg : Option (List Byte)) : BitVec 32 :=
  let asked := (arg.map strtoulDecimal).getD 180
  if asked = 0 then 180 else asked

def powerRequest (dbm : BitVec 32) : List Byte :=
  ascii "power " ++ signedText dbm.toInt ++ ascii "\n"

def permitRequest (secs : BitVec 32) : List Byte :=
  ascii "permit " ++ unsignedText secs.toNat ++ ascii "\n"

/-- The message for a power that was set. -/
def powerSet (dbm : Int) : List Byte :=
  ascii "power: set to " ++ signedText dbm ++ ascii " dBm\n"

/-- The message for a window that was opened. -/
def permitOpened (secs : ℕ) : List Byte :=
  ascii "permit: open for " ++ unsignedText secs ++ ascii " s\n"

/-- A command of the radio with one amount, into a buffer of this size: whether
it succeeded, and the message. -/
abbrev Setter :=
  ∀ (σ : Type) [Kernel σ], Globals → Pins → Router → (max : ℕ) →
    Host σ (Router × Bool × List Byte)

/-- The daemon is asked, and where none answers `set` is used with the router
that `up` comes up with. -/
def askDaemonOr (req : List Byte) (up : Host σ (Option Router))
    (set : Router → Host σ (Router × Bool × List Byte)) : Host σ ℕ := do
  let answered ← call (I := host) (.controlQuery req)
  if answered then pure 0
  else do
    let ready ← up
    match ready with
    | none => pure 1
    | some r => do
        let (_, done, _) ← set r
        pure (if done then 0 else 1)

/-- `cmd` asks the daemon to use `set`, and uses it itself where no daemon
answers.  Both ways the NCP is given the same byte with the command `id`, and
every success is reported with the text for that byte. -/
structure SaysWhatItSets
    (cmd : ∀ (σ : Type) [Kernel σ], Globals → RouterCfg → Pins → Router →
      Host σ ℕ)
    (set : Setter) (id : Byte) (text : Byte → List Byte) : Prop where
  paths : ∃ req, ∀ (σ : Type) [Kernel σ] g c p r,
    (∃ up : Host σ (Option Router), cmd σ g c p r =
      askDaemonOr req up fun r => set σ g p r 128) ∧
    (acceptRequest g p r (requestLine req) : Host σ _) =
      set σ g p r 1024 >>= fun out => pure (out.1, out.2.2)
  named : ∃ b, ∀ (σ : Type) [Kernel σ] g p r max (s : σ) out,
    max = 128 ∨ max = 1024 → (set σ g p r max s).outcome = .done out →
      (∃ x, Commanded (ezspTx r.ezspVersion r.seq id [b]) x
        (set σ g p r max s).trace) ∧
      (out.2.1 = true → out.2.2 = text b)

/-! ## Requests -/

/-- A character that ends no request. -/
def InLine (c : Byte) : Prop := c ≠ 0x00 ∧ c ≠ 0x0D ∧ c ≠ 0x0A

instance (c : Byte) : Decidable (InLine c) :=
  inferInstanceAs (Decidable (_ ∧ _))

/-- A line that the daemon reads whole. -/
theorem requestLine_line {line : List Byte} (hlength : line.length ≤ 62)
    (hline : ∀ c ∈ line, InLine c) :
    requestLine (snprintf 64 (line ++ ascii "\n")) = line := by
  have hwhole : (line ++ ascii "\n").length ≤ 63 := by
    rw [List.length_append]
    change line.length + 1 ≤ 63
    omega
  rw [requestLine, snprintf, List.take_take,
    List.take_of_length_le (by omega), List.takeWhile_append_of_pos]
  · exact List.append_nil line
  · exact fun c hc => decide_eq_true (hline c hc)

theorem unsignedText_inLine (n : ℕ) : ∀ c ∈ unsignedText n, InLine c := by
  have hdigit (d : ℕ) (hd : d < 10) : ∀ c ∈ unsignedText d, InLine c := by
    rw [unsignedText_of_lt hd]
    intro c hc
    rw [List.mem_singleton.mp hc]
    interval_cases d <;> decide
  induction n using Nat.base_induction 10 (by decide) with
  | single d hd => exact hdigit d hd
  | digit n d hd hn ih =>
      rw [unsignedText_append hn hd]
      intro c hc
      rcases List.mem_append.mp hc with hc | hc
      · exact ih c hc
      · exact hdigit d hd c hc

theorem signedText_inLine (n : Int) : ∀ c ∈ signedText n, InLine c := by
  rw [signedText]
  split
  · intro c hc
    rcases List.mem_cons.mp hc with rfl | hc
    · decide
    · exact unsignedText_inLine _ c hc
  · exact unsignedText_inLine _

theorem length_signedText_long (n : BitVec 32) :
    (signedText n.toInt).length ≤ 11 := by
  have hlow : -2 ^ 31 ≤ n.toInt := BitVec.le_toInt n
  have hhigh : n.toInt < 2 ^ 31 := BitVec.toInt_lt
  have habs : n.toInt.natAbs < 10 ^ 10 := by omega
  exact length_signedText (by decide) habs

/-- A word and a number are read as one line. -/
theorem requestLine_words {word number' : List Byte}
    (hword : word.length ≤ 7) (hnumber : number'.length ≤ 11)
    (hword' : ∀ c ∈ word, InLine c) (hnumber' : ∀ c ∈ number', InLine c) :
    requestLine (snprintf 64 (word ++ number' ++ ascii "\n")) =
      word ++ number' := by
  apply requestLine_line
  · rw [List.length_append]
    omega
  · intro c hc
    rcases List.mem_append.mp hc with hc | hc
    · exact hword' c hc
    · exact hnumber' c hc

/-- The daemon sets the power it is asked for. -/
theorem acceptRequest_power (r : Router) (dbm : BitVec 32) :
    (acceptRequest g p r (requestLine (snprintf 64 (powerRequest dbm))) :
      Host σ _) =
      ezspSetPower g p r dbm 1024 >>= fun out => pure (out.1, out.2.2) := by
  have hread := strtolDecimal_signedText dbm (fun c (hc : c ∈ [].head?) =>
    absurd hc (Option.not_mem_none c))
  rw [List.append_nil] at hread
  rw [powerRequest, requestLine_words (by decide) (length_signedText_long dbm)
    (by decide) (signedText_inLine _)]
  change acceptPower g p r (ascii "power " ++ signedText dbm.toInt) = _
  rw [acceptPower]
  change (ezspSetPower g p r (strtolDecimal (signedText dbm.toInt)) 1024 >>=
    _) = _
  rw [hread]

theorem acceptRequest_permit (r : Router) (secs : BitVec 32) :
    (acceptRequest g p r (requestLine (snprintf 64 (permitRequest secs))) :
      Host σ _) =
      ezspPermit g p r secs 1024 >>= fun out => pure (out.1, out.2.2) := by
  have hread := strtoulDecimal_unsignedText secs (fun c (hc : c ∈ [].head?) =>
    absurd hc (Option.not_mem_none c))
  have hlength : (unsignedText secs.toNat).length ≤ 11 := by
    have hlt : secs.toNat < 2 ^ 32 := secs.isLt
    exact length_unsignedText (by decide) (by omega)
  rw [List.append_nil] at hread
  rw [permitRequest, requestLine_words (by decide) hlength (by decide)
    (unsignedText_inLine _)]
  change acceptPermit g p r (ascii "permit " ++ unsignedText secs.toNat) = _
  rw [acceptPermit]
  change (ezspPermit g p r (strtoulDecimal (unsignedText secs.toNat)) 1024 >>=
    _) = _
  rw [hread]

/-! ## Paths -/

/-- `cmd_power` without a daemon, up to the setting of the power. -/
def powerUp (r : Router) : Host σ (Option Router) := do
  let (r, ver) ← radioUp g c p r
  if ver = none then pure none
  else do
    let r ← ezspApplyConfig g p r
    let (r, _) ← ezspCmd g p r ezspNetworkInit [] 64
    pure (some r)

theorem cmdPower_eq (arg : Option (List Byte)) (r : Router) :
    cmdPower g c p arg r =
      askDaemonOr (snprintf 64 (powerRequest (powerArgument arg)))
        (powerUp g c p r : Host σ _)
        fun r => ezspSetPower g p r (powerArgument arg) 128 := by
  rw [cmdPower, askDaemonOr, powerUp]
  congr 1
  funext answered
  cases answered with
  | true => rfl
  | false =>
      simp only [Bool.false_eq_true, if_false, bind_assoc]
      congr 1
      funext ⟨r, ver⟩
      dsimp only
      split
      · rfl
      · simp only [bind_assoc, pure_bind]
        rfl

/-- The same for `cmd_permit`, which gives up where there is no network. -/
def permitUp (r : Router) : Host σ (Option Router) := do
  let (r, ver) ← radioUp g c p r
  if ver = none then pure none
  else do
    let r ← ezspApplyConfig g p r
    let (r, reply) ← ezspCmd g p r ezspNetworkInit [] 64
    if (status? reply).any (fun s => decide (s ≠ emberSuccess)) then pure none
    else pure (some r)

theorem cmdPermit_eq (arg : Option (List Byte)) (r : Router) :
    cmdPermit g c p arg r =
      askDaemonOr (snprintf 64 (permitRequest (permitArgument arg)))
        (permitUp g c p r : Host σ _)
        fun r => ezspPermit g p r (permitArgument arg) 128 := by
  rw [cmdPermit, askDaemonOr, permitUp]
  congr 1
  funext answered
  cases answered with
  | true => rfl
  | false =>
      simp only [Bool.false_eq_true, if_false, bind_assoc]
      congr 1
      funext ⟨r, ver⟩
      dsimp only
      split
      · rfl
      · simp only [bind_assoc]
        congr 1
        funext r
        congr 1
        funext ⟨r, reply⟩
        dsimp only
        split
        · rfl
        · rw [pure_bind]
          rfl

/-! ## Bytes -/

/-- A byte that is the power, or only its last eight bits. -/
theorem ezspSetPower_holds (r : Router) (dbm : BitVec 32) (max : ℕ) :
    Holds anyRun [] (ezspSetPower g p r dbm max : Host σ _) fun out t =>
      (∃ x, Commanded (ezspTx r.ezspVersion r.seq ezspSetRadioPower
        [dbm.setWidth 8]) x t) ∧
      (out.2.1 = true → out.2.2 = snprintf max (powerSet dbm.toInt)) := by
  have hparams : [(dbm.setWidth 8 : Byte)].length ≤ 135 := by simp
  rw [ezspSetPower]
  apply (ezspCmd_holds g p (fun _ => trivial) anyRun_bus r ezspSetRadioPower
    hparams 8 fun _ _ _ => trivial).seq
  rintro ⟨r', reply⟩ _ ⟨t, x, rfl, hcommanded, _⟩
  dsimp only
  split
  · exact Holds.pure ⟨⟨x, hcommanded⟩, fun h => absurd h Bool.false_ne_true⟩
  · exact Holds.pure ⟨⟨x, hcommanded⟩, fun _ => rfl⟩

theorem ezspPermit_holds (r : Router) (secs : BitVec 32) (max : ℕ) :
    Holds anyRun [] (ezspPermit g p r secs max : Host σ _) fun out t =>
      (∃ x, Commanded (ezspTx r.ezspVersion r.seq ezspPermitJoining
        [if secs > 254 then 254 else secs.setWidth 8]) x t) ∧
      (out.2.1 = true → out.2.2 = snprintf max (permitOpened
        (if secs > 254 then 254 else secs.setWidth 8 : Byte).toNat)) := by
  have hparams :
      [(if secs > 254 then 254 else secs.setWidth 8 : Byte)].length ≤ 135 := by
    simp
  rw [ezspPermit]
  apply (ezspCmd_holds g p (fun _ => trivial) anyRun_bus r ezspPermitJoining
    hparams 8 fun _ _ _ => trivial).seq
  rintro ⟨r', reply⟩ _ ⟨t, x, rfl, hcommanded, _⟩
  dsimp only
  split
  · exact Holds.pure ⟨⟨x, hcommanded⟩, fun h => absurd h Bool.false_ne_true⟩
  · exact Holds.pure ⟨⟨x, hcommanded⟩, fun _ => rfl⟩

/-- Both buffers have room for the messages. -/
theorem snprintf_powerSet {n : BitVec 32} {max : ℕ}
    (hmax : max = 128 ∨ max = 1024) :
    snprintf max (powerSet n.toInt) = powerSet n.toInt := by
  have hlength := length_signedText_long n
  have hfront : (ascii "power: set to ").length = 14 := rfl
  have hend : (ascii " dBm\n").length = 5 := rfl
  apply List.take_of_length_le
  rw [powerSet, List.length_append, List.length_append, hfront, hend]
  omega

theorem snprintf_permitOpened (b : Byte) {max : ℕ}
    (hmax : max = 128 ∨ max = 1024) :
    snprintf max (permitOpened b.toNat) = permitOpened b.toNat := by
  have hlength := length_unsignedText_byte b
  have hfront : (ascii "permit: open for ").length = 17 := rfl
  have hend : (ascii " s\n").length = 3 := rfl
  apply List.take_of_length_le
  rw [permitOpened, List.length_append, List.length_append, hfront, hend]
  omega

theorem powerSet_injective : Function.Injective powerSet := by
  intro n n' htext
  exact signedText_injective
    (List.append_cancel_left (List.append_cancel_right htext))

/-- A power has a byte if it is the signed value of one. -/
theorem toInt_setWidth_byte {dbm : BitVec 32} (hlow : -128 ≤ dbm.toInt)
    (hhigh : dbm.toInt ≤ 127) : (dbm.setWidth 8 : Byte).toInt = dbm.toInt := by
  have hlt : dbm.toNat < 2 ^ 32 := dbm.isLt
  rw [BitVec.toInt_setWidth]
  rw [BitVec.toInt_eq_toNat_bmod] at *
  simp only [Int.bmod_def] at *
  omega

/-- An NCP that accepts the command whose id stands in its answer. -/
def acceptingNcp (id : Byte) : Playback :=
  ⟨[0xFF, 0xFE, 0x04, 0x00, 0x80, id, 0x00, 0xA7], [], [], []⟩

theorem ezspSetPower_accepted (dbm : BitVec 32) :
    (ezspSetPower ⟨⟨512, false⟩, true⟩ ⟨3, 4, 5, 7, 6⟩ routerInit dbm 128
      (acceptingNcp ezspSetRadioPower)).outcome =
      .done ({ routerInit with seq := 1 }, true,
        snprintf 128 (powerSet dbm.toInt)) := rfl

/-- A power that some byte is can be named by the message. -/
theorem power_of_named {dbm : BitVec 32}
    {cmd : ∀ (σ : Type) [Kernel σ], Globals → RouterCfg → Pins → Router →
      Host σ ℕ}
    (hkept : SaysWhatItSets cmd
      (fun _ _ g p r => ezspSetPower g p r dbm) ezspSetRadioPower
      fun b => powerSet b.toInt) :
    -128 ≤ dbm.toInt ∧ dbm.toInt ≤ 127 := by
  obtain ⟨b, hb⟩ := hkept.named
  obtain ⟨_, htext⟩ := hb Playback _ _ _ 128 _ _ (Or.inl rfl)
    (ezspSetPower_accepted dbm)
  have hsame := htext rfl
  rw [snprintf_powerSet (Or.inl rfl)] at hsame
  rw [powerSet_injective hsame]
  have hlow : -128 ≤ b.toInt := BitVec.le_toInt b
  have hhigh : b.toInt < 128 := BitVec.toInt_lt
  omega

/-- `cmd_permit` always says what it sets. -/
theorem permit_kept (arg : Option (List Byte)) :
    SaysWhatItSets (fun _ _ g c p => cmdPermit g c p arg)
      (fun _ _ g p r => ezspPermit g p r (permitArgument arg))
      ezspPermitJoining fun b => permitOpened b.toNat where
  paths := ⟨snprintf 64 (permitRequest (permitArgument arg)),
    fun _ _ g c p r => ⟨⟨permitUp g c p r, cmdPermit_eq g c p arg r⟩,
      acceptRequest_permit g p r (permitArgument arg)⟩⟩
  named := by
    refine ⟨if permitArgument arg > 254 then 254
      else (permitArgument arg).setWidth 8, ?_⟩
    intro _ _ g p r max s out hmax hout
    obtain ⟨hcommanded, htext⟩ :=
      (ezspPermit_holds g p r (permitArgument arg) max s).2.1 out hout
    refine ⟨hcommanded, fun hset => ?_⟩
    rw [htext hset, snprintf_permitOpened _ hmax]

/-- `cmd_power` says what it sets if a byte has room for it. -/
theorem power_kept {arg : Option (List Byte)}
    (hlow : -128 ≤ (powerArgument arg).toInt)
    (hhigh : (powerArgument arg).toInt ≤ 127) :
    SaysWhatItSets (fun _ _ g c p => cmdPower g c p arg)
      (fun _ _ g p r => ezspSetPower g p r (powerArgument arg))
      ezspSetRadioPower fun b => powerSet b.toInt where
  paths := ⟨snprintf 64 (powerRequest (powerArgument arg)),
    fun _ _ g c p r => ⟨⟨powerUp g c p r, cmdPower_eq g c p arg r⟩,
      acceptRequest_power g p r (powerArgument arg)⟩⟩
  named := by
    refine ⟨(powerArgument arg).setWidth 8, ?_⟩
    intro _ _ g p r max s out hmax hout
    obtain ⟨hcommanded, htext⟩ :=
      (ezspSetPower_holds g p r (powerArgument arg) max s).2.1 out hout
    refine ⟨hcommanded, fun hset => ?_⟩
    rw [htext hset, snprintf_powerSet hmax, toInt_setWidth_byte hlow hhigh]

/-- Power and permit do what they say.  Through the daemon and without it the
NCP is given the same byte, for every argument of either command, and a success
is reported with the value of that byte: for `cmd_permit` always, and for
`cmd_power` exactly if the number of its argument, as `strtol` reads it, has a
signed byte. -/
theorem amounts_named_iff (arg arg' : Option (List Byte)) :
    (SaysWhatItSets (fun _ _ g c p => cmdPower g c p arg)
        (fun _ _ g p r => ezspSetPower g p r (powerArgument arg))
        ezspSetRadioPower (fun b => powerSet b.toInt) ∧
      SaysWhatItSets (fun _ _ g c p => cmdPermit g c p arg')
        (fun _ _ g p r => ezspPermit g p r (permitArgument arg'))
        ezspPermitJoining fun b => permitOpened b.toNat) ↔
    -128 ≤ (powerArgument arg).toInt ∧ (powerArgument arg).toInt ≤ 127 := by
  constructor
  · rintro ⟨hpower, _⟩
    exact power_of_named hpower
  · rintro ⟨hlow, hhigh⟩
    exact ⟨power_kept hlow hhigh, permit_kept arg'⟩

/-- 300 dBm are reported as set, though the NCP was given 44. -/
theorem power_three_hundred :
    ¬SaysWhatItSets (fun _ _ g c p => cmdPower g c p (some (ascii "300")))
      (fun _ _ g p r => ezspSetPower g p r (powerArgument (some (ascii "300"))))
      ezspSetRadioPower fun b => powerSet b.toInt := by
  intro hkept
  exact absurd (power_of_named hkept).2 (by decide)

end EzspSpi
