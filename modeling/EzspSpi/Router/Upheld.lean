import EzspSpi.Router.Calls
import EzspSpi.Router.Parts

/-!
# What every call upholds

A relation between the process-wide variables and the history that the commands
with a frame id in `S` keep, and that speaks of no more than the sequence number,
the counters and the extended pan id, is kept by all that the router makes of
such commands.
-/

namespace EzspSpi

open Program

variable {σ : Type} [Kernel σ] {α β : Type}

/-- The router that comes out stands in the relation to the longer history. -/
def Keeps (Inv : Router → List HostEvent → Prop) (r : Router)
    (next : α → Router) (m : Host σ α) : Prop :=
  ∀ h, Inv r h → Holds anyRun h m fun a h' => Inv (next a) h'

namespace Keeps

variable {Inv : Router → List HostEvent → Prop} {r : Router}

omit [Kernel σ] in
theorem pure {a : α} {next : α → Router} (hnext : next a = r) :
    Keeps Inv r next (Pure.pure a : Host σ α) :=
  fun _ hInv => Holds.pure (hnext ▸ hInv)

omit [Kernel σ] in
theorem bind {m : Host σ α} {f : α → Host σ β} {next : α → Router}
    {next' : β → Router} (hm : Keeps Inv r next m)
    (hf : ∀ a, Keeps Inv (next a) next' (f a)) :
    Keeps Inv r next' (m >>= f) :=
  fun h hInv => (hm h hInv).seq fun a h' hInv' => hf a h' hInv'

omit [Kernel σ] in
theorem ite {c : Prop} [Decidable c] {m m' : Host σ α} {next : α → Router}
    (hm : Keeps Inv r next m) (hm' : Keeps Inv r next m') :
    Keeps Inv r next (if c then m else m') := by
  split
  · exact hm
  · exact hm'

end Keeps

/-- The same as far as the calls and what is counted of them go. -/
structure Router.Alike (r r' : Router) : Prop where
  seq : r'.seq = r.seq
  reportCount : r'.reportCount = r.reportCount
  reportFailed : r'.reportFailed = r.reportFailed
  extPanId : r'.extPanId = r.extPanId
  haveExtPanId : r'.haveExtPanId = r.haveExtPanId

structure Upheld (σ : Type) [Kernel σ]
    (Inv : Router → List HostEvent → Prop) (S : Byte → Prop) : Prop where
  quiet : ∀ {r : Router} {h t : List HostEvent}, Inv r h →
    (∀ e ∈ t, IsQuiet e) → Inv r (h ++ t)
  alike : ∀ {r r' : Router} {h : List HostEvent}, Inv r h → r.Alike r' → Inv r' h
  xfer : ∀ (g : Globals) (p : Pins) (r : Router) (frameId : Byte)
    (params : List Byte) (max : ℕ), S frameId → params.length ≤ 135 →
    Keeps Inv r Prod.fst (ezspXfer g p r frameId params max : Host σ _)

namespace Upheld

variable {Inv : Router → List HostEvent → Prop} {S : Byte → Prop}
  (hI : Upheld σ Inv S) (g : Globals) (p : Pins)

include hI

/-- What does not touch the bus. -/
theorem emits {m : Host σ α} (hm : Emits IsQuiet m) (r : Router) :
    Keeps Inv r (fun _ => r) m := by
  intro h hInv
  apply (hm.appends (C := anyRun) (fun _ _ _ => trivial) fun _ => trivial).mono
  rintro _ _ ⟨t, ht, rfl⟩
  exact hI.quiet hInv ht

/-- Another router to go on with. -/
theorem instead {r r' : Router} (halike : r.Alike r') {m : Host σ α}
    {next : α → Router} (hm : Keeps Inv r' next m) : Keeps Inv r next m :=
  fun h hInv => hm h (hI.alike hInv halike)

theorem ezspCmd {frameId : Byte} (hid : S frameId) (r : Router)
    {params : List Byte} (hparams : params.length ≤ 135) (max : ℕ) :
    Keeps Inv r Prod.fst (EzspSpi.ezspCmd g p r frameId params max :
      Host σ _) :=
  (hI.xfer g p r frameId params max hid hparams).bind fun _ => Keeps.pure rfl

/-! ## Bringing the NCP up -/

theorem commandReset (r : Router) :
    Keeps Inv r (fun _ => r) (EzspSpi.commandReset p : Host σ Unit) := by
  have hreset : Emits IsQuiet (ncpReset p : Host σ Unit) :=
    (ncpReset_emits p).mono fun _ he => he.isQuiet
  exact hI.emits ((Emits.note (isQuiet_note _)).bind fun _ => hreset) r

theorem askVersion (hid : S ezspVersion) (r : Router) (want : Byte) :
    Keeps Inv r Prod.fst (EzspSpi.askVersion g p r want : Host σ _) := by
  have hparams : [want].length ≤ 135 := by
    rw [List.length_singleton]
    decide
  have halike : r.Alike { r with ezspVersion := 4 } := ⟨rfl, rfl, rfl, rfl, rfl⟩
  exact hI.instead halike (hI.ezspCmd g p hid _ hparams 8)

theorem agreeVersion (r : Router) (out : List Byte) :
    Keeps Inv r Prod.fst
      (Pure.pure (EzspSpi.agreeVersion r out) : Host σ _) := by
  have halike : r.Alike (EzspSpi.agreeVersion r out).1 :=
    ⟨rfl, rfl, rfl, rfl, rfl⟩
  exact hI.instead halike (Keeps.pure rfl)

theorem ezspInit (hid : S ezspVersion) (c : RouterCfg) (r : Router) :
    Keeps Inv r Prod.fst (EzspSpi.ezspInit g p c r : Host σ _) := by
  apply (hI.askVersion g p hid r _).bind
  rintro ⟨r', reply⟩
  apply Keeps.ite
  · exact Keeps.pure rfl
  apply Keeps.ite
  · apply (hI.commandReset p r').bind
    intro _
    apply (hI.askVersion g p hid r' _).bind
    rintro ⟨r'', reply'⟩
    apply Keeps.ite
    · exact Keeps.pure rfl
    · exact hI.agreeVersion r'' _
  · exact hI.agreeVersion r' _

theorem radioUp (hid : S ezspVersion) (c : RouterCfg) (r : Router) :
    Keeps Inv r Prod.fst (EzspSpi.radioUp g c p r : Host σ _) := by
  have hreset : Keeps Inv r (fun _ => r)
      (onlyIf (c.noReset = false) (EzspSpi.commandReset p) : Host σ Unit) :=
    Keeps.ite (hI.commandReset p r) (Keeps.pure rfl)
  exact hreset.bind fun _ => hI.ezspInit g p hid c r

theorem ezspSetConfig (hid : S ezspSetConfigurationValue) (r : Router)
    (id : Byte) (value : BitVec 16) :
    Keeps Inv r Prod.fst (EzspSpi.ezspSetConfig g p r id value : Host σ _) := by
  have hparams : [id, value.setWidth 8, (value >>> 8).setWidth 8].length ≤
      135 := by
    simp
  exact (hI.ezspCmd g p hid r hparams 4).bind fun _ => Keeps.pure rfl

theorem ezspApplyConfig (hset : S ezspSetConfigurationValue)
    (hadd : S ezspAddEndpointId) (r : Router) :
    Keeps Inv r id (EzspSpi.ezspApplyConfig g p r : Host σ _) := by
  have hendpoint (r : Router) : Keeps Inv r Prod.fst
      (EzspSpi.ezspAddEndpoint g p r : Host σ _) :=
    (hI.ezspCmd g p hadd r (by decide) 8).bind fun _ => Keeps.pure rfl
  apply (hI.ezspSetConfig g p hset r _ _).bind
  intro out
  apply (hI.ezspSetConfig g p hset out.1 _ _).bind
  intro out
  apply (hI.ezspSetConfig g p hset out.1 _ _).bind
  intro out
  apply (hI.ezspSetConfig g p hset out.1 _ _).bind
  intro out
  exact (hendpoint out.1).bind fun _ => Keeps.pure rfl

end Upheld

/-! ## The control socket -/

/-- A command that is neither a unicast nor a poll, and does not restore the
network; its frame id stands in every layout for itself. -/
def IsAside (frameId : Byte) : Prop :=
  frameId ∉ [ezspSendUnicast, ezspCallback, ezspNetworkInit, 0x01, 0xFF]

instance (frameId : Byte) : Decidable (IsAside frameId) :=
  inferInstanceAs (Decidable (_ ∉ _))

namespace Upheld

variable {Inv : Router → List HostEvent → Prop} {S : Byte → Prop}
  (hI : Upheld σ Inv S) (hS : ∀ frameId, IsAside frameId → S frameId)
  (g : Globals) (p : Pins)

include hI

/-- A call that does not touch the bus. -/
theorem call (c : Call) (hc : ∀ got, IsQuiet (.call c got)) (r : Router) :
    Keeps Inv r (fun _ => r)
      (Program.call (I := host) c : Host σ (host.Resp c)) :=
  hI.emits (Emits.call hc) r

include hS

theorem asideCmd {frameId : Byte} (hid : IsAside frameId) (r : Router)
    {params : List Byte} (hparams : params.length ≤ 135) (max : ℕ) :
    Keeps Inv r Prod.fst (EzspSpi.ezspCmd g p r frameId params max :
      Host σ _) :=
  hI.ezspCmd g p (hS frameId hid) r hparams max

theorem controlStatus (r : Router) (max : ℕ) :
    Keeps Inv r Prod.fst (EzspSpi.controlStatus g p r max : Host σ _) := by
  apply (hI.asideCmd hS g p (by decide) r (by decide) 64).bind
  rintro ⟨r, state⟩
  apply (hI.asideCmd hS g p (by decide) r (by decide) 64).bind
  rintro ⟨r, eui⟩
  apply (hI.asideCmd hS g p (by decide) r (by decide) 64).bind
  rintro ⟨r, nodeId⟩
  apply (hI.asideCmd hS g p (by decide) r (by decide) 64).bind
  rintro ⟨r, parameters⟩
  have hlast : Keeps Inv r (fun _ => r) (lastReportLines r : Host σ _) := by
    apply Keeps.ite
    · exact (hI.call .time (fun _ => ⟨rfl, rfl⟩) r).bind fun _ => Keeps.pure rfl
    · exact Keeps.pure rfl
  exact hlast.bind fun _ => Keeps.pure rfl

theorem tableEntries {frameId : Byte} (hid : IsAside frameId)
    (lines : Option (List Byte) → List (List Byte)) (room : ℕ → Bool)
    (entries index : ℕ) (r : Router) (reply : Reply) :
    Keeps Inv r Prod.fst (EzspSpi.tableEntries g p frameId lines room entries
      index r reply : Host σ _) := by
  induction entries generalizing index r reply with
  | zero => exact Keeps.pure rfl
  | succ entries ih =>
      apply Keeps.ite
      · have hparams : [BitVec.ofNat 8 index].length ≤ 135 := by
          rw [List.length_singleton]
          decide
        apply (hI.asideCmd hS g p hid r hparams 64).bind
        exact fun _ => ih _ _ _
      · exact Keeps.pure rfl

theorem ezspPermit (r : Router) (seconds : BitVec 32) (max : ℕ) :
    Keeps Inv r Prod.fst (EzspSpi.ezspPermit g p r seconds max :
      Host σ _) := by
  apply (hI.asideCmd hS g p (by decide) r (by simp) 8).bind
  rintro ⟨r', reply⟩
  exact Keeps.ite (Keeps.pure rfl) (Keeps.pure rfl)

theorem ezspSetPower (r : Router) (dbm : BitVec 32) (max : ℕ) :
    Keeps Inv r Prod.fst (EzspSpi.ezspSetPower g p r dbm max : Host σ _) := by
  apply (hI.asideCmd hS g p (by decide) r (by simp) 8).bind
  rintro ⟨r', reply⟩
  exact Keeps.ite (Keeps.pure rfl) (Keeps.pure rfl)

theorem acceptRequest (r : Router) (req : List Byte) :
    Keeps Inv r Prod.fst (EzspSpi.acceptRequest g p r req : Host σ _) := by
  have hcmd {frameId : Byte} (hid : IsAside frameId) (r : Router)
      {params : List Byte} (hparams : params.length ≤ 135) (max : ℕ) :=
    hI.asideCmd hS g p hid r hparams max
  have htable {frameId : Byte} (hid : IsAside frameId)
      (lines : Option (List Byte) → List (List Byte)) (room : ℕ → Bool)
      (entries : ℕ) (r : Router) (reply : Reply) :=
    hI.tableEntries hS g p hid lines room entries 0 r reply
  apply Keeps.ite
  · exact hI.controlStatus hS g p r 1024
  apply Keeps.ite
  · exact (hcmd (by decide) r (by decide) 32).bind fun _ => Keeps.pure rfl
  apply Keeps.ite
  · apply (hcmd (by decide) r (by decide) 64).bind
    rintro ⟨r, count⟩
    apply (htable (by decide) _ _ _ r _).bind
    rintro ⟨r, reply⟩
    exact (htable (by decide) _ _ _ r _).bind fun _ => Keeps.pure rfl
  apply Keeps.ite
  · apply (hcmd (by decide) r (by decide) 64).bind
    rintro ⟨r, count⟩
    exact (htable (by decide) _ _ _ r _).bind fun _ => Keeps.pure rfl
  apply Keeps.ite
  · exact (hI.ezspSetPower hS g p r _ _).bind fun _ => Keeps.pure rfl
  apply Keeps.ite
  · exact (hI.ezspPermit hS g p r _ _).bind fun _ => Keeps.pure rfl
  · exact Keeps.pure rfl

theorem controlAccept (listenFd : Int) (r : Router) :
    Keeps Inv r id (EzspSpi.controlAccept g p listenFd r : Host σ Router) := by
  apply (hI.call (.accept listenFd) (fun _ => ⟨rfl, rfl⟩) r).bind
  intro fd
  cases fd with
  | none => exact Keeps.pure rfl
  | some fd =>
      have hclose (r : Router) : Keeps Inv r id (do
          Program.call (I := host) (.close fd)
          pure r : Host σ Router) :=
        (hI.call (.close fd) (fun _ => ⟨rfl, rfl⟩) r).bind fun _ =>
          Keeps.pure rfl
      apply (hI.call (.read fd) (fun _ => ⟨rfl, rfl⟩) r).bind
      intro got
      cases got with
      | bytes bytes =>
          cases bytes with
          | nil => exact hclose r
          | cons b bytes =>
              apply (hI.acceptRequest hS g p r _).bind
              rintro ⟨r', reply⟩
              have hwrite : Emits IsQuiet (writeReply fd reply : Host σ Unit) :=
                writeReply_emits fun _ => ⟨rfl, rfl⟩
              exact (hI.emits hwrite r').bind fun _ => hclose r'
      | interrupted => exact hclose r
      | failed => exact hclose r

end Upheld

/-! ## Calls of some kind -/

/-- Since these calls there have been none but such with a frame id in `S`, and
the router is the same but for its number. -/
def CalledSince (xs : List Exchange) (S : Byte → Prop) (r₀ r : Router)
    (h : List HostEvent) : Prop :=
  ∃ more, Called (xs ++ more) r h ∧ (∀ x ∈ more, S (commandId x.command)) ∧
    r₀.Alike { r with seq := r₀.seq }

theorem Called.since {xs : List Exchange} {r : Router} {h : List HostEvent}
    (hcalled : Called xs r h) (S : Byte → Prop) : CalledSince xs S r r h :=
  ⟨[], by rwa [List.append_nil], fun _ hx => absurd hx List.not_mem_nil,
    rfl, rfl, rfl, rfl, rfl⟩

theorem upheld_calledSince (xs : List Exchange) (S : Byte → Prop)
    (r₀ : Router) : Upheld σ (CalledSince xs S r₀)
      fun frameId => S frameId ∧ frameId ∉ [0x01, 0xFF] where
  quiet := by
    rintro r h t ⟨more, hcalled, hmore, halike⟩ ht
    exact ⟨more, hcalled.quiet ht, hmore, halike⟩
  alike := by
    rintro r r' h ⟨more, hcalled, hmore, halike⟩ halike'
    exact ⟨more, hcalled.congr halike'.seq, hmore, rfl,
      halike'.reportCount.trans halike.reportCount,
      halike'.reportFailed.trans halike.reportFailed,
      halike'.extPanId.trans halike.extPanId,
      halike'.haveExtPanId.trans halike.haveExtPanId⟩
  xfer := by
    rintro g p r frameId params max ⟨hS, hid⟩ hparams h
      ⟨more, hcalled, hmore, halike⟩
    apply (ezspXfer_called g p hcalled hid hparams max).mono
    rintro _ _ ⟨x, hasks, hcalled', rfl⟩
    refine ⟨more ++ [x], by rwa [← List.append_assoc], ?_, halike⟩
    simp only [List.mem_append, List.mem_singleton]
    rintro y (hy | rfl)
    · exact hmore y hy
    · exact hasks.frameId ▸ hS

end EzspSpi
