import EzspSpi.Host.Playback
import EzspSpi.Spi.Command

/-!
# What is reported of a response

`decode_response` looks for the response in the whole receive buffer, where
`do_cmd` looks only at what was received.  The buffer is zero behind that, and
zero is the notification of a reset, so that the two agree exactly if something
was received.
-/

namespace EzspSpi

open Program

variable {σ : Type} [Kernel σ] (g : Globals) (p : Pins)

/-- What `decode_response` prints, with the values it shows. -/
inductive Report where
  | noResponse
  | frame (len : Byte)
  | version (b : Byte)
  | status (b : Byte)
  | error (b data : Byte)
  | unrecognised (b : Byte)
  deriving DecidableEq, Repr

/-- `decode_response`. -/
def decodeResponse (rx : List Byte) (rxlen : ℕ) : Report :=
  match spiFirstResponse rx rxlen with
  | none => .noResponse
  | some i =>
      let b := rx.getD i 0
      let data := if i + 1 < rxlen then rx.getD (i + 1) 0 else 0
      if b = 0xFE then .frame data
      else if b &&& 0xC0 = 0x80 then .version b
      else if b &&& 0xFE = 0xC0 then .status b
      else if b ≤ 0x04 then .error b data
      else .unrecognised b

/-- The value `decode_response` returns, `none` for `-1`. -/
def Report.code : Report → Option Byte
  | .noResponse => none
  | .frame _ => some 0xFE
  | .version b => some b
  | .status b => some b
  | .error b _ => some b
  | .unrecognised b => some b

/-- The class a report speaks of. -/
def Report.cls : Report → RspClass
  | .noResponse => .idle
  | .frame _ => .ezsp
  | .version _ => .version
  | .status _ => .status
  | .error b _ => if b = spiErrReset then .reset else .error
  | .unrecognised _ => .other

/-- The report is of this class; in particular it is `-1` for no response, and a
reset error for a reset. -/
def Report.Of (report : Report) (cls : RspClass) : Prop :=
  report.cls = cls ∧ (report.code = none ↔ cls = .idle) ∧
    ((∃ data, report = .error spiErrReset data) ↔ cls = .reset)

theorem Report.of_cls (report : Report) : report.Of report.cls := by
  refine ⟨rfl, ?_, ?_⟩
  · cases report with
    | error b data =>
        rw [Report.cls]
        split <;> simp [Report.code]
    | _ => simp [Report.code, Report.cls]
  · cases report with
    | error b data =>
        rw [Report.cls]
        split <;> simp_all
    | _ => simp [Report.cls]

/-! ## One response -/

/-- The two classify a response by its first byte alike. -/
theorem decodeResponse_cls {b : Byte} (hb : b ≠ spiIdle) (rest : List Byte)
    {n rxlen : ℕ} (hn : 0 < n) (hrxlen : 0 < rxlen) :
    (decodeResponse (b :: rest) rxlen).cls = (classify (b :: rest) n).1 := by
  have hfirst (k : ℕ) (hk : 0 < k) :
      spiFirstResponse (b :: rest) k = some 0 := by
    obtain ⟨k, rfl⟩ := Nat.exists_eq_succ_of_ne_zero hk.ne'
    rw [spiFirstResponse, List.take_succ_cons, List.findIdx?_cons]
    simp [hb]
  have hzero : (0x00 : Byte) ≤ 0x04 := by decide
  rw [decodeResponse, classify, hfirst n hn, hfirst rxlen hrxlen]
  simp only [List.getD_cons_zero]
  split_ifs <;> simp_all [Report.cls, spiErrReset]

/-- A buffer without a response is reported as a reset. -/
theorem decodeResponse_empty {rxlen : ℕ} (hrxlen : 0 < rxlen) :
    (decodeResponse (rxBuffer [] rxlen) rxlen).cls = .reset := by
  obtain ⟨rxlen, rfl⟩ := Nat.exists_eq_succ_of_ne_zero hrxlen.ne'
  have hbuffer : rxBuffer [] (rxlen + 1) =
      spiErrReset :: List.replicate rxlen 0 := rfl
  rw [hbuffer, decodeResponse_cls (by decide) _ Nat.one_pos hrxlen]
  simp [classify, spiFirstResponse, spiErrReset, spiIdle]

/-- What a transaction receives: nothing in its wait states, or a byte in one of
them with which its result begins. -/
theorem TxnRun.receives {g : Globals} {p : Pins} {tx : List Byte} {rxlen n : ℕ}
    {rx : List Byte} {t : List HostEvent} (ht : TxnRun g p tx rxlen (n, rx) t) :
    (n = 0 ∧ rx = rxBuffer [] rxlen ∧
      ∃ rest, misoBytes t = List.replicate g.cfg.waitBytes spiIdle ++ rest) ∨
    ∃ k b rest rest', k < g.cfg.waitBytes ∧ b ≠ spiIdle ∧ 0 < n ∧
      rx = b :: rest ∧ misoBytes t = List.replicate k spiIdle ++ b :: rest' := by
  cases ht with
  | silentHost cmd hcmd hcs =>
      refine Or.inl ⟨rfl, rfl, [], ?_⟩
      simp [hcmd.misoBytes_eq]
  | silentKernel cmd hcmd hcs b =>
      refine Or.inl ⟨rfl, rfl, [b], ?_⟩
      simp [hcmd.misoBytes_eq]
  | answered cmd hcmd k hk b hb head tail remain th tt hhead htail =>
      obtain ⟨head', rfl⟩ : ∃ head', head = b :: head' := by
        cases hhead <;> exact ⟨_, rfl⟩
      refine Or.inr ⟨k, b, _, misoBytes (th ++ tt), hk, hb, ?_, rfl, ?_⟩
      · exact Nat.succ_pos _
      · simp only [misoBytes_append, misoBytes_csEvents, misoBytes_waits,
          hcmd.misoBytes_eq]
        simp

/-- A byte other than idle among those of the wait states. -/
def Answered (waits : ℕ) (received : List Byte) : Prop :=
  ∃ b ∈ received.take waits, b ≠ spiIdle

instance (waits : ℕ) (received : List Byte) :
    Decidable (Answered waits received) :=
  inferInstanceAs (Decidable (∃ b ∈ received.take waits, b ≠ spiIdle))

/-- Within one transaction the two agree exactly if the NCP answers. -/
theorem TxnRun.decoded_iff {g : Globals} {p : Pins} {tx : List Byte}
    {rxlen n : ℕ} {rx : List Byte} {t : List HostEvent} (hrxlen : 0 < rxlen)
    (ht : TxnRun g p tx rxlen (n, rx) t) :
    (decodeResponse rx rxlen).cls = (classify rx n).1 ↔
      Answered g.cfg.waitBytes (misoBytes t) := by
  rcases ht.receives with ⟨rfl, rfl, rest, hmiso⟩ |
    ⟨k, b, rest, rest', hk, hb, hn, rfl, hmiso⟩
  · rw [decodeResponse_empty hrxlen, Answered, hmiso,
      List.take_left' List.length_replicate]
    constructor
    · exact fun h => nomatch h
    · rintro ⟨b, hb, hne⟩
      exact absurd (List.eq_of_mem_replicate hb) hne
  · rw [decodeResponse_cls hb rest hn hrxlen, Answered, hmiso]
    refine ⟨fun _ => ⟨b, ?_, hb⟩, fun _ => rfl⟩
    obtain ⟨more, hmore⟩ := Nat.exists_eq_add_of_lt hk
    rw [hmore, Nat.add_assoc, List.take_append, List.length_replicate,
      Nat.add_sub_cancel_left, List.take_succ_cons]
    exact List.mem_append_right _ List.mem_cons_self

/-! ## One command -/

/-- What was received in the last exchange of a trace. -/
def lastReceived (t : List HostEvent) : List Byte :=
  ((exchanges t).getLast?.map Exchange.received).getD []

/-- The class belongs to the last transaction. -/
def LastTxn (tx : List Byte) (rxlen : ℕ) (out : RspClass × List Byte)
    (h : List HostEvent) : Prop :=
  ∃ h' t n, h = h' ++ t ∧ TxnRun g p tx rxlen (n, out.2) t ∧
    out.1 = (classify out.2 n).1

theorem doCmdOnce_last (tx : List Byte) (rxlen : ℕ) (h : List HostEvent) :
    Holds anyRun h (doCmdOnce g p tx rxlen : Host σ _)
      (LastTxn g p tx rxlen) := by
  rw [doCmdOnce]
  have hwake : Emits IsGpio
      (onlyIf (g.cfg.wakeHandshake = true) (ncpWake p) : Host σ Unit) :=
    (ncpWake_emits p).onlyIf
  apply (gpio_holds anyRun_bus (fun _ => trivial) hwake).seq
  rintro _ _ ⟨w, _, rfl⟩
  apply (spiTxnFramed_holds anyRun_bus g p tx rxlen fun _ => trivial).seq
  rintro ⟨n, rx⟩ _ ⟨t, ht, rfl⟩
  exact Holds.pure ⟨h ++ w, t, n, rfl, ht, rfl⟩

theorem doCmd_last (tx : List Byte) (rxlen : ℕ) (retryOnReset : Bool)
    (h : List HostEvent) :
    Holds anyRun h (doCmd g p tx rxlen retryOnReset : Host σ _)
      (LastTxn g p tx rxlen) := by
  rw [doCmd]
  apply (doCmdOnce_last g p tx rxlen h).seq
  rintro ⟨cls, rx⟩ h' hlast
  dsimp only
  split
  · exact doCmdOnce_last g p tx rxlen h'
  · exact Holds.pure hlast

/-- The report of `decode_response` after `do_cmd` is of the class that
`do_cmd` returned exactly if the NCP has answered the last transaction within
its wait states: for every command, size of the buffer and run, with one
transaction or two. -/
theorem decode_agrees_iff {tx : List Byte} (htx : tx ≠ []) {rxlen : ℕ}
    (hrxlen : 0 < rxlen) {retryOnReset : Bool} {s : σ} {cls : RspClass}
    {rx : List Byte}
    (hrun : (doCmd g p tx rxlen retryOnReset s).outcome = .done (cls, rx)) :
    (decodeResponse rx rxlen).Of cls ↔ Answered g.cfg.waitBytes
      (lastReceived (doCmd g p tx rxlen retryOnReset s).trace) := by
  obtain ⟨h', t, n, htrace, ht, hcls⟩ :=
    (doCmd_last g p tx rxlen retryOnReset [] s).2.1 _ hrun
  dsimp only at ht hcls
  obtain ⟨hexchanges, hfirst⟩ := ht.exchanges_eq htx
  have hlast : lastReceived (h' ++ t) = misoBytes t := by
    rw [lastReceived, (exchanges_append hfirst).1, hexchanges,
      List.getLast?_concat]
    rfl
  rw [List.nil_append] at htrace
  rw [htrace, hlast, ← ht.decoded_iff hrxlen, ← hcls]
  constructor
  · exact fun h => h.1
  · intro hsame
    exact hsame ▸ Report.of_cls _

/-- The version query of `cmd_probe` with an NCP that answers it. -/
theorem decode_agrees_iff_version :
    (decodeResponse (rxBuffer [0x82, 0xA7] 512) 512).Of .version ↔
      Answered 3 (lastReceived (doCmd ⟨⟨3, false⟩, true⟩ ⟨3, 4, 5, 7, 6⟩
        [0x0A, 0xA7] 512 true
        (⟨[0xFF, 0x82, 0xA7], [], [], []⟩ : Playback)).trace) :=
  decode_agrees_iff ⟨⟨3, false⟩, true⟩ ⟨3, 4, 5, 7, 6⟩ (by decide) (by decide)
    (by decide +kernel)

/-- With a silent NCP the class is idle, and the report is one of a reset. -/
theorem decode_of_silence :
    ¬∀ cls rx, (doCmd ⟨⟨3, false⟩, true⟩ ⟨3, 4, 5, 7, 6⟩ [0x0A, 0xA7] 512 true
        (⟨[], [], [], []⟩ : Playback)).outcome = .done (cls, rx) →
      (decodeResponse rx 512).Of cls := by
  intro hagree
  have hof : (decodeResponse (rxBuffer [] 512) 512).Of .idle :=
    hagree _ _ (by decide +kernel)
  have hcls := hof.1
  rw [decodeResponse_empty (by decide)] at hcls
  cases hcls

end EzspSpi
