import EzspSpi.Spi.Exchange

/-!
# What `do_cmd` reports

The class and the receive buffer that `do_cmd` returns describe the last
exchange it made, and it made an earlier one only if that was answered by a
reset notification.
-/

namespace EzspSpi

open Program

variable {σ : Type} [Kernel σ]

/-- The class and the receive buffer belong to this exchange. -/
structure Reports (out : RspClass × List Byte) (x : Exchange) : Prop where
  ezsp : out.1 = .ezsp → ∃ payload, x.frame? = some payload ∧
    (out.2.getD 1 0).toNat = payload.length ∧
    (out.2.drop 2).take payload.length = payload
  other : out.1 ≠ .ezsp → x.frame? = none
  notice : out.1 = .reset → x.IsResetNotice

/-! ## Classification -/

private theorem dropWhile_idle (k : ℕ) (rest : List Byte) :
    (List.replicate k spiIdle ++ rest).dropWhile
        (fun c => decide (c = spiIdle)) =
      rest.dropWhile fun c => decide (c = spiIdle) := by
  induction k with
  | zero => rfl
  | succ k ih =>
      rw [List.replicate_succ, List.cons_append, List.dropWhile_cons_of_pos]
      · exact ih
      · decide

private theorem response_eq {x : Exchange} {k : ℕ} {b : Byte}
    {rest : List Byte} (hb : b ≠ spiIdle)
    (hx : x.received = List.replicate k spiIdle ++ b :: rest) :
    x.response = b :: rest := by
  rw [Exchange.response, hx, dropWhile_idle, List.dropWhile_cons_of_neg]
  simpa using hb

/-- No frame fits into a single byte. -/
private theorem frame?_of_silence {x : Exchange} {k : ℕ} {rest : List Byte}
    (hrest : rest.length ≤ 1)
    (hx : x.received = List.replicate k spiIdle ++ rest) :
    x.frame? = none := by
  have hshort : x.response.length ≤ 1 := by
    rw [Exchange.response, hx, dropWhile_idle]
    exact (List.dropWhile_sublist _).length_le.trans hrest
  rw [Exchange.frame?]
  cases hresponse : x.response with
  | nil => rfl
  | cons a rest =>
      cases rest with
      | nil => rfl
      | cons b rest => exact absurd hshort (by simp [hresponse])

theorem classify_head {b : Byte} (hb : b ≠ spiIdle)
    (rest : List Byte) (rxlen : ℕ) (hlen : 0 < rxlen) :
    ((classify (b :: rest) rxlen).1 = .ezsp ↔ b = spiCmdEzspFrame) ∧
      ((classify (b :: rest) rxlen).1 = .reset → b = spiErrReset) := by
  have hfirst : spiFirstResponse (b :: rest) rxlen = some 0 := by
    obtain ⟨n, rfl⟩ := Nat.exists_eq_succ_of_ne_zero hlen.ne'
    rw [spiFirstResponse, List.take_succ_cons, List.findIdx?_cons]
    simp [hb]
  have hspiFrame : spiCmdEzspFrame = 0xFE := rfl
  have hspiReset : spiErrReset = 0x00 := rfl
  rw [classify, hfirst, hspiFrame, hspiReset]
  simp only [List.getD_cons_zero]
  split_ifs <;> simp_all

/-- A framed response is classified by its first byte. -/
private theorem Framed.reports {R : List Byte} (hR : Framed R) {k : ℕ}
    {x : Exchange} (hx : x.received = List.replicate k spiIdle ++ R)
    (rxlen : ℕ) :
    Reports ((classify (rxBuffer R rxlen) R.length).1, rxBuffer R rxlen)
      x := by
  obtain ⟨b, rest, rfl, hb⟩ := hR.head_ne_idle
  have hresponse := response_eq hb hx
  obtain ⟨hezsp, hreset⟩ := classify_head hb
    (rest ++ List.replicate (rxlen - (b :: rest).length) 0)
    (b :: rest).length (Nat.succ_pos _)
  constructor
  · intro hclass
    have hframe : b = spiCmdEzspFrame := hezsp.mp hclass
    cases hR with
    | frame len rest hlen =>
        have hle : len.toNat ≤ rest.length := by omega
        have hlength : (rest.take len.toNat).length = len.toNat := by
          rw [List.length_take, min_eq_left hle]
        refine ⟨rest.take len.toNat, ?_, hlength.symm, ?_⟩
        · rw [Exchange.frame?, hresponse]
          exact if_pos ⟨rfl, hlen⟩
        · rw [hlength]
          exact List.take_append_of_le_length hle
    | error code a c hcode => exact absurd (hframe ▸ hcode) (by decide)
    | other _ a hne _ _ => exact absurd hframe hne
  · intro hclass
    have hframe : b ≠ spiCmdEzspFrame := fun h => hclass (hezsp.mpr h)
    rw [Exchange.frame?, hresponse]
    cases rest with
    | nil => rfl
    | cons len rest => exact if_neg fun h => hframe h.1
  · intro hclass
    rw [Exchange.IsResetNotice, hresponse, hreset hclass]
    rfl

/-- The exchange of a transaction and what its result says about it. -/
theorem TxnRun.reports {g : Globals} {p : Pins} {tx : List Byte}
    {n : ℕ} {rx : List Byte} {t : List HostEvent}
    (ht : TxnRun g p tx 260 (n, rx) t) :
    Reports ((classify rx n).1, rx) ⟨tx, misoBytes t⟩ := by
  rcases ht.clocked (by decide) with
    ⟨hout, rest, hmiso, _, hrest⟩ | ⟨k, R, _, hR, hout, hmiso, _⟩
  · obtain ⟨rfl, rfl⟩ := Prod.mk.inj hout
    have hidle : (classify (rxBuffer [] 260) 0).1 = .idle := rfl
    rw [hidle]
    constructor
    · intro hclass
      exact absurd hclass (by decide)
    · intro _
      exact frame?_of_silence hrest hmiso
    · intro hclass
      exact absurd hclass (by decide)
  · obtain ⟨rfl, rfl⟩ := Prod.mk.inj hout
    exact hR.reports hmiso 260

/-! ## The exchanges of a command -/

/-- Within `do_cmd` the command may follow this trace: nothing was exchanged
yet, or the same command once, answered by a reset notification. -/
def MayCommand (tx : List Byte) (t : List HostEvent) : Prop :=
  receivedFirst t = [] ∧
    (exchanges t = [] ∨
      ∃ x, exchanges t = [x] ∧ x.command = tx ∧ x.IsResetNotice)

/-- The trace of a command whose last exchange is `x`. -/
def Commanded (tx : List Byte) (x : Exchange) (t : List HostEvent) : Prop :=
  receivedFirst t = [] ∧ x.command = tx ∧
    (exchanges t = [x] ∨
      ∃ notice, exchanges t = [notice, x] ∧ notice.command = tx ∧
        notice.IsResetNotice)

/-- The last exchange of a longer trace, and the ones before it. -/
theorem Commanded.exchanges_append {tx : List Byte} {x : Exchange}
    {t : List HostEvent} (ht : Commanded tx x t) (h : List HostEvent) :
    (exchanges (h ++ t)).getLast? = some x ∧
      ∀ y ∈ exchanges h, y ∈ exchanges (h ++ t) := by
  obtain ⟨hfirst, _, hexchanges⟩ := ht
  rw [(EzspSpi.exchanges_append hfirst).1, List.getLast?_append]
  constructor
  · rcases hexchanges with hone | ⟨notice, htwo, _⟩
    · rw [hone]
      rfl
    · rw [htwo]
      rfl
  · exact fun y hy => List.mem_append_left _ hy

/-- Quiet events before a command are no part of it. -/
theorem Commanded.after_quiet {tx : List Byte} {x : Exchange}
    {t t' : List HostEvent} (ht : ∀ e ∈ t, IsQuiet e)
    (ht' : Commanded tx x t') : Commanded tx x (t ++ t') := by
  obtain ⟨hfirst, hx, hexchanges⟩ := ht'
  obtain ⟨hquiet, hquietFirst⟩ := exchanges_of_quiet ht
  obtain ⟨hall, hallFirst⟩ := EzspSpi.exchanges_append (t := t) hfirst
  rw [hquiet, List.nil_append] at hall
  rw [hquietFirst] at hallFirst
  rw [Commanded, hall]
  exact ⟨hallFirst, hx, hexchanges⟩

theorem MayCommand.append_quiet {tx : List Byte} {t t' : List HostEvent}
    (ht : MayCommand tx t) (ht' : ∀ e ∈ t', IsQuiet e) :
    MayCommand tx (t ++ t') := by
  obtain ⟨hexchanges, hfirst⟩ := exchanges_append (t := t)
    (exchanges_of_quiet ht').2
  rw [(exchanges_of_quiet ht').1, List.append_nil] at hexchanges
  rw [MayCommand, hexchanges, hfirst]
  exact ht

section Specifications

variable {C : Contract host} (hC : Bus C) (hhalt : ∀ h, C.halt h)
  {h : List HostEvent}

include hC hhalt

omit [Kernel σ] in
/-- Line events only, so the bus is as it was. -/
theorem gpio_holds {α : Type} {m : Host σ α} (hm : Emits IsGpio m) :
    Holds C h m fun _ h' => ∃ t, (∀ e ∈ t, IsQuiet e) ∧ h' = h ++ t := by
  apply (hm.appends (fun h' e he => hC.gpio h' e he) hhalt).mono
  rintro _ h' ⟨t, ht, rfl⟩
  exact ⟨t, fun e he => (ht e he).isQuiet, rfl⟩

variable (g : Globals) (p : Pins) {tx : List Byte} (htx : tx ≠ [])
  (hcommand : ∀ t, MayCommand tx t → ∀ rx,
    C.event (h ++ t) (.call (.spiTransfer tx false true) rx))

include htx hcommand

theorem doCmdOnce_holds {t : List HostEvent} (ht : MayCommand tx t) :
    Holds C (h ++ t) (doCmdOnce g p tx 260 : Host σ (RspClass × List Byte))
      fun out h' => ∃ t' x, h' = h ++ (t ++ t') ∧ receivedFirst t' = [] ∧
        exchanges t' = [x] ∧ x.command = tx ∧ Reports out x := by
  rw [doCmdOnce]
  have hwake : Emits IsGpio
      (onlyIf (g.cfg.wakeHandshake = true) (ncpWake p) : Host σ Unit) :=
    (ncpWake_emits p).onlyIf
  apply (gpio_holds hC hhalt hwake).seq
  rintro _ _ ⟨w, hw, rfl⟩
  have hassert : ∀ e ∈ csEvents g p false, IsQuiet e :=
    fun e he => isQuiet_of_mem_csEvents he
  have hmay := (ht.append_quiet hw).append_quiet hassert
  have hevent : ∀ rx, C.event (h ++ t ++ w ++ csEvents g p false)
      (.call (.spiTransfer tx false true) rx) := by
    intro rx
    rw [List.append_assoc h, List.append_assoc h]
    exact hcommand _ hmay rx
  apply (spiTxnFramed_holds hC g p tx 260 hevent).seq
  rintro ⟨n, rx⟩ _ ⟨u, hu, rfl⟩
  obtain ⟨hexchanges, hfirst⟩ := hu.exchanges_eq htx
  obtain ⟨hexchanges', hfirst'⟩ := exchanges_append (t := w) hfirst
  rw [(exchanges_of_quiet hw).1, hexchanges, List.nil_append] at hexchanges'
  rw [(exchanges_of_quiet hw).2] at hfirst'
  apply Holds.pure
  exact ⟨w ++ u, _, by simp only [List.append_assoc], hfirst', hexchanges',
    rfl, hu.reports⟩

/-- The exchanges of `do_cmd` with retry, and what its result says about the
last one. -/
theorem doCmd_holds :
    Holds C h (doCmd g p tx 260 true : Host σ (RspClass × List Byte))
      fun out h' => ∃ t x, h' = h ++ t ∧ Commanded tx x t ∧
        Reports out x := by
  rw [doCmd]
  have hnone : MayCommand tx [] := ⟨rfl, Or.inl rfl⟩
  have honce := doCmdOnce_holds (σ := σ) hC hhalt g p htx hcommand hnone
  rw [List.append_nil] at honce
  apply honce.seq
  rintro ⟨cls, rx⟩ _ ⟨t, x, rfl, hfirst, hexchanges, hx, hreports⟩
  rw [List.nil_append]
  dsimp only
  by_cases hreset : cls = .reset ∧ true = true
  · rw [if_pos hreset]
    have hnotice : x.IsResetNotice := hreports.notice hreset.1
    have hmay : MayCommand tx t := ⟨hfirst, Or.inr ⟨x, hexchanges, hx, hnotice⟩⟩
    apply (doCmdOnce_holds hC hhalt g p htx hcommand hmay).mono
    rintro out _ ⟨t', x', rfl, hfirst', hexchanges', hx', hreports'⟩
    obtain ⟨hall, hfirstAll⟩ := exchanges_append (t := t) hfirst'
    rw [hexchanges, hexchanges'] at hall
    rw [hfirst] at hfirstAll
    exact ⟨t ++ t', x', rfl, ⟨hfirstAll, hx', Or.inr ⟨x, hall, hx, hnotice⟩⟩,
      hreports'⟩
  · rw [if_neg hreset]
    apply Holds.pure
    exact ⟨t, x, rfl, ⟨hfirst, hx, Or.inl hexchanges⟩, hreports⟩

end Specifications

end EzspSpi
