import EzspSpi.Spi.Framing

/-!
# Commands and their answers

A trace as the NCP sees it: the commands, each with the bytes clocked back
before the next one.  `do_cmd` makes one exchange, or two if the first was
answered by a reset notification, and reports what the last one was answered
with.
-/

namespace EzspSpi

open Program

variable {σ : Type} [Kernel σ]

/-- The command of an event: the transfer without a receive buffer. -/
def commandOf : HostEvent → Option (List Byte)
  | .call (.spiTransfer tx false _) (some _) => some tx
  | _ => none

structure Exchange where
  command : List Byte
  received : List Byte
  deriving DecidableEq, Repr

/-- The bytes received before the next command. -/
def receivedFirst : List HostEvent → List Byte
  | [] => []
  | e :: t => if commandOf e = none then miso e ++ receivedFirst t else []

/-- The commands of a trace, each with what was received after it. -/
def exchanges : List HostEvent → List Exchange
  | [] => []
  | e :: t =>
      match commandOf e with
      | some tx => ⟨tx, receivedFirst t⟩ :: exchanges t
      | none => exchanges t

namespace Exchange

/-- The response, which follows the wait states. -/
def response (x : Exchange) : List Byte :=
  x.received.dropWhile fun c => decide (c = spiIdle)

/-- The EZSP frame of a complete response: what stands between `0xFE <len>`
and the terminator. -/
def frame? (x : Exchange) : Option (List Byte) :=
  match x.response with
  | first :: len :: rest =>
      if first = spiCmdEzspFrame ∧ rest.length = len.toNat + 1 then
        some (rest.take len.toNat)
      else none
  | _ => none

/-- The response that takes the place of the first one after a reset. -/
def IsResetNotice (x : Exchange) : Prop := x.response.head? = some spiErrReset

instance (x : Exchange) : Decidable x.IsResetNotice :=
  inferInstanceAs (Decidable (_ = _))

end Exchange

/-- A reset notification is no EZSP frame. -/
theorem frame?_of_notice {x : Exchange} (hx : x.IsResetNotice) :
    x.frame? = none := by
  rw [Exchange.IsResetNotice] at hx
  rw [Exchange.frame?]
  split
  · rename_i first len rest hresponse
    rw [hresponse, List.head?_cons, Option.some.injEq] at hx
    rw [if_neg]
    rintro ⟨hfirst, _⟩
    exact absurd (hfirst.symm.trans hx) (by decide)
  · rfl

/-! ## Exchanges of a longer trace -/

theorem exchanges_append {t t' : List HostEvent}
    (ht' : receivedFirst t' = []) :
    exchanges (t ++ t') = exchanges t ++ exchanges t' ∧
      receivedFirst (t ++ t') = receivedFirst t := by
  induction t with
  | nil => exact ⟨rfl, ht'⟩
  | cons e t ih =>
      obtain ⟨hexchanges, hfirst⟩ := ih
      cases hcommand : commandOf e with
      | none => simp [exchanges, receivedFirst, hcommand, hexchanges, hfirst]
      | some tx => simp [exchanges, receivedFirst, hcommand, hexchanges, hfirst]

/-- An event that neither commands nor receives. -/
def IsQuiet (e : HostEvent) : Prop := commandOf e = none ∧ miso e = []

theorem exchanges_of_no_command {t : List HostEvent}
    (ht : ∀ e ∈ t, commandOf e = none) :
    exchanges t = [] ∧ receivedFirst t = misoBytes t := by
  induction t with
  | nil => exact ⟨rfl, rfl⟩
  | cons e t ih =>
      have hcommand := ht e List.mem_cons_self
      obtain ⟨hexchanges, hfirst⟩ :=
        ih fun e' he' => ht e' (List.mem_cons_of_mem e he')
      have hmiso : misoBytes (e :: t) = miso e ++ misoBytes t := rfl
      rw [exchanges, receivedFirst, hcommand, if_pos rfl, hexchanges, hfirst,
        hmiso]
      exact ⟨rfl, rfl⟩

theorem exchanges_of_quiet {t : List HostEvent} (ht : ∀ e ∈ t, IsQuiet e) :
    exchanges t = [] ∧ receivedFirst t = [] := by
  have hcommand : ∀ e ∈ t, commandOf e = none := fun e he => (ht e he).1
  obtain ⟨hexchanges, hfirst⟩ := exchanges_of_no_command hcommand
  have hmiso : misoBytes t = [] :=
    List.flatMap_eq_nil_iff.mpr fun e he => (ht e he).2
  exact ⟨hexchanges, hfirst.trans hmiso⟩

/-- Quiet events after a trace add no exchange. -/
theorem exchanges_append_quiet {t t' : List HostEvent}
    (ht' : ∀ e ∈ t', IsQuiet e) : exchanges (t ++ t') = exchanges t := by
  obtain ⟨hexchanges, hfirst⟩ := exchanges_of_quiet ht'
  rw [(exchanges_append hfirst).1, hexchanges, List.append_nil]

theorem exchanges_concat_quiet {t : List HostEvent} {e : HostEvent}
    (he : IsQuiet e) : exchanges (t ++ [e]) = exchanges t := by
  apply exchanges_append_quiet
  intro e' he'
  exact List.mem_singleton.mp he' ▸ he

theorem isQuiet_note (n : Note) : IsQuiet (.note n) := ⟨rfl, rfl⟩

theorem IsGpio.isQuiet {e : HostEvent} (he : IsGpio e) : IsQuiet e := by
  cases e with
  | note n => exact ⟨rfl, rfl⟩
  | call c r =>
      cases c with
      | spiTransfer tx keepRx keepCs => exact he.elim
      | _ => exact ⟨rfl, rfl⟩

theorem isQuiet_lineSet (fd : Int) (level : Bool) :
    IsQuiet (lineSet fd level) := ⟨rfl, rfl⟩

theorem isQuiet_of_mem_csEvents {g : Globals} {p : Pins} {level : Bool}
    {e : HostEvent} (he : e ∈ csEvents g p level) : IsQuiet e := by
  rw [csEvents, List.mem_append] at he
  rcases he with he | he
  · split at he
    · exact List.mem_singleton.mp he ▸ isQuiet_lineSet _ _
    · exact absurd he List.not_mem_nil
  · split at he
    · exact List.mem_singleton.mp he ▸ isQuiet_lineSet _ _
    · exact absurd he List.not_mem_nil

/-! ## The exchange of one transaction -/

private theorem commandOf_idleByte (keepCs : Bool) (b : Byte) :
    commandOf (idleByte keepCs b) = none := rfl

private theorem HeadRun.no_command {b : Byte} {rxlen : ℕ}
    {out : List Byte × ℕ} {t : List HostEvent} (ht : HeadRun b rxlen out t) :
    ∀ e ∈ t, commandOf e = none := by
  intro e he
  cases ht with
  | framed len hb hlen => rw [List.mem_singleton.mp he, commandOf_idleByte]
  | unframed hb hlen => exact absurd he List.not_mem_nil
  | error hb herr => exact absurd he List.not_mem_nil
  | other hb herr => exact absurd he List.not_mem_nil

private theorem TailRun.no_command {p : Pins} {remain : ℕ}
    {tail : List Byte} {t : List HostEvent} (ht : TailRun p remain tail t) :
    ∀ e ∈ t, commandOf e = none := by
  intro e he
  cases ht with
  | rest hremain rx =>
      rw [List.mem_singleton.mp he]
      rfl
  | kernelRelease b hremain hcs =>
      rw [List.mem_singleton.mp he, commandOf_idleByte]
  | nothing hremain hcs => exact absurd he List.not_mem_nil

private theorem no_command_waits (n : ℕ) :
    ∀ e ∈ List.replicate n (idleByte true spiIdle), commandOf e = none := by
  intro e he
  rw [List.eq_of_mem_replicate he, commandOf_idleByte]

/-- A transaction is its command between the chip select and the rest. -/
private theorem TxnRun.parts {g : Globals} {p : Pins} {tx : List Byte}
    {rxlen : ℕ} {out : ℕ × List Byte} {t : List HostEvent}
    (ht : TxnRun g p tx rxlen out t) :
    ∃ cmd rest, t = csEvents g p false ++ (cmd ++ rest) ∧
      IsCommand tx cmd ∧ ∀ e ∈ rest, commandOf e = none := by
  have hrelease (e : HostEvent) (he : e ∈ csEvents g p true) :
      commandOf e = none := (isQuiet_of_mem_csEvents he).1
  cases ht with
  | silentHost cmd hcmd hcs =>
      refine ⟨cmd, _, by simp only [List.append_assoc]; rfl, hcmd, ?_⟩
      intro e he
      rcases List.mem_append.mp he with he | he
      · exact no_command_waits _ e he
      · exact hrelease e he
  | silentKernel cmd hcmd hcs b =>
      refine ⟨cmd, _, by simp only [List.append_assoc]; rfl, hcmd, ?_⟩
      intro e he
      rcases List.mem_append.mp he with he | he
      · exact no_command_waits _ e he
      · rw [List.mem_singleton.mp he, commandOf_idleByte]
  | answered cmd hcmd k hk b hb head tail remain th tt hhead htail =>
      refine ⟨cmd, _, by simp only [List.append_assoc]; rfl, hcmd, ?_⟩
      intro e he
      simp only [List.mem_append, List.mem_singleton] at he
      rcases he with he | rfl | he | he | he
      · exact no_command_waits _ e he
      · exact commandOf_idleByte _ _
      · exact hhead.no_command e he
      · exact htail.no_command e he
      · exact hrelease e he

/-- One transaction is one exchange. -/
theorem TxnRun.exchanges_eq {g : Globals} {p : Pins} {tx : List Byte}
    {rxlen : ℕ} {out : ℕ × List Byte} {t : List HostEvent}
    (ht : TxnRun g p tx rxlen out t) (htx : tx ≠ []) :
    exchanges t = [⟨tx, misoBytes t⟩] ∧ receivedFirst t = [] := by
  obtain ⟨cmd, rest, rfl, hcmd, hrest⟩ := ht.parts
  obtain ⟨hempty, _⟩ | ⟨_, rx, rfl⟩ := hcmd
  · exact absurd hempty htx
  obtain ⟨hnone, hall⟩ := exchanges_of_no_command hrest
  have hquiet : ∀ e ∈ csEvents g p false, IsQuiet e :=
    fun e he => isQuiet_of_mem_csEvents he
  have hcommand : commandOf (transferred tx false true rx) = some tx := rfl
  have hsent : exchanges ([transferred tx false true rx] ++ rest) =
        [⟨tx, misoBytes rest⟩] ∧
      receivedFirst ([transferred tx false true rx] ++ rest) = [] := by
    rw [List.singleton_append, exchanges, receivedFirst, hcommand, hnone, hall]
    exact ⟨rfl, rfl⟩
  have hmiso : misoBytes (csEvents g p false ++
      ([transferred tx false true rx] ++ rest)) = misoBytes rest := by
    rw [misoBytes_append, misoBytes_append, misoBytes_csEvents]
    rfl
  obtain ⟨hexchanges, hfirst⟩ := exchanges_append (t := csEvents g p false)
    hsent.2
  obtain ⟨hexchanges', hfirst'⟩ := exchanges_of_quiet hquiet
  rw [hexchanges, hfirst, hexchanges', hfirst', hsent.1, hmiso]
  exact ⟨rfl, rfl⟩

end EzspSpi
