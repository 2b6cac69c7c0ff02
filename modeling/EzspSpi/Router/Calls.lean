import EzspSpi.Router.Codec

/-!
# The calls of a trace

What the router asks of the NCP, as it can be read off the bus: commands with
their frame id, their parameters and their answer.  One that was repeated after
a reset notification counts once.
-/

namespace EzspSpi

open Program

variable {σ : Type} [Kernel σ] (g : Globals) (p : Pins)

/-! ## Reading a command -/

/-- The length of a command's header and the place of its frame id: 0xFF and
0x01 stand where the frame id of the oldest layout would, and are none. -/
def commandLayout (tx : List Byte) : ℕ × ℕ :=
  if tx.getD 4 0 = 0xFF then ezspLayout 5
  else if tx.getD 4 0 = 0x01 then ezspLayout 8
  else ezspLayout 4

def commandId (tx : List Byte) : Byte := tx.getD (2 + (commandLayout tx).2) 0

def commandParams (tx : List Byte) : List Byte :=
  (tx.drop (2 + (commandLayout tx).1)).dropLast

private theorem commandLayout_oldest {frameId : Byte}
    (hid : frameId ∉ [0x01, 0xFF]) (a b c d : Byte) (rest : List Byte) :
    commandLayout (a :: b :: c :: d :: frameId :: rest) = (3, 2) := by
  have hne : frameId ≠ 0x01 ∧ frameId ≠ 0xFF := by simpa using hid
  rw [commandLayout]
  exact (if_neg hne.2).trans (if_neg hne.1)

/-- A command reads as it was put together. -/
theorem command_ezspTx {frameId : Byte} (hid : frameId ∉ [0x01, 0xFF])
    (ver : ℕ) (seq : Byte) (params : List Byte) :
    commandId (ezspTx ver seq frameId params) = frameId ∧
      commandParams (ezspTx ver seq frameId params) = params := by
  rw [commandId, commandParams, ezspTx, ezspHeader]
  by_cases h8 : ver ≥ 8
  · rw [if_pos h8]
    exact ⟨rfl, List.dropLast_concat⟩
  · rw [if_neg h8]
    by_cases h5 : ver ≥ 5
    · rw [if_pos h5]
      exact ⟨rfl, List.dropLast_concat⟩
    · rw [if_neg h5]
      dsimp only [List.cons_append, List.nil_append]
      rw [commandLayout_oldest hid]
      exact ⟨rfl, List.dropLast_concat⟩

/-- A command is laid out as its version is. -/
theorem commandLayout_ezspTx {frameId : Byte} (hid : frameId ∉ [0x01, 0xFF])
    (ver : ℕ) (seq : Byte) (params : List Byte) :
    commandLayout (ezspTx ver seq frameId params) = ezspLayout ver := by
  have hne : frameId ≠ 0x01 ∧ frameId ≠ 0xFF := by simpa using hid
  rcases layout_cases ver frameId with ⟨h, h'⟩ | ⟨h, h'⟩ | ⟨h, h'⟩
  · rw [commandLayout, ezspTx, h', h]
    rfl
  · rw [commandLayout, ezspTx, h', h]
    rfl
  · rw [commandLayout, ezspTx, h', h]
    exact (if_neg hne.2).trans (if_neg hne.1)

/-! ## Calls -/

/-- The frame id and the payload of the answer to a command. -/
def Exchange.reply? (x : Exchange) : Option (Byte × List Byte) :=
  x.frame?.bind fun frame =>
    if frame.length < (commandLayout x.command).1 then none
    else some (frame.getD (commandLayout x.command).2 0,
      frame.drop (commandLayout x.command).1)

/-- The first byte of the answer's payload. -/
def Exchange.status? (x : Exchange) : Option Byte :=
  x.reply?.bind fun reply => reply.2.head?

/-- What it leaves at the start of a buffer. -/
def Exchange.payload (x : Exchange) : List Byte :=
  (x.reply?.map fun reply => reply.2.take 64).getD []

/-- What is asked for, with these parameters. -/
structure Exchange.Asks (x : Exchange) (frameId : Byte) (params : List Byte) :
    Prop where
  frameId : commandId x.command = frameId
  params : commandParams x.command = params

/-- An exchange is a repetition of the one before if it has the same command,
sequence number included. -/
def lastOfEach : List Exchange → List Exchange
  | [] => []
  | [x] => [x]
  | x :: y :: rest =>
      if y.command = x.command then lastOfEach (y :: rest)
      else x :: lastOfEach (y :: rest)

def calls (t : List HostEvent) : List Exchange := lastOfEach (exchanges t)

theorem Exchange.reads {x : Exchange} {frameId : Byte}
    (hid : frameId ∉ [0x01, 0xFF]) {ver : ℕ} {seq : Byte} {params : List Byte}
    (hx : x.command = ezspTx ver seq frameId params) :
    x.Asks frameId params ∧ ∀ max, x.frame?.bind (unwrapReply ver max) =
      x.reply?.map fun reply => (reply.1, reply.2.take max) := by
  obtain ⟨hframeId, hparams⟩ := command_ezspTx hid ver seq params
  rw [← hx] at hframeId hparams
  refine ⟨⟨hframeId, hparams⟩, fun max => ?_⟩
  rw [Exchange.reply?, hx, commandLayout_ezspTx hid]
  cases x.frame? with
  | none => rfl
  | some frame =>
      rw [Option.bind_some, Option.bind_some, unwrapReply]
      split <;> rfl

theorem status?_reply {max : ℕ} (hmax : max ≠ 0) (x : Exchange) :
    EzspSpi.status? (x.reply?.map fun reply => reply.2.take max) =
      x.status? := by
  rw [EzspSpi.status?, Exchange.status?]
  cases x.reply? with
  | none => rfl
  | some reply => simp [List.head?_take, hmax]

theorem polled_payload (x : Exchange) :
    (polled (x.reply?.map fun reply => (reply.1, reply.2.take 64))).2 =
      x.payload := by
  rw [Exchange.payload]
  cases x.reply? <;> rfl

/-- A poll tells the frame id and the start of the payload of a callback. -/
theorem polled_reply_iff {id : Byte} (hid : id ∉ [0x00, ezspNoCallbacks])
    {reply : Option (Byte × List Byte)} {max : ℕ} (payload : List Byte) :
    polled (reply.map fun reply => (reply.1, reply.2.take max)) =
        (id, payload) ↔
      ∃ full, reply = some (id, full) ∧ payload = full.take max := by
  have hne : id ≠ 0x00 ∧ id ≠ ezspNoCallbacks := by simpa using hid
  cases reply with
  | none => exact iff_of_false (fun h => hne.1 (Prod.mk.inj h).1.symm) (by simp)
  | some reply =>
      obtain ⟨id', full⟩ := reply
      simp only [Option.map_some, polled, Prod.mk.injEq, Option.some.injEq]
      constructor
      · rintro ⟨hid', rfl⟩
        split at hid'
        · exact absurd hid'.symm hne.1
        · exact ⟨full, ⟨hid', rfl⟩, rfl⟩
      · rintro ⟨_, ⟨rfl, rfl⟩, rfl⟩
        exact ⟨if_neg hne.2, rfl⟩

/-- What follows with another command is not a repetition. -/
theorem lastOfEach_append {xs ys : List Exchange}
    (hnew : ∀ x ∈ xs.getLast?, ∀ y ∈ ys.head?, y.command ≠ x.command) :
    lastOfEach (xs ++ ys) = lastOfEach xs ++ lastOfEach ys := by
  induction xs using lastOfEach.induct with
  | case1 => rfl
  | case2 x =>
      cases ys with
      | nil => rfl
      | cons y ys => exact if_neg (hnew x rfl y rfl)
  | case3 x y rest hsame ih =>
      rw [List.cons_append, List.cons_append, lastOfEach, lastOfEach,
        if_pos hsame, if_pos hsame]
      exact ih hnew
  | case4 x y rest hdiffers ih =>
      rw [List.cons_append, List.cons_append, lastOfEach, lastOfEach,
        if_neg hdiffers, if_neg hdiffers, List.cons_append]
      exact congrArg (x :: ·) (ih hnew)

/-! ## Keeping count -/

/-- These have been the calls so far, and the next one has a new number. -/
structure Called (xs : List Exchange) (r : Router) (h : List HostEvent) :
    Prop where
  calls : calls h = xs
  number : ∀ x ∈ (exchanges h).getLast?, x.command.getD 2 0 + 1 = r.seq

namespace Called

variable {xs : List Exchange} {r : Router} {h : List HostEvent}

theorem start (r : Router) : Called [] r [] := ⟨rfl, nofun⟩

theorem congr (hcalled : Called xs r h) {r' : Router} (hseq : r'.seq = r.seq) :
    Called xs r' h := by
  refine ⟨hcalled.calls, fun x hx => ?_⟩
  rw [hseq]
  exact hcalled.number x hx

theorem quiet (hcalled : Called xs r h) {t : List HostEvent}
    (ht : ∀ e ∈ t, IsQuiet e) : Called xs r (h ++ t) := by
  have hexchanges := exchanges_append_quiet (t := h) ht
  refine ⟨?_, ?_⟩
  · rw [EzspSpi.calls, hexchanges]
    exact hcalled.calls
  · rw [hexchanges]
    exact hcalled.number

/-- A command with the router's number is one more call. -/
theorem commanded (hcalled : Called xs r h) {ver : ℕ} {frameId : Byte}
    {params : List Byte} {x : Exchange} {t : List HostEvent}
    (ht : Commanded (ezspTx ver r.seq frameId params) x t) {r' : Router}
    (hseq : r'.seq = r.seq + 1) : Called (xs ++ [x]) r' (h ++ t) := by
  obtain ⟨hfirst, hx, hexchanges⟩ := ht
  have hnumber (y : Exchange) (hy : y.command = x.command) :
      y.command.getD 2 0 = r.seq := by
    rw [hy, hx]
    rfl
  have hnew : ∀ y ∈ (exchanges h).getLast?, ∀ z ∈ (exchanges t).head?,
      z.command ≠ y.command := by
    intro y hy z hz hsame
    have hz : z.command = x.command := by
      rcases hexchanges with hone | ⟨notice, htwo, hnotice, _⟩
      · rw [hone] at hz
        rw [Option.some.inj hz]
      · rw [htwo] at hz
        rw [← Option.some.inj hz, hnotice, hx]
    have hnext := hcalled.number y hy
    rw [hnumber y (hsame.symm.trans hz)] at hnext
    simp at hnext
  have hlast : lastOfEach (exchanges t) = [x] := by
    rcases hexchanges with hone | ⟨notice, htwo, hnotice, _⟩
    · rw [hone]
      rfl
    · rw [htwo]
      exact if_pos (hx.trans hnotice.symm)
  constructor
  · rw [EzspSpi.calls, (exchanges_append hfirst).1, lastOfEach_append hnew,
      hlast]
    exact congrArg (· ++ [x]) hcalled.calls
  · intro y hy
    obtain rfl : x = y := Option.some.inj
      ((Commanded.exchanges_append ⟨hfirst, hx, hexchanges⟩ h).1.symm.trans hy)
    rw [hnumber x rfl, hseq]

end Called

section Specifications

variable {xs : List Exchange} {r : Router} {h : List HostEvent}
  (hcalled : Called xs r h)

include hcalled

theorem ezspXfer_called {frameId : Byte} (hid : frameId ∉ [0x01, 0xFF])
    {params : List Byte} (hparams : params.length ≤ 135) (payloadMax : ℕ) :
    Holds anyRun h (ezspXfer g p r frameId params payloadMax : Host σ _)
      fun out h' => ∃ x : Exchange, x.Asks frameId params ∧
        Called (xs ++ [x]) out.1 h' ∧
        out = ({ r with seq := r.seq + 1 }, x.reply?.map fun reply =>
          (reply.1, reply.2.take payloadMax)) := by
  apply (ezspXfer_holds g p (fun _ => trivial) anyRun_bus r frameId hparams
    payloadMax fun _ _ _ => trivial).mono
  rintro _ _ ⟨t, x, rfl, hcommanded, rfl⟩
  obtain ⟨hasks, hreply⟩ := Exchange.reads hid hcommanded.2.1
  exact ⟨x, hasks, hcalled.commanded hcommanded rfl, by rw [hreply]⟩

theorem ezspCmd_called {frameId : Byte} (hid : frameId ∉ [0x01, 0xFF])
    {params : List Byte} (hparams : params.length ≤ 135) (payloadMax : ℕ) :
    Holds anyRun h (ezspCmd g p r frameId params payloadMax : Host σ _)
      fun out h' => ∃ x : Exchange, x.Asks frameId params ∧
        Called (xs ++ [x]) out.1 h' ∧
        out = ({ r with seq := r.seq + 1 }, x.reply?.map fun reply =>
          reply.2.take payloadMax) := by
  apply (ezspXfer_called g p hcalled hid hparams payloadMax).seq
  rintro _ _ ⟨x, hasks, hmore, rfl⟩
  refine Holds.pure ⟨x, hasks, hmore, ?_⟩
  rw [Option.map_map]
  rfl

theorem ezspPollCallback_called (max : ℕ) :
    Holds anyRun h (ezspPollCallback g p r max : Host σ _)
      fun out h' => ∃ x : Exchange, x.Asks ezspCallback [] ∧
        Called (xs ++ [x]) out.1 h' ∧
        out = ({ r with seq := r.seq + 1 }, polled (x.reply?.map fun reply =>
          (reply.1, reply.2.take max))) := by
  have hparams : ([] : List Byte).length ≤ 135 := Nat.zero_le 135
  rw [ezspPollCallback_eq]
  apply (ezspXfer_called g p hcalled (by decide) hparams max).seq
  rintro _ _ ⟨x, hasks, hmore, rfl⟩
  exact Holds.pure ⟨x, hasks, hmore, rfl⟩

end Specifications

/-! ## An NCP to call -/

/-- An NCP that grants what it is asked for, but for the scan, and brings these
callbacks after so many commands. -/
def obligingNcp (scan : Byte) (callback : ℕ → List Byte) : Responder where
  respond n tx :=
    let id := commandId tx
    [0x00, 0x80] ++
      if id = ezspCallback then callback n
      else if id = ezspVersion then [id, 0x04, 0x02, 0x00, 0x30]
      else if id = ezspStartScan then [id, scan]
      else [id, 0x00, 0x02, 0x00]
  commands := 0
  pending := []

end EzspSpi
