import EzspSpi.Ash.Wired
import EzspSpi.Host.Playback
import EzspSpi.Router.Ezsp

/-!
# One codec for the router and the bridge

The layouts of the EZSP versions are written out three times: in `ezsp_xfer`,
in `ezsp_layout` and in `ezsp_relay_callback`.  They are the same, and
`ezsp_xfer` is `ezsp_relay` of the frame it builds, with the header of the
answer taken off.
-/

namespace EzspSpi

open Program

variable {σ : Type} [Kernel σ] (g : Globals) (p : Pins)

/-- The EZSP frame that `ezsp_xfer` wraps. -/
def ezspBody (ver : ℕ) (seq frameId : Byte) (params : List Byte) : List Byte :=
  seq :: ezspHeader ver frameId ++ params

/-- What `ezsp_xfer` makes of an answer: the frame id and the payload, if the
header is complete. -/
def unwrapReply (ver payloadMax : ℕ) (out : List Byte) :
    Option (Byte × List Byte) :=
  if out.length < (ezspLayout ver).1 then none
  else some (out.getD (ezspLayout ver).2 0,
    (out.drop (ezspLayout ver).1).take payloadMax)

/-! ## Layouts -/

/-- The layouts of versions from 8 on, of 5 to 7, and of those before. -/
theorem layout_cases (ver : ℕ) (frameId : Byte) :
    (ezspLayout ver = (5, 3) ∧
      ezspHeader ver frameId = [0x00, 0x01, frameId, 0x00]) ∨
    (ezspLayout ver = (5, 4) ∧
      ezspHeader ver frameId = [0x00, 0xFF, 0x00, frameId]) ∨
    (ezspLayout ver = (3, 2) ∧ ezspHeader ver frameId = [0x00, frameId]) := by
  rw [ezspLayout, ezspHeader]
  by_cases height : 8 ≤ ver
  · have height' : (ver : Int) ≥ 8 := by omega
    exact Or.inl ⟨if_pos height', if_pos height⟩
  · have height' : ¬(ver : Int) ≥ 8 := by omega
    rw [if_neg height', if_neg height]
    by_cases hfive : 5 ≤ ver
    · have hfive' : (ver : Int) ≥ 5 := by omega
      exact Or.inr (Or.inl ⟨if_pos hfive', if_pos hfive⟩)
    · have hfive' : ¬(ver : Int) ≥ 5 := by omega
      exact Or.inr (Or.inr ⟨if_neg hfive', if_neg hfive⟩)

/-- The frame id stands within the header. -/
theorem layout_lt (ver : ℕ) : (ezspLayout ver).2 < (ezspLayout ver).1 := by
  rcases layout_cases ver 0 with ⟨h, _⟩ | ⟨h, _⟩ | ⟨h, _⟩ <;> simp [h]

theorem header_le (ver : ℕ) : (ezspLayout ver).1 ≤ 5 := by
  rcases layout_cases ver 0 with ⟨h, _⟩ | ⟨h, _⟩ | ⟨h, _⟩ <;> simp [h]

theorem length_ezspBody (ver : ℕ) (seq frameId : Byte) (params : List Byte) :
    (ezspBody ver seq frameId params).length =
      params.length + (ezspLayout ver).1 := by
  rcases layout_cases ver frameId with ⟨h, h'⟩ | ⟨h, h'⟩ | ⟨h, h'⟩ <;>
    simp [ezspBody, h, h']

/-- What `ezsp_xfer` sends is what `ezsp_relay` sends for the frame. -/
theorem ezspTx_eq (ver : ℕ) (seq frameId : Byte) (params : List Byte) :
    ezspTx ver seq frameId params =
      ezspCommand (ezspBody ver seq frameId params) := by
  rw [ezspTx, ezspCommand, length_ezspBody, ezspBody]
  simp

theorem ezspBody_params (ver : ℕ) (seq frameId : Byte) (params : List Byte) :
    (ezspBody ver seq frameId params).drop (ezspLayout ver).1 = params := by
  rcases layout_cases ver frameId with ⟨h, h'⟩ | ⟨h, h'⟩ | ⟨h, h'⟩ <;>
    simp [ezspBody, h, h']

/-- `ezsp_xfer` relays its frame and unwraps the answer. -/
theorem ezspXfer_eq (r : Router) (frameId : Byte) {params : List Byte}
    (hparams : params.length ≤ 135) (payloadMax : ℕ) {outmax : ℕ}
    (hroom : 255 ≤ outmax) :
    (ezspXfer g p r frameId params payloadMax : Host σ _) =
      ezspRelay g p (ezspBody r.ezspVersion r.seq frameId params) outmax >>=
        fun reply => pure ({ r with seq := r.seq + 1 },
          reply.bind (unwrapReply r.ezspVersion payloadMax)) := by
  have hlength := length_ezspBody r.ezspVersion r.seq frameId params
  have hheader := header_le r.ezspVersion
  have hlayout := layout_lt r.ezspVersion
  have hfits : ¬params.length + 5 > 160 := by omega
  have hguard : ¬((ezspBody r.ezspVersion r.seq frameId params).length = 0 ∨
      (ezspBody r.ezspVersion r.seq frameId params).length > 255 ∨
      (ezspBody r.ezspVersion r.seq frameId params).length + 3 >
        ashMaxFrame + 8) := by
    simp only [ashMaxFrame]
    omega
  rw [ezspXfer, if_neg hfits, ezspRelay, if_neg hguard, ezspTx_eq, bind_assoc]
  apply (doCmd_yields g p _ (by decide) true).congr
  rintro ⟨cls, rx⟩ hrx
  dsimp only at hrx ⊢
  by_cases hcls : cls = .ezsp
  · have hbyte : (rx.getD 1 0).toNat < 256 := (rx.getD 1 0).isLt
    have hmin : min (rx.getD 1 0).toNat outmax = (rx.getD 1 0).toNat := by omega
    have hout : ((rx.drop 2).take (rx.getD 1 0).toNat).length =
        (rx.getD 1 0).toNat := by
      rw [List.length_take, List.length_drop]
      omega
    rw [if_neg (not_not.mpr hcls), pure_bind, hmin, Option.bind_some,
      unwrapReply, hout]
    generalize ezspLayout r.ezspVersion = layout at hlayout
    obtain ⟨hdr, idOff⟩ := layout
    dsimp only at hlayout ⊢
    by_cases hshort : (rx.getD 1 0).toNat < hdr
    · rw [if_pos (Or.inr hshort), if_pos hshort]
    · have hid : idOff < (rx.getD 1 0).toNat := by omega
      have hbyteAt : ((rx.drop 2).take (rx.getD 1 0).toNat).getD idOff 0 =
          rx.getD (2 + idOff) 0 := by
        rw [List.getD_eq_getElem?_getD, List.getElem?_take_of_lt hid,
          List.getElem?_drop, ← List.getD_eq_getElem?_getD]
      rw [if_neg (not_or.mpr ⟨not_not.mpr hcls, hshort⟩), if_neg hshort,
        hbyteAt, List.drop_take, List.drop_drop, List.take_take, min_comm]
  · rw [if_pos hcls, if_pos (Or.inl hcls), pure_bind]
    rfl

theorem Exchange.length_frame {x : Exchange} {frame : List Byte}
    (hframe : x.frame? = some frame) : frame.length ≤ 255 := by
  rw [Exchange.frame?] at hframe
  split at hframe
  · rename_i first len rest _
    have hlen : len.toNat < 256 := len.isLt
    split_ifs at hframe
    cases hframe
    rw [List.length_take]
    omega
  · cases hframe

/-- A frame with up to 135 bytes of parameters is one command, and the reply is
what its last answer carries. -/
theorem ezspXfer_holds {C : Contract host} (hhalt : ∀ h, C.halt h)
    (hC : Bus C) {h : List HostEvent} (r : Router) (frameId : Byte)
    {params : List Byte} (hparams : params.length ≤ 135) (payloadMax : ℕ)
    (hcommand : ∀ t,
      MayCommand (ezspTx r.ezspVersion r.seq frameId params) t → ∀ rx,
      C.event (h ++ t) (.call (.spiTransfer
        (ezspTx r.ezspVersion r.seq frameId params) false true) rx)) :
    Holds C h (ezspXfer g p r frameId params payloadMax : Host σ _)
      fun out h' => ∃ t x, h' = h ++ t ∧
        Commanded (ezspTx r.ezspVersion r.seq frameId params) x t ∧
        out = ({ r with seq := r.seq + 1 },
          x.frame?.bind (unwrapReply r.ezspVersion payloadMax)) := by
  have hlength := length_ezspBody r.ezspVersion r.seq frameId params
  have hheader := header_le r.ezspVersion
  have hnonempty : ezspBody r.ezspVersion r.seq frameId params ≠ [] :=
    List.cons_ne_nil _ _
  have hfits : (ezspBody r.ezspVersion r.seq frameId params).length ≤
      ashMaxFrame := by
    simp only [ashMaxFrame]
    omega
  rw [ezspTx_eq] at hcommand ⊢
  rw [ezspXfer_eq g p r frameId hparams payloadMax le_rfl]
  apply (ezspRelay_holds hhalt hC g p hnonempty hfits 255 hcommand).seq
  rintro reply _ ⟨t, x, rfl, hcommanded, rfl⟩
  apply Holds.pure
  refine ⟨t, x, rfl, hcommanded, ?_⟩
  cases hframe : x.frame? with
  | none => rfl
  | some frame =>
      rw [Option.map_some, List.take_of_length_le (Exchange.length_frame hframe)]

/-- `ezsp_cmd` takes the payload of any answer. -/
theorem ezspCmd_holds {C : Contract host} (hhalt : ∀ h, C.halt h)
    (hC : Bus C) {h : List HostEvent} (r : Router) (frameId : Byte)
    {params : List Byte} (hparams : params.length ≤ 135) (payloadMax : ℕ)
    (hcommand : ∀ t,
      MayCommand (ezspTx r.ezspVersion r.seq frameId params) t → ∀ rx,
      C.event (h ++ t) (.call (.spiTransfer
        (ezspTx r.ezspVersion r.seq frameId params) false true) rx)) :
    Holds C h (ezspCmd g p r frameId params payloadMax : Host σ _)
      fun out h' => ∃ t x, h' = h ++ t ∧
        Commanded (ezspTx r.ezspVersion r.seq frameId params) x t ∧
        out = ({ r with seq := r.seq + 1 },
          (x.frame?.bind (unwrapReply r.ezspVersion payloadMax)).map
            Prod.snd) := by
  apply (ezspXfer_holds g p hhalt hC r frameId hparams payloadMax
    hcommand).seq
  rintro _ _ ⟨t, x, rfl, hcommanded, rfl⟩
  exact Holds.pure ⟨t, x, rfl, hcommanded, rfl⟩

/-! ## Replies -/

/-- The first byte behind the header of an answer. -/
def replyStatus (ver : ℕ) (x : Exchange) : Option Byte :=
  x.frame?.bind fun frame => frame[(ezspLayout ver).1]?

theorem status?_unwrapReply (ver : ℕ) {payloadMax : ℕ} (hmax : 0 < payloadMax)
    (x : Exchange) :
    status? ((x.frame?.bind (unwrapReply ver payloadMax)).map Prod.snd) =
      replyStatus ver x := by
  obtain ⟨max, rfl⟩ := Nat.exists_eq_succ_of_ne_zero hmax.ne'
  rw [replyStatus]
  cases x.frame? with
  | none => rfl
  | some frame =>
      rw [Option.bind_some, Option.bind_some, unwrapReply]
      split
      · rename_i hshort
        rw [List.getElem?_eq_none (by omega)]
        rfl
      · change ((frame.drop _).take (max + 1)).head? = _
        rw [List.head?_take, if_neg (Nat.succ_ne_zero max), List.head?_drop]

/-! ## Polls -/

/-- What a poll makes of a reply: the frame id, 0 for none, and the payload. -/
def polled (reply : Option (Byte × List Byte)) : Byte × List Byte :=
  match reply with
  | none => (0, [])
  | some (id, payload) => (if id = ezspNoCallbacks then 0 else id, payload)

theorem ezspPollCallback_eq (r : Router) (max : ℕ) :
    (ezspPollCallback g p r max : Host σ _) =
      ezspXfer g p r ezspCallback [] max >>= fun out =>
        pure (out.1, polled out.2) := by
  rw [ezspPollCallback]
  congr 1
  funext ⟨r, reply⟩
  cases reply <;> rfl

theorem ezspPollCallback_holds {C : Contract host} (hhalt : ∀ h, C.halt h)
    (hC : Bus C) {h : List HostEvent} (r : Router) (max : ℕ)
    (hcommand : ∀ t,
      MayCommand (ezspTx r.ezspVersion r.seq ezspCallback []) t → ∀ rx,
      C.event (h ++ t) (.call (.spiTransfer
        (ezspTx r.ezspVersion r.seq ezspCallback []) false true) rx)) :
    Holds C h (ezspPollCallback g p r max : Host σ _)
      fun out h' => ∃ t x, h' = h ++ t ∧
        Commanded (ezspTx r.ezspVersion r.seq ezspCallback []) x t ∧
        out = ({ r with seq := r.seq + 1 },
          polled (x.frame?.bind (unwrapReply r.ezspVersion max))) := by
  have hparams : ([] : List Byte).length ≤ 135 := Nat.zero_le 135
  rw [ezspPollCallback_eq]
  apply (ezspXfer_holds g p hhalt hC r ezspCallback hparams max
    hcommand).seq
  rintro _ _ ⟨t, x, rfl, hcommanded, rfl⟩
  exact Holds.pure ⟨t, x, rfl, hcommanded, rfl⟩

/-! ## With an NCP that answers -/

section Answered

variable {g p} {V : Type} [Clocking V] {ncp : σ → V} (hncp : Wired p ncp)
  {v after : V} {frame : List Byte} (hframe : frame.length ≤ 255)

include hncp hframe

theorem Wired.ezspXfer_quietly (r : Router) (frameId : Byte)
    {params : List Byte} (hparams : params.length ≤ 135) (payloadMax : ℕ)
    (hanswer : ∀ s, ncp s = v → Answering g ncp s
      (ezspTx r.ezspVersion r.seq frameId params) frame after) :
    Quietly (busView ncp) v (ezspXfer g p r frameId params payloadMax)
      fun out v' => out = ({ r with seq := r.seq + 1 },
          unwrapReply r.ezspVersion payloadMax frame) ∧
        v' = Clocking.clocking after [] := by
  have hlength := length_ezspBody r.ezspVersion r.seq frameId params
  have hheader := header_le r.ezspVersion
  have hfits : (ezspBody r.ezspVersion r.seq frameId params).length ≤
      ashMaxFrame := by
    simp only [ashMaxFrame]
    omega
  rw [ezspTx_eq] at hanswer
  rw [ezspXfer_eq g p r frameId hparams payloadMax le_rfl]
  apply (hncp.ezspRelay_quietly (List.cons_ne_nil _ _) hfits hframe hanswer
    255).seq
  rintro _ _ ⟨rfl, rfl⟩
  apply Quietly.pure
  rw [List.take_of_length_le hframe]
  exact ⟨rfl, rfl⟩

theorem Wired.ezspPollCallback_quietly (r : Router) (max : ℕ)
    (hanswer : ∀ s, ncp s = v → Answering g ncp s
      (ezspTx r.ezspVersion r.seq ezspCallback []) frame after) :
    Quietly (busView ncp) v (ezspPollCallback g p r max)
      fun out v' => out = ({ r with seq := r.seq + 1 },
          polled (unwrapReply r.ezspVersion max frame)) ∧
        v' = Clocking.clocking after [] := by
  have hparams : ([] : List Byte).length ≤ 135 := Nat.zero_le 135
  rw [ezspPollCallback_eq]
  apply (hncp.ezspXfer_quietly hframe r ezspCallback hparams max
    hanswer).seq
  rintro _ _ ⟨rfl, rfl⟩
  exact Quietly.pure ⟨rfl, rfl⟩

end Answered

/-- A responder is polled. -/
theorem responder_polled (hwaits : 0 < g.cfg.waitBytes) (r : Router) (max : ℕ)
    (s : Responder)
    (hframe : (s.respond s.commands
      (ezspTx r.ezspVersion r.seq ezspCallback [])).length ≤ 255) :
    ∃ t, ezspPollCallback g p r max s =
      ⟨.done ({ r with seq := r.seq + 1 },
          polled (unwrapReply r.ezspVersion max (s.respond s.commands
            (ezspTx r.ezspVersion r.seq ezspCallback [])))),
        t, { s with commands := s.commands + 1, pending := [] }⟩ := by
  have hanswer : ∀ s' : Responder, id s' = s → Answering g id s'
      (ezspTx r.ezspVersion r.seq ezspCallback []) (s.respond s.commands
        (ezspTx r.ezspVersion r.seq ezspCallback []))
      { s with commands := s.commands + 1 } := by
    rintro _ rfl
    exact responder_answers hwaits _ _
  have hpolled := (responder_wired p).ezspPollCallback_quietly hframe r max
    hanswer s rfl
  generalize ezspPollCallback g p r max s = run at hpolled ⊢
  obtain ⟨outcome, t, s'⟩ := run
  obtain ⟨_, rfl, _, rfl, hworld⟩ := hpolled
  obtain rfl : s' = _ := hworld
  exact ⟨t, rfl⟩

/-! ## The same codec -/

end EzspSpi
