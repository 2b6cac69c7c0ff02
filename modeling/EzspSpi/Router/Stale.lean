import EzspSpi.Router.Drain
import Mathlib.Data.List.GetD

/-!
# What earlier callbacks have left

`ezsp_poll_callback` does not tell how long a callback is, and the buffer keeps
the bytes of those before.  The handlers that look behind the end of what
arrived are found out by the two kinds of callbacks that have consequences: a
delivery that failed, and a message taken for Read Attributes.
-/

namespace EzspSpi

open Program

/-! ## The bytes of a message -/

theorem getD_zclContents (m : List Byte) (i : ℕ) :
    (zclContents m).getD i 0 =
      if i < (m.getD 18 0).toNat then m.getD (19 + i) 0 else 0 := by
  rw [zclContents, List.getD_eq_getElem?_getD, List.getElem?_take]
  split
  · rw [List.getElem?_drop, List.getD_eq_getElem?_getD]
  · rfl

theorem seqPlace_eq (m : List Byte) :
    seqPlace m =
      if 0 < (m.getD 18 0).toNat ∧ m.getD 19 0 &&& 0x04 ≠ 0 then 3 else 1 := by
  rw [seqPlace, zclFrameControl, getD_zclContents]
  by_cases hpos : 0 < (m.getD 18 0).toNat
  · rw [if_pos hpos, Nat.add_zero]
    exact if_congr (and_iff_right hpos).symm rfl rfl
  · have hzero : ¬((0 : Byte) &&& 0x04 ≠ 0) := by decide
    rw [if_neg hpos, if_neg hzero, if_neg fun h => hpos h.1]

/-- The attribute ids, by their places. -/
theorem attributeIds_eq (bytes : List Byte) :
    attributeIds bytes =
      (List.range (bytes.length / 2)).map fun q => le16 bytes (2 * q) := by
  induction bytes using attributeIds.induct with
  | case1 low high rest ih =>
      have hhalf : (low :: high :: rest).length / 2 = rest.length / 2 + 1 := by
        simp only [List.length_cons]
        omega
      rw [attributeIds, ih, hhalf, List.range_succ_eq_map, List.map_cons,
        List.map_map]
      rfl
  | case2 bytes hshort =>
      obtain rfl | ⟨low, rfl⟩ : bytes = [] ∨ ∃ low, bytes = [low] := by
        match bytes, hshort with
        | [], _ => exact Or.inl rfl
        | [low], _ => exact Or.inr ⟨low, rfl⟩
        | low :: high :: rest, hshort => exact absurd rfl (hshort low high rest)
      · rfl
      · simp [attributeIds]

/-- They are those of the bytes in pairs. -/
theorem attributeIds_congr {bytes bytes' : List Byte}
    (hlength : bytes.length = bytes'.length)
    (hsame : ∀ i < 2 * (bytes.length / 2), bytes.getD i 0 = bytes'.getD i 0) :
    attributeIds bytes = attributeIds bytes' := by
  rw [attributeIds_eq, attributeIds_eq, ← hlength]
  apply List.map_congr_left
  intro q hq
  have hlt := List.mem_range.mp hq
  rw [le16, le16, hsame _ (by omega), hsame _ (by omega)]

/-- How many bytes of a message are looked at: all up to its last attribute
id. -/
def bytesRead (m : List Byte) : ℕ :=
  19 + (seqPlace m + 2) + 2 * (((m.getD 18 0).toNat - (seqPlace m + 2)) / 2)

section Same

variable {m m' : List Byte} (hlength : m.length = m'.length)

theorem seqPlace_congr {n : ℕ} (hn : 20 ≤ n)
    (hsame : ∀ i < n, m.getD i 0 = m'.getD i 0) :
    seqPlace m = seqPlace m' := by
  rw [seqPlace_eq, seqPlace_eq, hsame 18 (by omega), hsame 19 (by omega)]

theorem le16_congr {n at' : ℕ} (hn : at' + 2 ≤ n)
    (hsame : ∀ i < n, m.getD i 0 = m'.getD i 0) : le16 m at' = le16 m' at' := by
  rw [le16, le16, hsame _ (by omega), hsame _ (by omega)]

/-- What stands in front of the attribute ids decides. -/
theorem requestSeq_congr
    (hsame : ∀ i < 19 + (seqPlace m + 2), m.getD i 0 = m'.getD i 0) :
    requestSeq m = requestSeq m' := by
  have hplace := seqPlace_congr (by omega) hsame
  rw [requestSeq, requestSeq, ← hplace, getD_zclContents, getD_zclContents,
    hsame 18 (by omega), hsame _ (by omega)]

include hlength

theorem TakenForRead.congr (hm : TakenForRead m)
    (hsame : ∀ i < 19 + (seqPlace m + 2), m.getD i 0 = m'.getD i 0) :
    TakenForRead m' := by
  have hplace := seqPlace_congr (by omega) hsame
  have hzlen := hsame 18 (by omega)
  have hfits : 19 + (m'.getD 18 0).toNat ≤ m'.length := by
    rw [← hzlen, ← hlength]
    exact hm.fits
  have hget (i : ℕ) (hi : i < seqPlace m + 2) :
      (zclContents m').getD i 0 = (zclContents m).getD i 0 := by
    rw [getD_zclContents, getD_zclContents, hzlen, hsame _ (by omega)]
  exact {
    header := hlength ▸ hm.header
    fits := hfits
    complete := by
      rw [length_zclContents hfits, ← hzlen, ← hplace,
        ← length_zclContents hm.fits]
      exact hm.complete
    cluster := by
      rw [← le16_congr (by omega) hsame]
      exact hm.cluster
    profileWide := by
      rw [zclFrameControl, hget 0 (by omega)]
      exact hm.profileWide
    command := by
      rw [← hplace, hget _ (by omega)]
      exact hm.command }

theorem requestIds_congr (hfits : 19 + (m.getD 18 0).toNat ≤ m.length)
    (hsame : ∀ i < bytesRead m, m.getD i 0 = m'.getD i 0) :
    requestIds m = requestIds m' := by
  have hplace := seqPlace_congr (by rw [bytesRead]; omega) hsame
  have hzlen := hsame 18 (by rw [bytesRead]; omega)
  have hfits' : 19 + (m'.getD 18 0).toNat ≤ m'.length := by
    rw [← hzlen, ← hlength]
    exact hfits
  rw [requestIds, requestIds]
  apply attributeIds_congr
  · rw [List.length_drop, List.length_drop, length_zclContents hfits,
      length_zclContents hfits', hzlen, hplace]
  · intro i hi
    rw [List.length_drop, length_zclContents hfits] at hi
    have hbyte := hsame (19 + (seqPlace m + 2 + i)) (by rw [bytesRead]; omega)
    rw [List.getD_eq_getElem?_getD, List.getD_eq_getElem?_getD,
      List.getElem?_drop, List.getElem?_drop, ← List.getD_eq_getElem?_getD,
      ← List.getD_eq_getElem?_getD, getD_zclContents, getD_zclContents,
      ← hzlen, ← hplace, hbyte]

end Same

/-! ## What the handling comes to -/

section Handling

variable {σ : Type} [Kernel σ] (g : Globals) (p : Pins)

/-- The frames that are sent and the counters, if the process lives. -/
def handling (run : Run host σ Router) :
    List (List Byte) × Option (BitVec 32 × BitVec 32) :=
  ((exchanges run.trace).map Exchange.command,
    match run.outcome with
    | .done r => some (r.reportCount, r.reportFailed)
    | .halt _ => none)

/-- Nothing but what is looked at makes a difference. -/
theorem zclHandleIncoming_congr (r : Router) {m m' : List Byte}
    (hlength : m.length = m'.length)
    (hsame : ∀ i < bytesRead m, m.getD i 0 = m'.getD i 0) :
    (zclHandleIncoming g p r m : Host σ Router) =
      zclHandleIncoming g p r m' := by
  have hhead : ∀ i < 19 + (seqPlace m + 2), m.getD i 0 = m'.getD i 0 :=
    fun i hi => hsame i (by rw [bytesRead]; omega)
  have hplace := seqPlace_congr (by omega) hhead
  have hsender : le16 m 14 = le16 m' 14 :=
    le16_congr (by omega : 14 + 2 ≤ 19 + (seqPlace m + 2)) hhead
  by_cases hm : TakenForRead m
  · rw [zclHandleIncoming_of_taken g p r hm,
      zclHandleIncoming_of_taken g p r (hm.congr hlength hhead), answerRead,
      answerRead, requestSeq_congr hhead, requestIds_congr hlength hm.fits hsame]
    simp only [respondTo, hsender]
  · have hm' : ¬TakenForRead m' := by
      intro hm'
      refine hm (hm'.congr hlength.symm ?_)
      rw [← hplace]
      exact fun i hi => (hhead i hi).symm
    rw [zclHandleIncoming_of_not_taken g p r hm,
      zclHandleIncoming_of_not_taken g p r hm']

/-- The response to a message on a host of this name. -/
def replyTo (r : Router) (hostname : Option (List Byte)) (m : List Byte) :
    List Byte :=
  responseBytes (requestSeq m)
    (requestedRecords (locationFor r hostname) (requestIds m))

/-- A message that is answered on a host of this name. -/
def AnsweredOn (r : Router) (hostname : Option (List Byte)) (m : List Byte) :
    Prop :=
  TakenForRead m ∧ (replyTo r hostname m).length ≤ 64

theorem handling_of_unanswered (r : Router) {hostname : Option (List Byte)}
    {m : List Byte} {s : σ}
    (hname : HostnameIs hostname (zclHandleIncoming g p r m s).trace)
    (hm : ¬AnsweredOn r hostname m) :
    handling (zclHandleIncoming g p r m s) =
      ([], some (r.reportCount, r.reportFailed)) := by
  by_cases htaken : TakenForRead m
  · rw [zclHandleIncoming_of_taken g p r htaken] at hname ⊢
    obtain ⟨r', records, t, s', hanswer, hr', ht, hrecords⟩ :=
      answerRead_responds g p r m s
    rw [hanswer] at hname ⊢
    have hlong : 64 < (responseBytes (requestSeq m) records).length := by
      rw [hrecords hostname fun e he => hname e (List.mem_append_left _ he)]
      exact not_le.mp fun h => hm ⟨htaken, h⟩
    have hquiet : ∀ e ∈ t, IsQuiet e := fun e he => (ht e he).isQuiet
    rw [respondTo_of_long g p r' m hlong]
    dsimp only [pure_apply]
    rw [handling, List.append_nil, (exchanges_of_quiet hquiet).1, hr']
    rfl
  · rw [zclHandleIncoming_of_not_taken g p r htaken]
    rfl

theorem handling_of_answered (r : Router) {hostname : Option (List Byte)}
    {m : List Byte} {s : σ}
    (hname : HostnameIs hostname (zclHandleIncoming g p r m s).trace)
    {r' : Router} (hdone : (zclHandleIncoming g p r m s).outcome = .done r')
    (hm : AnsweredOn r hostname m) :
    (handling (zclHandleIncoming g p r m s)).1.getLast? =
      some (unicastTx r m (replyTo r hostname m)) := by
  rw [zclHandleIncoming_of_taken g p r hm.1] at hname hdone ⊢
  obtain ⟨records, t, t', htrace, ht, hrecords, _, hshort⟩ :=
    answerRead_run g p r m s
  rw [htrace] at hname
  have hquiet : ∀ e ∈ t, IsQuiet e := fun e he => (ht e he).isQuiet
  rw [hrecords hostname fun e he => hname e (List.mem_append_left _ he)]
    at hshort
  obtain ⟨x, hx⟩ := hshort hm.2 r' hdone
  rw [handling, htrace, List.getLast?_map,
    (hx.exchanges_append t).1, Option.map_some, hx.2.1]
  rfl

end Handling

/-! ## A quiet host -/

/-- A host of this name to which nothing else ever happens. -/
structure Named where
  name : Option (List Byte)

instance : Kernel Named where
  answer
    | .hostname, s => (s.name, s)
    | c, s => (quietAnswer c, s)

/-- On it a program ends and finds the name. -/
def FindsName {α : Type} (m : Host Named α) : Prop :=
  ∀ s, (∃ a, (m s).outcome = .done a) ∧ HostnameIs s.name (m s).trace ∧
    (m s).world = s

theorem FindsName.modular :
    Modular fun (α : Type) (m : Host Named α) => FindsName m where
  pure a _ := ⟨⟨a, rfl⟩, fun _ he => absurd he List.not_mem_nil, rfl⟩
  bind {α β m f} hm hf s := by
    obtain ⟨⟨a, ha⟩, hname, hworld⟩ := hm s
    obtain ⟨hdone, hname', hworld'⟩ := hf a s
    rw [bind_apply, Run.andThen_of_done ha, hworld]
    refine ⟨hdone, ?_, hworld'⟩
    intro e he
    rcases List.mem_append.mp he with he | he
    · exact hname e he
    · exact hname' e he

/-- One request for something else. -/
theorem FindsName.one {α : Type} {m : Host Named α}
    (hm : ∀ s, ∃ a e, m s = ⟨.done a, [e], s⟩ ∧ hostnameFound e = none) :
    FindsName m := by
  intro s
  obtain ⟨a, e, hrun, he⟩ := hm s
  rw [hrun]
  refine ⟨⟨a, rfl⟩, ?_, rfl⟩
  intro e' he'
  rw [List.mem_singleton.mp he']
  exact Or.inl he

theorem txnParts_findName : TxnParts (fun (α : Type) (m : Host Named α) =>
    FindsName m) fun _ => True where
  toModular := FindsName.modular
  gpioSet _ _ := FindsName.one fun _ => ⟨_, _, rfl, rfl⟩
  gpioGet _ := FindsName.one fun _ => ⟨_, _, rfl, rfl⟩
  gpioWaitFalling _ _ := FindsName.one fun _ => ⟨_, _, rfl, rfl⟩
  gpioDrainEvents _ := FindsName.one fun _ => ⟨_, _, rfl, rfl⟩
  receiveRaw _ _ := FindsName.one fun _ => ⟨_, _, rfl, rfl⟩
  commandRaw _ _ _ := FindsName.one fun _ => ⟨_, _, rfl, rfl⟩

theorem findsName_hostname :
    FindsName (call (I := host) .hostname : Host Named _) := by
  intro s
  refine ⟨⟨s.name, rfl⟩, ?_, rfl⟩
  intro e he
  rw [List.mem_singleton.mp he]
  exact Or.inr rfl

theorem runCallback_findsName (g : Globals) (p : Pins) (r : Router) (id : Byte)
    (out : List Byte) : FindsName (runCallback g p r id out) :=
  txnParts_findName.runCallback findsName_hostname (fun _ _ _ => trivial)
    g p r id out

/-! ## Bytes behind the end -/

theorem getD_set_self {m : List Byte} {i : ℕ} (hi : i < m.length) (b : Byte) :
    (m.set i b).getD i 0 = b := by
  simp [hi]

theorem getD_set_ne (m : List Byte) {i j : ℕ} (hj : j ≠ i) (b : Byte) :
    (m.set i b).getD j 0 = m.getD j 0 := by
  simp [hj.symm]

/-- A byte in front of the attribute ids can be such that the message is not
taken for a request. -/
theorem exists_not_taken {m : List Byte} (hm : TakenForRead m) {n : ℕ}
    (hn : n < 19 + (seqPlace m + 2)) :
    ∃ i b, n ≤ i ∧ i < m.length ∧ ¬TakenForRead (m.set i b) := by
  have hcomplete := hm.complete
  have hfits := hm.fits
  rw [length_zclContents hm.fits] at hcomplete
  by_cases hlength : n ≤ 18
  · have hi : 18 < m.length := by omega
    refine ⟨18, 0, hlength, hi, fun htaken => ?_⟩
    have hnone := htaken.complete
    rw [length_zclContents htaken.fits, getD_set_self hi] at hnone
    exact absurd hnone (Nat.not_lt_zero _)
  by_cases hcontrol : n ≤ 19
  · have hi : 19 < m.length := by omega
    refine ⟨19, 1, hcontrol, hi, fun htaken => ?_⟩
    have hwide := htaken.profileWide
    rw [zclFrameControl, getD_zclContents, getD_set_ne m (by decide),
      if_pos (by omega), getD_set_self hi] at hwide
    exact absurd hwide (by decide)
  · have hi : 19 + (seqPlace m + 1) < m.length := by omega
    refine ⟨19 + (seqPlace m + 1), 1, by omega, hi, fun htaken => ?_⟩
    have hplace : seqPlace m = seqPlace (m.set (19 + (seqPlace m + 1)) 1) :=
      seqPlace_congr le_rfl fun j hj => (getD_set_ne m (by omega) 1).symm
    have hcommand := htaken.command
    rw [← hplace, getD_zclContents, getD_set_ne m (by omega), if_pos hcomplete,
      getD_set_self hi] at hcommand
    exact absurd hcommand (by decide)

/-! ## Attributes behind the end -/

theorem basicValue_unsupported {id : BitVec 16}
    (hid : (id >>> 8).setWidth 8 ∉ ([0x00, 0x40] : List Byte))
    (location : List Byte) : basicValue location id = .unsupported := by
  have hne (c : BitVec 16)
      (hc : (c >>> 8).setWidth 8 ∈ ([0x00, 0x40] : List Byte)) : id ≠ c := by
    rintro rfl
    exact hid hc
  rw [basicValue, if_neg (hne _ (by decide)), if_neg (hne _ (by decide)),
    if_neg (hne _ (by decide)), if_neg (hne _ (by decide)),
    if_neg (hne _ (by decide)), if_neg (hne _ (by decide)),
    if_neg (hne _ (by decide)), if_neg (hne _ (by decide)),
    if_neg (hne _ (by decide))]

theorem high_le16 (low high : Byte) :
    (le16 [low, high] 0 >>> 8).setWidth 8 = high := by
  rw [le16]
  apply BitVec.eq_of_getLsbD_eq
  intro i hi
  simp [BitVec.getLsbD_setWidth]
  grind

theorem length_attributeIds (bytes : List Byte) :
    (attributeIds bytes).length = bytes.length / 2 := by
  rw [attributeIds_eq, List.length_map, List.length_range]

/-- Another high byte makes another id, in this place alone. -/
theorem attributeIds_set (bytes : List Byte) {q : ℕ}
    (hq : 2 * q + 1 < bytes.length) (b : Byte) :
    attributeIds (bytes.set (2 * q + 1) b) =
      (attributeIds bytes).set q (le16 [bytes.getD (2 * q) 0, b] 0) := by
  induction bytes using attributeIds.induct generalizing q with
  | case1 low high rest ih =>
      cases q with
      | zero => rfl
      | succ q =>
          simp only [List.length_cons] at hq
          change le16 [low, high] 0 :: attributeIds (rest.set (2 * q + 1) b) = _
          rw [ih (by omega)]
          rfl
  | case2 bytes hshort =>
      match bytes, hshort with
      | [], _ => exact absurd hq (Nat.not_lt_zero _)
      | [low], _ =>
          rw [List.length_singleton] at hq
          omega
      | low :: high :: rest, hshort => exact absurd rfl (hshort low high rest)

/-- Where the high byte of an attribute id stands in a message. -/
def highPlace (m : List Byte) (q : ℕ) : ℕ :=
  19 + (seqPlace m + 2 + (2 * q + 1))

/-- A message with another byte there is taken for a request for another
attribute. -/
theorem requestIds_set {m : List Byte} (hm : TakenForRead m) {q : ℕ}
    (hq : highPlace m q < bytesRead m) :
    ∃ low, q < (requestIds m).length ∧
      ∀ b, requestSeq (m.set (highPlace m q) b) = requestSeq m ∧
        requestIds (m.set (highPlace m q) b) =
          (requestIds m).set q (le16 [low, b] 0) := by
  have hzlength := length_zclContents hm.fits
  rw [highPlace, bytesRead] at hq
  refine ⟨((zclContents m).drop (seqPlace m + 2)).getD (2 * q) 0, ?_, ?_⟩
  · rw [requestIds, length_attributeIds, List.length_drop]
    omega
  · intro b
    have hhead : ∀ i < 19 + (seqPlace m + 2),
        m.getD i 0 = (m.set (highPlace m q) b).getD i 0 :=
      fun i hi => (getD_set_ne m (by rw [highPlace]; omega) b).symm
    have hplace := seqPlace_congr (by omega) hhead
    have hcontents : zclContents (m.set (highPlace m q) b) =
        (zclContents m).set (seqPlace m + 2 + (2 * q + 1)) b := by
      rw [zclContents, ← hhead 18 (by omega), highPlace, List.drop_set,
        if_neg (by omega), Nat.add_sub_cancel_left, List.take_set]
      rfl
    refine ⟨(requestSeq_congr hhead).symm, ?_⟩
    rw [requestIds, hcontents, ← hplace, List.drop_set, if_neg (by omega),
      Nat.add_sub_cancel_left, attributeIds_set]
    · rfl
    · rw [List.length_drop]
      omega

/-- Two attributes that are not supported give two responses. -/
theorem responseBytes_set_ne (location : List Byte) (seq low : Byte)
    {ids : List (BitVec 16)} {q : ℕ} (hq : q < ids.length)
    (hfits : (responseBytes seq (requestedRecords location ids)).length ≤ 64) :
    responseBytes seq
        (requestedRecords location (ids.set q (le16 [low, 0xF0] 0))) ≠
      responseBytes seq
        (requestedRecords location (ids.set q (le16 [low, 0xF1] 0))) := by
  let front := responseBytes seq (requestedRecords location (ids.take q))
  have hrest (bytes : List Byte) (records : List (BitVec 16 × AttrValue)) :
      bytes <+: appendFitting (fun record => recordBytes record.1 record.2) 96
        bytes records := by
    obtain ⟨kept, _, heq⟩ := appendFitting_eq
      (fun record => recordBytes record.1 record.2) 96 bytes records
    exact ⟨_, heq.symm⟩
  have hsplit (ids' : List (BitVec 16)) :
      responseBytes seq (requestedRecords location (ids.take q ++ ids')) =
        appendFitting (fun record => recordBytes record.1 record.2) 96 front
          (requestedRecords location ids') := by
    rw [responseBytes, requestedRecords, List.map_append, appendFitting,
      List.foldl_append]
    rfl
  have hfront : front.length ≤ 64 := by
    rw [← List.take_append_drop q ids, hsplit] at hfits
    exact (hrest _ _).length_le.trans hfits
  have hset (b : Byte) (hb : b ∉ ([0x00, 0x40] : List Byte)) :
      front ++ [(le16 [low, b] 0).setWidth 8, b, 0x86] <+:
        responseBytes seq
          (requestedRecords location (ids.set q (le16 [low, b] 0))) := by
    have hid : ((le16 [low, b] 0) >>> 8).setWidth 8 ∉
        ([0x00, 0x40] : List Byte) := by
      rw [high_le16]
      exact hb
    rw [List.set_eq_take_append_cons_drop, if_pos hq, hsplit, requestedRecords,
      List.map_cons, appendFitting_cons, basicValue_unsupported hid]
    dsimp only
    rw [length_recordBytes, if_neg (by simp only [AttrValue.size]; omega)]
    have hrecord : recordBytes (le16 [low, b] 0) .unsupported =
        [(le16 [low, b] 0).setWidth 8, b, 0x86] := by
      rw [recordBytes, unsupportedRecord, high_le16]
    rw [hrecord]
    exact hrest _ _
  intro heq
  have h0 := hset 0xF0 (by decide)
  have h1 := hset 0xF1 (by decide)
  rw [heq] at h0
  have hsame := (List.prefix_of_prefix_length_le h0 h1 (by simp)).eq_of_length
    (by simp)
  simp at hsame

/-- Behind the end of what arrived, the message can go on such that it is
answered differently. -/
theorem exists_differing {r : Router} {hostname : Option (List Byte)}
    {m : List Byte} (hm : AnsweredOn r hostname m) {n : ℕ}
    (hn : n < bytesRead m) :
    ∃ i b, n ≤ i ∧ (AnsweredOn r hostname (m.set i b) →
      replyTo r hostname (m.set i b) ≠ replyTo r hostname m) := by
  by_cases hearly : n < 19 + (seqPlace m + 2)
  · obtain ⟨i, b, hi, _, hnone⟩ := exists_not_taken hm.1 hearly
    exact ⟨i, b, hi, fun h => absurd h.1 hnone⟩
  · let q := (n - (19 + (seqPlace m + 2))) / 2
    have hq : highPlace m q < bytesRead m := by
      rw [highPlace, bytesRead] at *
      omega
    have hi : n ≤ highPlace m q := by
      rw [highPlace]
      omega
    obtain ⟨low, hlt, hset⟩ := requestIds_set hm.1 hq
    have hreply (b : Byte) : replyTo r hostname (m.set (highPlace m q) b) =
        responseBytes (requestSeq m) (requestedRecords (locationFor r hostname)
          ((requestIds m).set q (le16 [low, b] 0))) := by
      rw [replyTo, (hset b).1, (hset b).2]
    have hne := responseBytes_set_ne (locationFor r hostname) (requestSeq m)
      low hlt hm.2
    rw [← hreply, ← hreply] at hne
    by_cases hsame : replyTo r hostname (m.set (highPlace m q) 0xF0) =
        replyTo r hostname m
    · exact ⟨_, 0xF1, hi, fun _ h => hne (hsame.trans h.symm)⟩
    · exact ⟨_, 0xF0, hi, fun _ => hsame⟩

theorem unicastTx_injective {r : Router} {m m' payload payload' : List Byte}
    (h : unicastTx r m payload = unicastTx r m' payload') :
    payload = payload' := by
  rw [unicastTx, unicastTx, ezspTx_eq, ezspTx_eq] at h
  have hbody := congrArg (fun tx => (tx.drop 2).dropLast) h
  simp only [ezspCommand, List.cons_append, List.nil_append,
    List.drop_succ_cons, List.drop_zero, List.dropLast_concat] at hbody
  have hparams := congrArg (List.drop (ezspLayout r.ezspVersion).1) hbody
  rw [ezspBody_params, ezspBody_params] at hparams
  exact congrArg (List.drop 16) hparams

/-! ## Callbacks that are handled from their own bytes -/

section OwnBytes

variable (g : Globals) (p : Pins) (r : Router) (hostname : Option (List Byte))

/-- Whatever is left in the buffer, the callback is handled in the same way on
a host that has this name meanwhile. -/
def HandledAlike (callback : Byte × List Byte) : Prop :=
  ∀ (σ : Type) [Kernel σ] (s : σ) (out out' : List Byte), out.length = 64 →
    out'.length = 64 →
    let run := runCallback g p r callback.1 (overwrite out 0 callback.2) s
    let run' := runCallback g p r callback.1 (overwrite out' 0 callback.2) s
    HostnameIs hostname run.trace → HostnameIs hostname run'.trace →
      handling run = handling run'

/-- A callback that brings all that is looked at, or a message that is not
answered however it goes on. -/
structure BringsItsOwn (callback : Byte × List Byte) : Prop where
  status : callback.1 = ezspMessageSentHandler → 16 ≤ callback.2.length
  message : callback.1 = ezspIncomingMessageHandler →
    bytesRead callback.2 ≤ callback.2.length ∨
      ∀ m : List Byte, m.length = 64 → callback.2 <+: m →
        ¬AnsweredOn r hostname m

/-- Of a buffer that begins with the payload as much is read as of the
payload. -/
theorem bytesRead_le_iff {payload m : List Byte} (hm : payload <+: m) :
    bytesRead payload ≤ payload.length ↔ bytesRead m ≤ payload.length := by
  by_cases hlong : 20 ≤ payload.length
  · have hsame : ∀ i < 20, payload.getD i 0 = m.getD i 0 := by
      obtain ⟨rest, rfl⟩ := hm
      intro i hi
      rw [List.getD_append _ _ _ _ (by omega)]
    rw [bytesRead, bytesRead, seqPlace_congr le_rfl hsame,
      hsame 18 (by decide)]
  · rw [bytesRead, bytesRead]
    exact iff_of_false (by omega) (by omega)

variable {g p r hostname}

theorem BringsItsOwn.handledAlike {callback : Byte × List Byte}
    (hfits : callback.2.length ≤ 64)
    (hown : BringsItsOwn r hostname callback) :
    HandledAlike g p r hostname callback := by
  obtain ⟨id, payload⟩ := callback
  intro σ _ s out out' hout hout' run run' hname hname'
  have hlength : (overwrite out 0 payload).length = 64 :=
    (length_overwrite (by dsimp only at hfits; omega)).trans hout
  have hlength' : (overwrite out' 0 payload).length = 64 :=
    (length_overwrite (by dsimp only at hfits; omega)).trans hout'
  have hsame : ∀ i < payload.length, (overwrite out 0 payload).getD i 0 =
      (overwrite out' 0 payload).getD i 0 := by
    intro i hi
    rw [overwrite_zero, overwrite_zero, List.getD_append _ _ _ _ hi,
      List.getD_append _ _ _ _ hi]
  by_cases hid : id = ezspIncomingMessageHandler
  · have hrun (m : List Byte) : (runCallback g p r id m : Host σ Router) =
        zclHandleIncoming g p r m := if_pos hid
    dsimp only [run, run'] at hname hname' ⊢
    rw [hrun] at hname hname'
    rw [hrun, hrun]
    rcases hown.message hid with harrived | hnone
    · have hread : bytesRead (overwrite out 0 payload) ≤ payload.length := by
        rw [overwrite_zero]
        exact (bytesRead_le_iff (List.prefix_append _ _)).mp harrived
      rw [zclHandleIncoming_congr g p r (hlength.trans hlength'.symm)
        fun i hi => hsame i (hi.trans_le hread)]
    · rw [handling_of_unanswered g p r hname, handling_of_unanswered g p r hname']
      · exact hnone _ hlength' (overwrite_zero out' payload ▸
          List.prefix_append _ _)
      · exact hnone _ hlength (overwrite_zero out payload ▸
          List.prefix_append _ _)
  · have hcounts : CountsFailure id (overwrite out 0 payload) ↔
        CountsFailure id (overwrite out' 0 payload) :=
      and_congr_right fun hsent => by
        rw [hsame 15 (hown.status hsent)]
    have hrun (m : List Byte) : (runCallback g p r id m : Host σ Router) =
        if CountsFailure id m then
          pure { r with reportFailed := r.reportFailed + 1 }
        else pure r := if_neg hid
    dsimp only [run, run']
    rw [hrun, hrun]
    simp only [hcounts]

/-- The status of a delivery stands in the sixteenth byte. -/
theorem HandledAlike.status {callback : Byte × List Byte}
    (halike : HandledAlike g p r hostname callback)
    (hid : callback.1 = ezspMessageSentHandler) :
    16 ≤ callback.2.length := by
  obtain ⟨id, payload⟩ := callback
  obtain rfl : id = ezspMessageSentHandler := hid
  by_contra hshort
  dsimp only at hshort
  have hrun (b : Byte) :
      (runCallback g p r ezspMessageSentHandler
        (overwrite (List.replicate 64 b) 0 payload) : Host Named Router) =
        if b = emberSuccess then pure r
        else pure { r with reportFailed := r.reportFailed + 1 } := by
    have hstatus : (overwrite (List.replicate 64 b) 0 payload).getD 15 0 = b := by
      rw [overwrite_zero, List.getD_append_right _ _ _ _ (by omega),
        List.drop_replicate, List.getD_replicate _ (by omega)]
    rw [runCallback, if_neg (by decide), hstatus]
    by_cases hb : b = emberSuccess <;> simp [hb]
  have hnothing : HostnameIs hostname [] := fun _ he =>
    absurd he List.not_mem_nil
  have heq := halike Named ⟨hostname⟩ (List.replicate 64 0x00)
    (List.replicate 64 0x66) List.length_replicate List.length_replicate
  dsimp only at heq
  rw [hrun, hrun, if_pos (by decide), if_neg (by decide)] at heq
  have hcounters := congrArg Prod.snd (heq hnothing hnothing)
  simp [handling] at hcounters

theorem HandledAlike.message {callback : Byte × List Byte}
    (halike : HandledAlike g p r hostname callback)
    (hid : callback.1 = ezspIncomingMessageHandler) {m : List Byte}
    (hlength : m.length = 64) (hm : callback.2 <+: m)
    (hanswered : AnsweredOn r hostname m) :
    bytesRead callback.2 ≤ callback.2.length := by
  obtain ⟨id, payload⟩ := callback
  obtain rfl : id = ezspIncomingMessageHandler := hid
  rw [bytesRead_le_iff hm]
  by_contra hstale
  obtain ⟨i, b, hi, hdiffers⟩ := exists_differing hanswered (not_le.mp hstale)
  have hover {m' : List Byte} (hm' : payload <+: m') :
      overwrite m' 0 payload = m' := by
    obtain ⟨rest, rfl⟩ := hm'
    rw [overwrite_zero, List.drop_left]
  have hm' : payload <+: m.set i b := by
    rw [List.prefix_iff_eq_take, List.take_set_of_le hi]
    exact List.prefix_iff_eq_take.mp hm
  have heq := halike Named ⟨hostname⟩ m (m.set i b) hlength
    (List.length_set.trans hlength)
  rw [hover hm, hover hm'] at heq
  have hrun (m' : List Byte) :
      (runCallback g p r ezspIncomingMessageHandler m' : Host Named Router) =
        zclHandleIncoming g p r m' := if_pos rfl
  obtain ⟨⟨r₁, hdone⟩, hname, _⟩ := runCallback_findsName g p r
    ezspIncomingMessageHandler m ⟨hostname⟩
  obtain ⟨⟨r₂, hdone'⟩, hname', _⟩ := runCallback_findsName g p r
    ezspIncomingMessageHandler (m.set i b) ⟨hostname⟩
  replace heq := heq hname hname'
  rw [hrun] at hdone hname hdone' hname'
  rw [hrun, hrun] at heq
  have hlast := handling_of_answered g p r hname hdone hanswered
  rw [heq] at hlast
  by_cases hanswered' : AnsweredOn r hostname (m.set i b)
  · rw [handling_of_answered g p r hname' hdone' hanswered'] at hlast
    exact hdiffers hanswered' (unicastTx_injective (Option.some.inj hlast))
  · rw [handling_of_unanswered g p r hname' hanswered'] at hlast
    cases hlast

theorem length_polled (ver max : ℕ) (frame : List Byte) :
    (polled (unwrapReply ver max frame)).2.length ≤ max := by
  rw [unwrapReply]
  split
  · exact Nat.zero_le max
  · exact List.length_take_le _ _

variable (g p r hostname)

/-- A callback is handled from its own bytes exactly if it brings them: for
every frame, version, state of the router and host, the frames that are sent
and the counters are the same whatever earlier callbacks have left in the
buffer, if and only if the confirmation of a delivery has its status and a
message has all that is looked at of it, or is one that is not answered
whatever follows. -/
theorem handledAlike_iff (frame : List Byte) :
    HandledAlike g p r hostname
        (polled (unwrapReply r.ezspVersion 64 frame)) ↔
      BringsItsOwn r hostname (polled (unwrapReply r.ezspVersion 64 frame)) := by
  constructor
  · intro halike
    refine ⟨halike.status, fun hid => ?_⟩
    by_contra hother
    obtain ⟨hstale, hanswerable⟩ := not_or.mp hother
    exact hanswerable fun m hlength hm hanswered =>
      hstale (halike.message hid hlength hm hanswered)
  · exact fun hown => hown.handledAlike (length_polled _ 64 frame)

end OwnBytes

/-! ## A short confirmation -/

/-- An NCP with a message of the cluster On/Off from a sender with this high
byte, a confirmation cut short, and nothing more. -/
def confirmingNcp (high : Byte) : Responder where
  respond n _ :=
    [0x00, 0x80] ++ if n = 0 then
        [ezspIncomingMessageHandler, 0x00, 0x04, 0x01, 0x06, 0x00, 0x01, 0x01,
          0x40, 0x01, 0x00, 0x00, 0x00, 0xFF, 0xC8, 0x00, high, 0xFF, 0xFF,
          0x03, 0x11, 0x2A, 0x02]
      else if n = 1 then [ezspMessageSentHandler, 0x00]
      else [ezspNoCallbacks]
  commands := 0
  pending := []

/-- The failures that the drain has counted then. -/
def failuresAfter (high : Byte) : Option (BitVec 32) :=
  match (runDrain ⟨⟨2, false⟩, true⟩ ⟨3, 4, 5, 7, 6⟩ 3 routerInit
    (List.replicate 64 0) (confirmingNcp high)).outcome with
  | .done (r, _) => some r.reportFailed
  | .halt _ => none

/-- The address that the message has left is taken for the status of the
delivery. -/
theorem failuresAfter_differ :
    failuresAfter 0x00 = some 0 ∧ failuresAfter 0x66 = some 1 := by
  decide +kernel

end EzspSpi
