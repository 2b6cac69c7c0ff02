import EzspSpi.Router.Codec
import EzspSpi.Router.Zcl

/-!
# Reading attributes

What `zcl_handle_incoming` answers to which messages.  The response has room
for 96 bytes and leaves out the records that do not fit, but `zcl_send` refuses
all that is longer than 64, so a request is answered in full exactly if its
answer has at most 64 bytes.  The profile of a message is not looked at, nor
whose command it is, so that some that are no such request are answered too.
-/

namespace EzspSpi

open Program

variable {σ : Type} [Kernel σ] (g : Globals) (p : Pins)

/-! ## Records -/

/-- What the `switch` of `zcl_append_attr` chooses for an attribute. -/
inductive AttrValue where
  | unsupported
  | scalar (type val : Byte)
  | string (str : List Byte)
  deriving DecidableEq, Repr

def AttrValue.size : AttrValue → ℕ
  | .unsupported => 3
  | .scalar _ _ => 5
  | .string str => 5 + str.length

def recordBytes (id : BitVec 16) : AttrValue → List Byte
  | .unsupported => unsupportedRecord id
  | .scalar type val => scalarRecord id type val
  | .string str => stringRecord id str

@[simp]
theorem length_recordBytes (id : BitVec 16) (value : AttrValue) :
    (recordBytes id value).length = value.size := by
  cases value with
  | unsupported => rfl
  | scalar type val => rfl
  | string str =>
      simp [recordBytes, stringRecord, AttrValue.size, Nat.add_comm 5]

/-- The attributes of the cluster Basic at this location. -/
def basicValue (location : List Byte) (id : BitVec 16) : AttrValue :=
  if id = 0x0000 then .scalar 0x20 3
  else if id = 0x0001 then .scalar 0x20 1
  else if id = 0x0002 then .scalar 0x20 0x58
  else if id = 0x0003 then .scalar 0x20 2
  else if id = 0x0004 then .string zclManufacturer
  else if id = 0x0005 then .string zclModel
  else if id = 0x0007 then .scalar 0x30 0x01
  else if id = 0x0010 then .string location
  else if id = 0x4000 then .string zclSwbuild
  else .unsupported

/-- The location for a host of this name. -/
def locationFor (r : Router) (hostname : Option (List Byte)) : List Byte :=
  if r.hostName ≠ [] then r.hostName
  else (hostname.getD (ascii "openwrt")).take 31

/-- What a look at the host name finds. -/
def hostnameFound : HostEvent → Option (Option (List Byte))
  | .call .hostname answer => some answer
  | _ => none

/-- A look at the host name. -/
def IsHostname (e : HostEvent) : Prop := ∃ answer, e = .call .hostname answer

/-- The host has this name, as far as anyone asks. -/
def HostnameIs (hostname : Option (List Byte)) (t : List HostEvent) : Prop :=
  ∀ e ∈ t, hostnameFound e = none ∨ hostnameFound e = some hostname

instance (hostname : Option (List Byte)) (t : List HostEvent) :
    Decidable (HostnameIs hostname t) :=
  inferInstanceAs (Decidable (∀ e ∈ t, _))

theorem IsHostname.isQuiet {e : HostEvent} (he : IsHostname e) : IsQuiet e := by
  obtain ⟨answer, rfl⟩ := he
  exact ⟨rfl, rfl⟩

/-- Only one attribute depends on the location. -/
theorem basicValue_fixed {id : BitVec 16} (hid : id ≠ 0x0010)
    (location location' : List Byte) :
    basicValue location id = basicValue location' id := by
  rw [basicValue, basicValue, if_neg hid, if_neg hid]

/-- The others have fixed records. -/
theorem attrRecord_fixed (r : Router) {id : BitVec 16} (hid : id ≠ 0x0010) :
    (attrRecord r id : Host σ _) =
      pure (r, recordBytes id (basicValue [] id)) := by
  rw [attrRecord, basicValue, if_neg hid, if_neg hid]
  split_ifs <;> rfl

section Records

variable {C : Contract host}
  (hlookup : ∀ h answer, C.event h (.call .hostname answer))
  {h : List HostEvent}

include hlookup

/-- The location is looked up once, unless the host has an empty name. -/
theorem zclLocation_holds (r : Router) :
    Holds C h (zclLocation r : Host σ _) fun out h' => ∃ t, h' = h ++ t ∧
      (∀ e ∈ t, IsHostname e) ∧
      out.1 = { r with hostName := out.1.hostName } ∧
      ∀ hostname, HostnameIs hostname t → out.2 = locationFor r hostname ∧
        locationFor out.1 hostname = locationFor r hostname := by
  rw [zclLocation]
  by_cases hknown : r.hostName ≠ []
  · rw [if_pos hknown]
    apply Holds.pure
    refine ⟨[], (List.append_nil h).symm, ?_, rfl, ?_⟩
    · exact fun e he => absurd he List.not_mem_nil
    · exact fun hostname _ => ⟨(if_pos hknown).symm, rfl⟩
  · rw [if_neg hknown]
    apply Holds.bind
    apply Holds.call (hlookup h)
    intro answer
    apply Holds.pure
    refine ⟨[.call .hostname answer], rfl, ?_, rfl, ?_⟩
    · intro e he
      exact ⟨answer, List.mem_singleton.mp he⟩
    · intro hostname hanswers
      have hfound : hostnameFound (.call .hostname answer) = none ∨
          hostnameFound (.call .hostname answer) = some hostname :=
        hanswers _ List.mem_cons_self
      obtain rfl : answer = hostname := by simpa [hostnameFound] using hfound
      have hlocation : (answer.getD (ascii "openwrt")).take 31 =
          locationFor r answer := (if_neg hknown).symm
      refine ⟨hlocation, ?_⟩
      dsimp only
      rw [hlocation, locationFor]
      split
      · rfl
      · rename_i hempty
        exact hlocation

/-- The record of an attribute. -/
theorem attrRecord_holds (r : Router) (id : BitVec 16) :
    Holds C h (attrRecord r id : Host σ _) fun out h' =>
      ∃ t value, h' = h ++ t ∧ (∀ e ∈ t, IsHostname e) ∧
        out.1 = { r with hostName := out.1.hostName } ∧
        out.2 = recordBytes id value ∧
        (∃ location, value = basicValue location id) ∧
        ∀ hostname, HostnameIs hostname t →
          value = basicValue (locationFor r hostname) id ∧
            locationFor out.1 hostname = locationFor r hostname := by
  by_cases hlocation : id = 0x0010
  · subst hlocation
    apply (zclLocation_holds hlookup r).seq
    rintro ⟨r', name⟩ _ ⟨t, rfl, ht, hr', hname⟩
    apply Holds.pure
    refine ⟨t, .string name, rfl, ht, hr', rfl, ⟨name, rfl⟩, ?_⟩
    intro hostname hanswers
    obtain ⟨hlocated, hsame⟩ := hname hostname hanswers
    exact ⟨congrArg AttrValue.string hlocated, hsame⟩
  · rw [attrRecord_fixed r hlocation]
    apply Holds.pure
    refine ⟨[], basicValue [] id, (List.append_nil h).symm, ?_, rfl, rfl,
      ⟨[], rfl⟩, ?_⟩
    · exact fun e he => absurd he List.not_mem_nil
    · exact fun hostname _ => ⟨basicValue_fixed hlocation _ _, rfl⟩

/-- The records of all attributes of a request, as far as they fit. -/
theorem appendAttrs_holds (ids : List (BitVec 16)) :
    ∀ (r : Router) (resp : List Byte) (h : List HostEvent),
      Holds C h (appendAttrs r resp ids : Host σ _) fun out h' =>
        ∃ t records, h' = h ++ t ∧ (∀ e ∈ t, IsHostname e) ∧
          out.1 = { r with hostName := out.1.hostName } ∧
          records.map Prod.fst = ids ∧
          out.2 = appendFitting (fun record => recordBytes record.1 record.2)
            96 resp records ∧
          (∀ record ∈ records,
            ∃ location, record.2 = basicValue location record.1) ∧
          ∀ hostname, HostnameIs hostname t →
            records = ids.map fun id =>
              (id, basicValue (locationFor r hostname) id) := by
  induction ids with
  | nil =>
      intro r resp h
      apply Holds.pure
      refine ⟨[], [], (List.append_nil h).symm, ?_, rfl, rfl, rfl, ?_, ?_⟩
      · exact fun e he => absurd he List.not_mem_nil
      · exact fun record hrecord => absurd hrecord List.not_mem_nil
      · exact fun _ _ => rfl
  | cons id ids ih =>
      intro r resp h
      rw [appendAttrs, List.foldlM_cons]
      dsimp only
      rw [zclAppendAttr, bind_assoc]
      apply (attrRecord_holds hlookup r id).seq
      rintro ⟨r', rec⟩ _ ⟨t, value, rfl, ht, hr', rfl, hlisted, hvalue⟩
      dsimp only at hr' hvalue ⊢
      rw [pure_bind]
      apply (ih r' _ _).mono
      rintro ⟨r'', _⟩ _
        ⟨t', records, rfl, ht', hr'', hids, rfl, hlisted', hrest⟩
      dsimp only at hr'' hrest
      refine ⟨t ++ t', (id, value) :: records, List.append_assoc h t t', ?_,
        ?_, ?_, rfl, ?_, ?_⟩
      · intro e he
        rcases List.mem_append.mp he with he | he
        · exact ht e he
        · exact ht' e he
      · rw [hr'', hr']
      · rw [List.map_cons, hids]
      · intro record hrecord
        rcases List.mem_cons.mp hrecord with rfl | hrecord
        · exact hlisted
        · exact hlisted' record hrecord
      · intro hostname hanswers
        obtain ⟨hfirst, hsame⟩ := hvalue hostname fun e he =>
          hanswers e (List.mem_append_left _ he)
        have hothers := hrest hostname fun e he =>
          hanswers e (List.mem_append_right _ he)
        rw [hfirst, hothers, hsame, List.map_cons]

end Records

/-! ## Messages -/

/-- The ZCL frame that a message carries. -/
def zclContents (m : List Byte) : List Byte :=
  (m.drop 19).take (m.getD 18 0).toNat

def zclFrameControl (m : List Byte) : Byte := (zclContents m).getD 0 0

/-- Where the sequence number stands: behind a manufacturer code, if there is
one. -/
def seqPlace (m : List Byte) : ℕ :=
  if zclFrameControl m &&& 0x04 ≠ 0 then 3 else 1

def requestSeq (m : List Byte) : Byte := (zclContents m).getD (seqPlace m) 0

def requestIds (m : List Byte) : List (BitVec 16) :=
  attributeIds ((zclContents m).drop (seqPlace m + 2))

/-- A message that passes for Read Attributes on the cluster Basic with all
that `zcl_handle_incoming` looks at. -/
structure TakenForRead (m : List Byte) : Prop where
  header : 20 ≤ m.length
  fits : 19 + (m.getD 18 0).toNat ≤ m.length
  complete : seqPlace m + 1 < (zclContents m).length
  cluster : le16 m 3 = zclClusterBasic
  profileWide : zclFrameControl m &&& 0x03 = 0
  command : (zclContents m).getD (seqPlace m + 1) 0 = 0

/-- A response to the sender of a message. -/
def respondTo (r : Router) (m resp : List Byte) : Host σ Router := do
  let (r, _) ← zclSend g p r (le16 m 14) zclClusterBasic resp
  pure r

/-- The answer to a message taken for Read Attributes. -/
def answerRead (r : Router) (m : List Byte) : Host σ Router := do
  let (r, resp) ← appendAttrs r [0x18, requestSeq m, 0x01] (requestIds m)
  respondTo g p r m resp

theorem length_zclContents {m : List Byte}
    (hfits : 19 + (m.getD 18 0).toNat ≤ m.length) :
    (zclContents m).length = (m.getD 18 0).toNat := by
  rw [zclContents, List.length_take, List.length_drop]
  omega

/-- These messages are answered, and no others. -/
theorem zclHandleIncoming_of_taken (r : Router) {m : List Byte}
    (hm : TakenForRead m) :
    (zclHandleIncoming g p r m : Host σ Router) = answerRead g p r m := by
  have hlength := length_zclContents hm.fits
  have hcomplete := hm.complete
  have hplace : 1 ≤ seqPlace m := by
    rw [seqPlace]
    split <;> decide
  have hguard : ¬(m.length < 20 ∨ (m.getD 18 0).toNat < 3 ∨
      m.length < 19 + (m.getD 18 0).toNat) := by
    have hheader := hm.header
    have hfits := hm.fits
    omega
  have hjoining : ¬(le16 m 1 = zclProfileZdo ∧
      le16 m 3 = zdoMgmtPermitJoiningReq) := by
    rw [hm.cluster]
    exact fun h => absurd h.2 (by decide)
  rw [zclHandleIncoming, if_neg hguard, if_neg hjoining, zclHandleFrame]
  change (if seqPlace m + 1 ≥ (zclContents m).length then _ else _) = _
  rw [if_neg (not_le.mpr hcomplete), if_neg (not_not.mpr hm.cluster)]
  refine (if_neg ?_).trans rfl
  rintro (h | h)
  · exact h hm.profileWide
  · exact h hm.command

theorem zclHandleIncoming_of_not_taken (r : Router) {m : List Byte}
    (hm : ¬TakenForRead m) :
    (zclHandleIncoming g p r m : Host σ Router) = pure r := by
  rw [zclHandleIncoming]
  by_cases hguard : m.length < 20 ∨ (m.getD 18 0).toNat < 3 ∨
      m.length < 19 + (m.getD 18 0).toNat
  · exact if_pos hguard
  rw [if_neg hguard]
  by_cases hjoining : le16 m 1 = zclProfileZdo ∧
      le16 m 3 = zdoMgmtPermitJoiningReq
  · exact if_pos hjoining
  rw [if_neg hjoining, zclHandleFrame]
  change (if seqPlace m + 1 ≥ (zclContents m).length then _ else _) = _
  by_cases hshort : seqPlace m + 1 ≥ (zclContents m).length
  · exact if_pos hshort
  rw [if_neg hshort]
  by_cases hcluster : le16 m 3 ≠ zclClusterBasic
  · exact if_pos hcluster
  rw [if_neg hcluster]
  refine (if_pos ?_).trans rfl
  by_contra hother
  obtain ⟨hwide, hcommand⟩ := not_or.mp hother
  apply hm
  exact {
    header := by omega
    fits := by omega
    complete := not_le.mp hshort
    cluster := not_not.mp hcluster
    profileWide := not_not.mp hwide
    command := not_not.mp hcommand }

/-! ## Answers -/

/-- The records of an answer that leaves nothing out. -/
def requestedRecords (location : List Byte) (ids : List (BitVec 16)) :
    List (BitVec 16 × AttrValue) :=
  ids.map fun id => (id, basicValue location id)

/-- The payload with these records, as far as they fit. -/
def responseBytes (seq : Byte) (records : List (BitVec 16 × AttrValue)) :
    List Byte :=
  appendFitting (fun record => recordBytes record.1 record.2) 96
    [0x18, seq, 0x01] records

/-- The command that sends a payload to the sender of a message. -/
def unicastTx (r : Router) (m payload : List Byte) : List Byte :=
  ezspTx r.ezspVersion r.seq ezspSendUnicast
    (unicastParams r (le16 m 14) zclClusterBasic payload)

/-- The records are looked up without touching the bus, and do not fail. -/
theorem appendAttrs_run (r : Router) (resp : List Byte)
    (ids : List (BitVec 16)) (s : σ) :
    ∃ r' records t s', appendAttrs r resp ids s =
        ⟨.done (r', appendFitting
          (fun record => recordBytes record.1 record.2) 96 resp records),
          t, s'⟩ ∧
      r' = { r with hostName := r'.hostName } ∧ (∀ e ∈ t, IsHostname e) ∧
      ∀ hostname, HostnameIs hostname t →
        records = requestedRecords (locationFor r hostname) ids := by
  obtain ⟨_, hdone, hhalt⟩ := appendAttrs_holds
    (C := ⟨fun _ _ => True, fun _ => False⟩) (fun _ _ => trivial) ids r resp
    [] s
  cases hrun : appendAttrs r resp ids s with
  | mk outcome t s' =>
      rw [hrun] at hdone hhalt
      cases outcome with
      | halt why => exact (hhalt why rfl).elim
      | done out =>
          obtain ⟨r', resp'⟩ := out
          obtain ⟨_, records, rfl, ht, hr', _, rfl, _, hrecords⟩ :=
            hdone _ rfl
          exact ⟨r', records, t, s', rfl, hr', ht, hrecords⟩

/-- A payload of up to 64 bytes is one command. -/
theorem zclSend_holds (r : Router) (dest cluster : BitVec 16)
    {payload : List Byte} (hpayload : payload.length ≤ 64)
    (h : List HostEvent) :
    Holds anyRun h (zclSend g p r dest cluster payload : Host σ _)
      fun out h' => ∃ t x, h' = h ++ t ∧ Commanded (ezspTx r.ezspVersion r.seq
          ezspSendUnicast (unicastParams r dest cluster payload)) x t ∧
        out = ({ r with tag := r.tag + 1, seq := r.seq + 1 },
          decide (replyStatus r.ezspVersion x = some emberSuccess)) := by
  have hparams : (unicastParams r dest cluster payload).length ≤ 135 := by
    simp only [unicastParams, List.length_append, List.length_cons,
      List.length_nil]
    omega
  rw [zclSend, if_neg (not_lt.mpr hpayload)]
  apply (ezspCmd_holds g p (fun _ => trivial) anyRun_bus
    { r with tag := r.tag + 1 } ezspSendUnicast hparams 8
    fun _ _ _ => trivial).seq
  rintro _ _ ⟨t, x, rfl, hcommanded, rfl⟩
  apply Holds.pure
  dsimp only
  rw [status?_unwrapReply _ (by decide)]
  exact ⟨t, x, rfl, hcommanded, rfl⟩

private theorem respondTo_holds (r : Router) (m : List Byte)
    {resp : List Byte} (hresp : resp.length ≤ 64) :
    Holds anyRun [] (respondTo g p r m resp : Host σ Router) fun _ t =>
      ∃ x, Commanded (unicastTx r m resp) x t := by
  apply (zclSend_holds g p r (le16 m 14) zclClusterBasic hresp []).seq
  rintro _ _ ⟨t, x, rfl, hcommanded, rfl⟩
  exact Holds.pure ⟨x, hcommanded⟩

theorem respondTo_of_long (r : Router) (m : List Byte)
    {resp : List Byte} (hresp : 64 < resp.length) :
    (respondTo g p r m resp : Host σ Router) = pure r := by
  rw [respondTo, zclSend, if_pos hresp, pure_bind]

/-- The records are looked up first, with no frame sent, and the response is
made of them. -/
theorem answerRead_responds (r : Router) (m : List Byte) (s : σ) :
    ∃ r' records t s',
      (answerRead g p r m s =
        let sent := respondTo g p r' m (responseBytes (requestSeq m) records) s'
        ⟨sent.outcome, t ++ sent.trace, sent.world⟩) ∧
      r' = { r with hostName := r'.hostName } ∧ (∀ e ∈ t, IsHostname e) ∧
      ∀ hostname, HostnameIs hostname t → records =
        requestedRecords (locationFor r hostname) (requestIds m) := by
  obtain ⟨r', records, t, s', hrun, hr', ht, hrecords⟩ :=
    appendAttrs_run r [0x18, requestSeq m, 0x01] (requestIds m) s
  refine ⟨r', records, t, s', ?_, hr', ht, hrecords⟩
  rw [answerRead, bind_apply, hrun, Run.andThen_of_done rfl]
  rfl

/-- What becomes of a message taken for Read Attributes: a response of more
than 64 bytes is not sent, any other is. -/
theorem answerRead_run (r : Router) (m : List Byte) (s : σ) :
    ∃ records t t', (answerRead g p r m s).trace = t ++ t' ∧
      (∀ e ∈ t, IsHostname e) ∧
      (∀ hostname, HostnameIs hostname t → records =
        requestedRecords (locationFor r hostname) (requestIds m)) ∧
      (64 < (responseBytes (requestSeq m) records).length → t' = []) ∧
      ((responseBytes (requestSeq m) records).length ≤ 64 →
        ∀ r', (answerRead g p r m s).outcome = .done r' →
          ∃ x, Commanded (unicastTx r m (responseBytes (requestSeq m) records))
            x t') := by
  obtain ⟨r', records, t, s', hanswer, hr', ht, hrecords⟩ :=
    answerRead_responds g p r m s
  rw [hanswer]
  refine ⟨records, t, _, rfl, ht, hrecords, ?_, ?_⟩
  · intro hlong
    rw [respondTo_of_long g p r' m hlong]
    rfl
  · intro hfits r'' hdone
    have hsame : unicastTx r' m (responseBytes (requestSeq m) records) =
        unicastTx r m (responseBytes (requestSeq m) records) := by
      rw [hr']
      rfl
    rw [← hsame]
    exact (respondTo_holds g p r' m hfits s').2.1 r'' hdone

/-! ## Requests -/

def zclProfileHa : BitVec 16 := 0x0104

/-- An attribute id, the low byte first. -/
def idBytes (id : BitVec 16) : List Byte :=
  [id.setWidth 8, (id >>> 8).setWidth 8]

/-- A message under the profile HA with a profile-wide Read Attributes on the
cluster Basic, perhaps one of a manufacturer. -/
structure ReadRequest (m : List Byte) (sender : BitVec 16) (seq : Byte)
    (ids : List (BitVec 16)) : Prop where
  fits : 19 + (m.getD 18 0).toNat ≤ m.length
  profile : le16 m 1 = zclProfileHa
  cluster : le16 m 3 = zclClusterBasic
  sender : le16 m 14 = sender
  contents : ∃ fc manufacturer, fc &&& 0x03 = 0 ∧
    manufacturer.length = (if fc &&& 0x04 ≠ 0 then 2 else 0) ∧
    zclContents m = fc :: manufacturer ++ seq :: 0x00 :: ids.flatMap idBytes

theorem le16_idBytes (id : BitVec 16) (rest : List Byte) :
    le16 (idBytes id ++ rest) 0 = id := by
  rw [le16]
  apply BitVec.eq_of_getLsbD_eq
  intro i hi
  simp [idBytes, BitVec.getLsbD_setWidth]
  grind

theorem attributeIds_idBytes (ids : List (BitVec 16)) :
    attributeIds (ids.flatMap idBytes) = ids := by
  induction ids with
  | nil => rfl
  | cons id ids ih =>
      have hid := le16_idBytes id []
      rw [List.append_nil] at hid
      change le16 (idBytes id) 0 :: attributeIds (ids.flatMap idBytes) =
        id :: ids
      rw [hid, ih]

/-- A request is taken for what it is. -/
theorem ReadRequest.reads {m : List Byte} {sender : BitVec 16} {seq : Byte}
    {ids : List (BitVec 16)} (hm : ReadRequest m sender seq ids) :
    TakenForRead m ∧ requestSeq m = seq ∧ requestIds m = ids := by
  obtain ⟨fc, manufacturer, hwide, hmanufacturer, hcontents⟩ := hm.contents
  have hcontrol : zclFrameControl m = fc := by
    rw [zclFrameControl, hcontents]
    rfl
  have hplace : seqPlace m = manufacturer.length + 1 := by
    rw [seqPlace, hcontrol, hmanufacturer]
    split <;> rfl
  have hdrop : (zclContents m).drop (seqPlace m) =
      seq :: 0x00 :: ids.flatMap idBytes := by
    rw [hplace, hcontents, List.cons_append, List.drop_succ_cons,
      List.drop_left]
  have hget (i : ℕ) : (zclContents m).getD (seqPlace m + i) 0 =
      (seq :: 0x00 :: ids.flatMap idBytes).getD i 0 := by
    rw [List.getD_eq_getElem?_getD, ← List.getElem?_drop, hdrop,
      ← List.getD_eq_getElem?_getD]
  have hlength := congrArg List.length hdrop
  rw [List.length_drop] at hlength
  simp only [List.length_cons] at hlength
  have hzlen := length_zclContents hm.fits
  have hfits := hm.fits
  refine ⟨?_, hget 0, ?_⟩
  · exact {
      header := by omega
      fits := hm.fits
      complete := by omega
      cluster := hm.cluster
      profileWide := hcontrol ▸ hwide
      command := hget 1 }
  · rw [requestIds, ← List.drop_drop, hdrop]
    exact attributeIds_idBytes ids

/-- The response that has a record for every attribute. -/
def fullResponse (location : List Byte) (seq : Byte)
    (ids : List (BitVec 16)) : List Byte :=
  [0x18, seq, 0x01] ++
    ids.flatMap fun id => recordBytes id (basicValue location id)

theorem length_fullResponse (location : List Byte) (seq : Byte)
    (ids : List (BitVec 16)) :
    (fullResponse location seq ids).length =
      3 + (ids.map fun id => (basicValue location id).size).sum := by
  rw [fullResponse, List.length_append, List.length_flatMap]
  simp

/-- With room for all records the response is full. -/
theorem responseBytes_of_fits {location : List Byte} {seq : Byte}
    {ids : List (BitVec 16)}
    (hfits : (fullResponse location seq ids).length ≤ 96) :
    responseBytes seq (requestedRecords location ids) =
      fullResponse location seq ids := by
  have hflat : (requestedRecords location ids).flatMap
      (fun record => recordBytes record.1 record.2) =
        ids.flatMap fun id => recordBytes id (basicValue location id) := by
    rw [requestedRecords, List.flatMap_map]
  rw [responseBytes, appendFitting_of_fits, hflat]
  · rfl
  · rw [hflat]
    rw [fullResponse, List.length_append] at hfits
    exact hfits

private theorem length_of_unicastTx_eq {r : Router}
    {m payload payload' : List Byte}
    (h : unicastTx r m payload = unicastTx r m payload') :
    payload.length = payload'.length := by
  have hlength := congrArg List.length h
  simpa [unicastTx, ezspTx, unicastParams] using hlength

/-- A request is answered by one unicast to its sender with a record for every
attribute, exactly if the records have room in 64 bytes. -/
theorem zclHandleIncoming_answers_iff {r : Router} {m : List Byte}
    {sender : BitVec 16} {seq : Byte} {ids : List (BitVec 16)}
    (hm : ReadRequest m sender seq ids) {hostname : Option (List Byte)}
    {s : σ} (hname : HostnameIs hostname (zclHandleIncoming g p r m s).trace)
    {r' : Router} (hdone : (zclHandleIncoming g p r m s).outcome = .done r') :
    (∃ x, Commanded (ezspTx r.ezspVersion r.seq ezspSendUnicast
        (unicastParams r sender zclClusterBasic
          (fullResponse (locationFor r hostname) seq ids)))
        x (zclHandleIncoming g p r m s).trace) ↔
      3 + (ids.map fun id =>
        (basicValue (locationFor r hostname) id).size).sum ≤ 64 := by
  obtain ⟨htaken, rfl, rfl⟩ := hm.reads
  obtain rfl := hm.sender
  rw [zclHandleIncoming_of_taken g p r htaken] at hname hdone ⊢
  rw [← length_fullResponse _ (requestSeq m)]
  change (∃ x, Commanded (unicastTx r m _) x _) ↔ _
  obtain ⟨records, t, t', htrace, ht, hrecords, hlong, hshort⟩ :=
    answerRead_run g p r m s
  rw [htrace] at hname ⊢
  have hquiet : ∀ e ∈ t, IsQuiet e := fun e he => (ht e he).isQuiet
  rw [hrecords hostname fun e he => hname e (List.mem_append_left _ he)]
    at hlong hshort
  constructor
  · rintro ⟨x, hx⟩
    by_contra hover
    have hlast := (hx.exchanges_append []).1
    by_cases hresp : (responseBytes (requestSeq m) (requestedRecords
        (locationFor r hostname) (requestIds m))).length ≤ 64
    · obtain ⟨y, hy⟩ := hshort hresp r' hdone
      have hy' := hy.after_quiet hquiet
      have hxy : x = y := Option.some.inj
        (hlast.symm.trans (hy'.exchanges_append []).1)
      have hlength := length_of_unicastTx_eq
        (hx.2.1.symm.trans (hxy ▸ hy.2.1))
      omega
    · rw [hlong (not_le.mp hresp), List.append_nil, List.nil_append,
        (exchanges_of_quiet hquiet).1] at hlast
      cases hlast
  · intro hfits
    rw [responseBytes_of_fits (hfits.trans (by decide))] at hshort
    obtain ⟨x, hx⟩ := hshort hfits r' hdone
    exact ⟨x, hx.after_quiet hquiet⟩

/-- A buffer of 64 bytes with a Read Attributes of these attributes, from the
coordinator. -/
def sampleRead (ids : List (BitVec 16)) : List Byte :=
  let message := [0x00, 0x04, 0x01, 0x00, 0x00, 0x01, 0x01, 0x40, 0x01, 0x00,
    0x00, 0x00, 0xFF, 0xC8, 0x00, 0x00, 0xFF, 0xFF,
    BitVec.ofNat 8 (3 + 2 * ids.length), 0x10, 0x2A, 0x00] ++
      ids.flatMap idBytes
  message ++ List.replicate (64 - message.length) 0

/-- An NCP that is always idle. -/
def idleNcp : Playback := ⟨[], [], [], []⟩

/-- What a coordinator asks of a new node. -/
def interviewIds : List (BitVec 16) :=
  [0x0000, 0x0001, 0x0002, 0x0003, 0x0004, 0x0005, 0x0006, 0x0007, 0x4000]

theorem zclHandleIncoming_answers_iff_model :
    (∃ x, Commanded (ezspTx 4 0 ezspSendUnicast
        (unicastParams routerInit 0x0000 zclClusterBasic
          [0x18, 0x2A, 0x01, 0x05, 0x00, 0x00, 0x42, 0x07, 0x57, 0x48, 0x57,
            0x30, 0x33, 0x56, 0x32])) x
        (zclHandleIncoming ⟨⟨2, false⟩, true⟩ ⟨3, 4, 5, 7, -1⟩ routerInit
          (sampleRead [0x0005]) idleNcp).trace) ↔ 3 + 12 ≤ 64 := by
  have hm : ReadRequest (sampleRead [0x0005]) 0x0000 0x2A [0x0005] :=
    { fits := by decide
      profile := by decide
      cluster := by decide
      sender := by decide
      contents := ⟨0x10, [], by decide, by decide, by decide⟩ }
  have hname : HostnameIs none (zclHandleIncoming ⟨⟨2, false⟩, true⟩
      ⟨3, 4, 5, 7, -1⟩ routerInit (sampleRead [0x0005]) idleNcp).trace := by
    decide +kernel
  have hdone : (zclHandleIncoming ⟨⟨2, false⟩, true⟩ ⟨3, 4, 5, 7, -1⟩
      routerInit (sampleRead [0x0005]) idleNcp).outcome =
        .done { routerInit with seq := 1, tag := 1 } := by
    decide +kernel
  exact zclHandleIncoming_answers_iff _ _ hm hname hdone

/-- A coordinator that asks for the attributes of a new node all at once gets
no answer at all. -/
theorem zclHandleIncoming_drops_interview :
    ¬∀ (g : Globals) (p : Pins) (r : Router) (m : List Byte)
      (sender : BitVec 16) (seq : Byte) (ids : List (BitVec 16))
      (hostname : Option (List Byte)) (s : Playback) (r' : Router),
      ReadRequest m sender seq ids → m.length = 64 →
      HostnameIs hostname (zclHandleIncoming g p r m s).trace →
      (zclHandleIncoming g p r m s).outcome = .done r' →
      ∃ x, Commanded (ezspTx r.ezspVersion r.seq ezspSendUnicast
        (unicastParams r sender zclClusterBasic
          (fullResponse (locationFor r hostname) seq ids)))
        x (zclHandleIncoming g p r m s).trace := by
  intro hall
  have hm : ReadRequest (sampleRead interviewIds) 0x0000 0x2A interviewIds :=
    { fits := by decide
      profile := by decide
      cluster := by decide
      sender := by decide
      contents := ⟨0x10, [], by decide, by decide, by decide⟩ }
  have hdone : (zclHandleIncoming ⟨⟨2, false⟩, true⟩ ⟨3, 4, 5, 7, -1⟩
      routerInit (sampleRead interviewIds) idleNcp).outcome = .done routerInit := by
    decide +kernel
  obtain ⟨x, hx⟩ := hall _ _ _ _ _ _ _ none _ _ hm (by decide)
    (by decide +kernel) hdone
  have hlast := (hx.exchanges_append []).1
  have hnone : exchanges (zclHandleIncoming ⟨⟨2, false⟩, true⟩
      ⟨3, 4, 5, 7, -1⟩ routerInit (sampleRead interviewIds)
      idleNcp).trace = [] := by
    decide +kernel
  rw [List.nil_append, hnone] at hlast
  cases hlast

/-! ## Messages that are no request -/

/-- A profile-wide Read Attributes on the cluster Basic, of no manufacturer and
not under the profile of ZDO. -/
structure GenuineRead (m : List Byte) : Prop where
  profile : le16 m 1 ≠ zclProfileZdo
  cluster : le16 m 3 = zclClusterBasic
  contents : ∃ fc seq ids, zclContents m = fc :: seq :: 0x00 :: ids ∧
    fc &&& 0x03 = 0 ∧ fc &&& 0x04 = 0

/-- A message that is taken for a request and is none. -/
def ForeignRead (m : List Byte) : Prop :=
  TakenForRead m ∧
    (le16 m 1 = zclProfileZdo ∨ zclFrameControl m &&& 0x04 ≠ 0)

/-- A Read Attributes Response to the message is among the commands. -/
def SendsResponse (r : Router) (m : List Byte) (t : List HostEvent) : Prop :=
  ∃ x ∈ exchanges t, ∃ records,
    x.command = unicastTx r m ([0x18, requestSeq m, 0x01] ++ records)

theorem GenuineRead.not_foreign {m : List Byte} (hm : GenuineRead m) :
    ¬ForeignRead m := by
  obtain ⟨fc, seq, ids, hcontents, _, hnone⟩ := hm.contents
  have hcontrol : zclFrameControl m = fc := by
    rw [zclFrameControl, hcontents]
    rfl
  rintro ⟨_, hzdo | hmanufacturer⟩
  · exact hm.profile hzdo
  · exact hmanufacturer (hcontrol ▸ hnone)

theorem TakenForRead.genuine {m : List Byte} (hm : TakenForRead m)
    (hforeign : ¬ForeignRead m) : GenuineRead m := by
  obtain ⟨hprofile, hnone⟩ : le16 m 1 ≠ zclProfileZdo ∧
      zclFrameControl m &&& 0x04 = 0 := by
    have hneither := fun h => hforeign ⟨hm, h⟩
    exact ⟨fun h => hneither (Or.inl h),
      not_not.mp fun h => hneither (Or.inr h)⟩
  have hplace : seqPlace m = 1 := if_neg (not_not.mpr hnone)
  have hcomplete := hm.complete
  have hcommand := hm.command
  have hwide := hm.profileWide
  rw [hplace] at hcomplete hcommand
  rw [zclFrameControl] at hnone hwide
  refine ⟨hprofile, hm.cluster, ?_⟩
  cases hcontents : zclContents m with
  | nil => simp [hcontents] at hcomplete
  | cons fc rest =>
      cases rest with
      | nil => simp [hcontents] at hcomplete
      | cons seq rest =>
          cases rest with
          | nil => simp [hcontents] at hcomplete
          | cons command ids =>
              rw [hcontents] at hcommand hnone hwide
              obtain rfl : command = 0 := hcommand
              exact ⟨fc, seq, ids, rfl, hwide, hnone⟩

/-- Only genuine requests are answered, exactly if no other message is taken
for one whose answer has at most 64 bytes.  That this is enough also holds of
runs that die from a failed ioctl. -/
theorem zclHandleIncoming_genuine_iff (r : Router) (m : List Byte)
    {hostname : Option (List Byte)} {s : σ}
    (hname : HostnameIs hostname (zclHandleIncoming g p r m s).trace) :
    (∀ r', (zclHandleIncoming g p r m s).outcome = .done r' →
      ((SendsResponse r m (zclHandleIncoming g p r m s).trace →
          GenuineRead m) ↔
        (ForeignRead m → 64 < (responseBytes (requestSeq m) (requestedRecords
          (locationFor r hostname) (requestIds m))).length))) ∧
    ((ForeignRead m → 64 < (responseBytes (requestSeq m) (requestedRecords
        (locationFor r hostname) (requestIds m))).length) →
      SendsResponse r m (zclHandleIncoming g p r m s).trace →
        GenuineRead m) := by
  by_cases htaken : TakenForRead m
  · rw [zclHandleIncoming_of_taken g p r htaken] at hname ⊢
    obtain ⟨records, t, t', htrace, ht, hrecords, hlong, hshort⟩ :=
      answerRead_run g p r m s
    rw [htrace] at hname ⊢
    have hquiet : ∀ e ∈ t, IsQuiet e := fun e he => (ht e he).isQuiet
    rw [hrecords hostname fun e he => hname e (List.mem_append_left _ he)]
      at hlong hshort
    have henough : (ForeignRead m → 64 < (responseBytes (requestSeq m)
          (requestedRecords (locationFor r hostname)
            (requestIds m))).length) →
        SendsResponse r m (t ++ t') → GenuineRead m := by
      rintro hharmless ⟨x, hx, _⟩
      by_contra hother
      have hforeign : ForeignRead m :=
        not_not.mp fun h => hother (htaken.genuine h)
      rw [hlong (hharmless hforeign), List.append_nil,
        (exchanges_of_quiet hquiet).1] at hx
      exact absurd hx List.not_mem_nil
    refine ⟨fun r' hdone => ⟨?_, henough⟩, henough⟩
    intro honly hforeign
    by_contra hresp
    obtain ⟨x, hx⟩ := hshort (not_lt.mp hresp) r' hdone
    have hlast := ((hx.after_quiet hquiet).exchanges_append []).1
    obtain ⟨kept, _, hbytes⟩ := appendFitting_eq
      (fun record => recordBytes record.1 record.2) 96
      [0x18, requestSeq m, 0x01] (requestedRecords
        (locationFor r hostname) (requestIds m))
    have hgenuine : GenuineRead m := by
      apply honly
      exact ⟨x, List.mem_of_getLast? hlast, kept.flatMap _,
        hx.2.1.trans (congrArg (unicastTx r m) hbytes)⟩
    exact hgenuine.not_foreign hforeign
  · rw [zclHandleIncoming_of_not_taken g p r htaken]
    have hnothing : SendsResponse r m [] → GenuineRead m := by
      rintro ⟨x, hx, _⟩
      exact absurd hx List.not_mem_nil
    refine ⟨fun r' _ => ⟨?_, fun _ => hnothing⟩, fun _ => hnothing⟩
    exact fun _ hforeign => absurd hforeign.1 htaken

theorem zclHandleIncoming_genuine_iff_model :
    ((SendsResponse routerInit (sampleRead [0x0005])
        (zclHandleIncoming ⟨⟨2, false⟩, true⟩ ⟨3, 4, 5, 7, -1⟩ routerInit
          (sampleRead [0x0005]) idleNcp).trace →
        GenuineRead (sampleRead [0x0005])) ↔
      (ForeignRead (sampleRead [0x0005]) → 64 < 3 + 12)) := by
  have hname : HostnameIs none (zclHandleIncoming ⟨⟨2, false⟩, true⟩
      ⟨3, 4, 5, 7, -1⟩ routerInit (sampleRead [0x0005]) idleNcp).trace := by
    decide +kernel
  have hdone : (zclHandleIncoming ⟨⟨2, false⟩, true⟩ ⟨3, 4, 5, 7, -1⟩
      routerInit (sampleRead [0x0005]) idleNcp).outcome =
        .done { routerInit with seq := 1, tag := 1 } := by
    decide +kernel
  exact (zclHandleIncoming_genuine_iff _ _ _ _ hname).1 _ hdone

/-- A network address request of ZDO with the transaction number 0x40, for the
EUI64 00:0D:6F:00:0A:12:00:15. -/
def sampleAddressRequest : List Byte :=
  [0x00, 0x00, 0x00, 0x00, 0x00, 0x00, 0x00, 0x40, 0x01, 0x00, 0x00, 0x00,
    0xFF, 0xC8, 0x00, 0x00, 0xFF, 0xFF, 11, 0x40, 0x15, 0x00, 0x12, 0x0A,
    0x00, 0x6F, 0x0D, 0x00, 0x00, 0x00] ++ List.replicate 34 0

/-- It is answered as a Read Attributes. -/
theorem zclHandleIncoming_answers_zdo :
    ¬∀ (g : Globals) (p : Pins) (r : Router) (m : List Byte) (s : Playback),
      SendsResponse r m (zclHandleIncoming g p r m s).trace →
        GenuineRead m := by
  intro hall
  have hsent : ∃ x ∈ exchanges (zclHandleIncoming ⟨⟨2, false⟩, true⟩
      ⟨3, 4, 5, 7, -1⟩ routerInit sampleAddressRequest idleNcp).trace,
      x.command = unicastTx routerInit sampleAddressRequest
        ([0x18, requestSeq sampleAddressRequest, 0x01] ++
          [0x12, 0x0A, 0x86, 0x00, 0x6F, 0x86, 0x0D, 0x00, 0x86,
            0x00, 0x00, 0x00, 0x20, 0x03]) := by
    decide +kernel
  obtain ⟨x, hx, hcommand⟩ := hsent
  have hgenuine := hall _ _ _ _ _ ⟨x, hx, _, hcommand⟩
  exact hgenuine.profile (by decide)

end EzspSpi
