import EzspSpi.Ash.InBounds
import EzspSpi.Router.Attributes

/-!
# ZCL on its arrays

`zcl_handle_incoming` once more, with each access to the message, to
`resp[96]` and to `params[96]` by its index.  It does what it does on lists,
whatever an access out of bounds would do, and the response it builds can be
read back as whole records, for some of the attributes asked for in their
order.
-/

namespace EzspSpi.Arrays

open Program

variable {σ : Type} [Kernel σ] (oob : ∀ β : Type, Host σ β) (junk : Byte)
  (g : Globals) (p : Pins)

/-- `m[i] | (m[i + 1] << 8)`. -/
def readWord (m : List Byte) (i : ℕ) : Host σ (BitVec 16) := do
  let low ← readAt oob m i
  let high ← readAt oob m (i + 1)
  pure (le16 [low, high] 0)

/-- The `switch` of `zcl_append_attr`. -/
def attrValue (r : Router) (id : BitVec 16) : Host σ (Router × AttrValue) :=
  if id = 0x0010 then do
    let (r, location) ← zclLocation r
    pure (r, .string location)
  else pure (r, basicValue [] id)

/-- `zcl_append_attr`, with `b` and `at` in one. -/
def zclAppendAttr {size : ℕ} (r : Router) (b : Filled Byte size) (max : ℕ)
    (id : BitVec 16) : Host σ (Router × Filled Byte size) := do
  let (r, value) ← attrValue r id
  match value with
  | .unsupported =>
      if b.len + 3 > max then pure (r, b)
      else do
        let b ← Filled.pushAll oob b (idBytes id ++ [0x86])
        pure (r, b)
  | .string str =>
      if b.len + 5 + str.length > max then pure (r, b)
      else do
        let b ← Filled.pushAll oob b
          (idBytes id ++ [0x00, 0x42, BitVec.ofNat 8 str.length])
        let b ← Filled.append oob b str str.length
        pure (r, b)
  | .scalar type val =>
      if b.len + 5 > max then pure (r, b)
      else do
        let b ← Filled.pushAll oob b (idBytes id ++ [0x00, type, val])
        pure (r, b)

/-- The loop over the attribute ids of `zcl = m + 19`, from index `i` on. -/
def attrLoop (m : List Byte) (zlen : ℕ) : (rounds i : ℕ) → Router →
    Filled Byte 96 → Host σ (Router × Filled Byte 96)
  | 0, _, r, resp => pure (r, resp)
  | rounds + 1, i, r, resp =>
      if i + 1 < zlen then do
        let id ← readWord oob m (19 + i)
        let (r, resp) ← zclAppendAttr oob r resp 96 id
        attrLoop m zlen rounds (i + 2) r resp
      else pure (r, resp)

/-- `zcl_send`, which puts its parameters together in `params[96]`. -/
def zclSend {size : ℕ} (r : Router) (dest cluster : BitVec 16)
    (payload : Filled Byte size) : Host σ (Router × Bool) :=
  if payload.len > 64 then pure (r, false)
  else do
    let params ← Filled.pushAll oob (localFilled junk 96)
      [0x00, dest.setWidth 8, (dest >>> 8).setWidth 8,
        0x04, 0x01, cluster.setWidth 8, (cluster >>> 8).setWidth 8,
        zclEndpoint, zclEndpoint, 0x40, 0x01, 0x00, 0x00, 0x00,
        r.tag, BitVec.ofNat 8 payload.len]
    let params ← Filled.append oob params payload.cells payload.len
    let (r, reply) ← ezspCmd g p { r with tag := r.tag + 1 } ezspSendUnicast
      params.used 8
    pure (r, decide (status? reply = some emberSuccess))

/-- `zcl_handle_incoming` of the `len` bytes of `m`. -/
def zclHandleIncoming (r : Router) (m : List Byte) : Host σ Router :=
  if m.length < 20 then pure r
  else do
    let profile ← readWord oob m 1
    let cluster ← readWord oob m 3
    let sender ← readWord oob m 14
    let count ← readAt oob m 18
    let zlen := count.toNat
    if zlen < 3 ∨ m.length < 19 + zlen then pure r
    else if profile = zclProfileZdo ∧ cluster = zdoMgmtPermitJoiningReq then do
      let _ ← readAt oob m (19 + 1)
      pure r
    else do
      let fc ← readAt oob m 19
      let i := if fc &&& 0x04 ≠ 0 then 3 else 1
      if i + 1 ≥ zlen then pure r
      else do
        let seq ← readAt oob m (19 + i)
        let cmd ← readAt oob m (19 + (i + 1))
        if cluster ≠ zclClusterBasic then pure r
        else if fc &&& 0x03 ≠ 0x00 ∨ cmd ≠ 0x00 then pure r
        else do
          let resp ← Filled.pushAll oob (localFilled junk 96) [0x18, seq, 0x01]
          let (r, resp) ← attrLoop oob m zlen zlen (i + 2) r resp
          let (r, _) ← zclSend oob junk g p r sender zclClusterBasic resp
          pure r

/-! ## The same as on lists -/

variable {oob}

omit [Kernel σ] in
theorem readWord_eq {m : List Byte} {i : ℕ} (h : i + 1 < m.length) :
    (readWord oob m i : Host σ _) = pure (le16 m i) := by
  rw [readWord, readAt_getD (Nat.lt_of_succ_lt h) 0, pure_bind,
    readAt_getD h 0, pure_bind]
  rfl

theorem attrRecord_eq (r : Router) (id : BitVec 16) :
    (attrRecord r id : Host σ _) = attrValue r id >>= fun out =>
      pure (out.1, recordBytes id out.2) := by
  rw [attrValue]
  by_cases hid : id = 0x0010
  · subst hid
    rw [if_pos rfl, bind_assoc]
    rfl
  · rw [if_neg hid, attrRecord_fixed r hid, pure_bind]

/-- Appending one record to the cells in use. -/
theorem zclAppendAttr_shows (r : Router) (b : Filled Byte 96)
    (id : BitVec 16) :
    Shows (fun out => (out.1, out.2.used))
      (zclAppendAttr oob r b 96 id : Host σ _)
      (EzspSpi.zclAppendAttr r b.used 96 id) := by
  have hlen : b.used.length = b.len := b.length_used
  rw [zclAppendAttr, EzspSpi.zclAppendAttr, attrRecord_eq, bind_assoc]
  apply Shows.after
  rintro ⟨r', value⟩
  rw [pure_bind]
  dsimp only
  rw [length_recordBytes, hlen]
  cases value with
  | unsupported =>
      dsimp only
      rw [AttrValue.size]
      by_cases hfull : b.len + 3 > 96
      · rw [if_pos hfull, if_pos hfull]
        exact Shows.pure rfl
      · have hroom : b.len + (idBytes id ++ [0x86]).length ≤ 96 :=
          not_lt.mp hfull
        obtain ⟨b', hpush, hused⟩ := Filled.pushAll_eq oob hroom
        rw [if_neg hfull, hpush, pure_bind, if_neg hfull]
        exact Shows.pure (by rw [hused]; rfl)
  | scalar type val =>
      dsimp only
      rw [AttrValue.size]
      by_cases hfull : b.len + 5 > 96
      · rw [if_pos hfull, if_pos hfull]
        exact Shows.pure rfl
      · have hroom : b.len + (idBytes id ++ [0x00, type, val]).length ≤ 96 :=
          not_lt.mp hfull
        obtain ⟨b', hpush, hused⟩ := Filled.pushAll_eq oob hroom
        rw [if_neg hfull, hpush, pure_bind, if_neg hfull]
        exact Shows.pure (by rw [hused]; rfl)
  | string str =>
      dsimp only
      rw [AttrValue.size, ← Nat.add_assoc]
      by_cases hfull : b.len + 5 + str.length > 96
      · rw [if_pos hfull, if_pos hfull]
        exact Shows.pure rfl
      · have hroom : b.len + (idBytes id ++
            [0x00, 0x42, BitVec.ofNat 8 str.length]).length ≤ 96 := by
          change b.len + 5 ≤ 96
          omega
        obtain ⟨b', hpush, hused⟩ := Filled.pushAll_eq oob hroom
        have hlen' : b'.len = b.len + 5 := by
          rw [← b'.length_used, hused, List.length_append, hlen]
          rfl
        obtain ⟨b'', happend, hused'⟩ := Filled.append_eq oob (a := b')
          (le_refl str.length) (by omega)
        rw [if_neg hfull, hpush, pure_bind, happend, pure_bind, if_neg hfull]
        apply Shows.pure
        rw [hused', hused, List.take_length, List.append_assoc]
        rfl

/-- The contents of a message by their places in it. -/
private theorem getD_zclContents {m : List Byte} {i : ℕ}
    (hi : i < (m.getD 18 0).toNat) :
    (zclContents m).getD i 0 = m.getD (19 + i) 0 := by
  rw [zclContents, List.getD_eq_getElem?_getD, List.getElem?_take_of_lt hi,
    List.getElem?_drop, ← List.getD_eq_getElem?_getD]

/-- The ids from a place on: one more, or none. -/
private theorem attributeIds_drop {m : List Byte}
    (hfits : 19 + (m.getD 18 0).toNat ≤ m.length) (i : ℕ) :
    attributeIds ((zclContents m).drop i) =
      if i + 1 < (m.getD 18 0).toNat then
        le16 m (19 + i) :: attributeIds ((zclContents m).drop (i + 2))
      else [] := by
  have hlength := length_zclContents hfits
  split
  · rename_i hmore
    have hfirst : i < (zclContents m).length := by omega
    have hsecond : i + 1 < (zclContents m).length := by omega
    rw [List.drop_eq_getElem_cons hfirst, List.drop_eq_getElem_cons hsecond,
      attributeIds, List.getElem_eq_getD 0, List.getElem_eq_getD 0,
      getD_zclContents (by omega), getD_zclContents hmore]
    rfl
  · rename_i hend
    cases hdrop : (zclContents m).drop i with
    | nil => rfl
    | cons low rest =>
        have hrest := congrArg List.length hdrop
        rw [List.length_drop, List.length_cons] at hrest
        obtain rfl : rest = [] := List.eq_nil_of_length_eq_zero (by omega)
        rfl

variable (oob) in
private theorem attrLoop_shows {m : List Byte}
    (hfits : 19 + (m.getD 18 0).toNat ≤ m.length) (rounds i : ℕ)
    (hrounds : (m.getD 18 0).toNat ≤ i + rounds) (r : Router)
    (resp : Filled Byte 96) :
    Shows (fun out => (out.1, out.2.used))
      (attrLoop oob m (m.getD 18 0).toNat rounds i r resp : Host σ _)
      (appendAttrs r resp.used (attributeIds ((zclContents m).drop i))) := by
  induction rounds generalizing i r resp with
  | zero =>
      rw [attributeIds_drop hfits, if_neg (by omega)]
      exact Shows.pure rfl
  | succ rounds ih =>
      rw [attributeIds_drop hfits, attrLoop]
      by_cases hmore : i + 1 < (m.getD 18 0).toNat
      · rw [if_pos hmore, if_pos hmore, readWord_eq (by omega), pure_bind,
          appendAttrs, List.foldlM_cons]
        apply (zclAppendAttr_shows r resp _).bind
        rintro ⟨r', resp'⟩
        exact ih (i + 2) (by omega) r' resp'
      · rw [if_neg hmore, if_neg hmore]
        exact Shows.pure rfl

theorem zclSend_eq {size : ℕ} (r : Router) (dest cluster : BitVec 16)
    (payload : Filled Byte size) :
    (zclSend oob junk g p r dest cluster payload : Host σ _) =
      EzspSpi.zclSend g p r dest cluster payload.used := by
  rw [zclSend, EzspSpi.zclSend, payload.length_used]
  by_cases hlong : payload.len > 64
  · rw [if_pos hlong, if_pos hlong]
  rw [if_neg hlong, if_neg hlong]
  have hcells : payload.len ≤ payload.cells.length :=
    payload.size_eq.symm ▸ payload.len_le
  have hroom : (localFilled junk 96).len +
      [0x00, dest.setWidth 8, (dest >>> 8).setWidth 8,
        0x04, 0x01, cluster.setWidth 8, (cluster >>> 8).setWidth 8,
        zclEndpoint, zclEndpoint, 0x40, 0x01, 0x00, 0x00, 0x00,
        r.tag, BitVec.ofNat 8 payload.len].length ≤ 96 := by
    change 0 + 16 ≤ 96
    decide
  obtain ⟨params, hpush, hused⟩ := Filled.pushAll_eq oob hroom
  have hnone : (localFilled junk 96).used = [] := Filled.used_empty 96 junk
  rw [hnone, List.nil_append] at hused
  have hlen : params.len = 16 := by
    rw [← params.length_used, hused]
    rfl
  obtain ⟨params', happend, hused'⟩ := Filled.append_eq oob
    (a := params) hcells (by omega)
  have hparams : params'.used = unicastParams r dest cluster payload.used := by
    rw [hused', hused, unicastParams, payload.length_used]
    rfl
  rw [hpush, pure_bind, happend, pure_bind, hparams]

/-- The same messages with the same answers. -/
theorem zclHandleIncoming_eq (r : Router) (m : List Byte) :
    (zclHandleIncoming oob junk g p r m : Host σ Router) =
      EzspSpi.zclHandleIncoming g p r m := by
  rw [zclHandleIncoming, EzspSpi.zclHandleIncoming]
  by_cases hheader : m.length < 20
  · rw [if_pos hheader, if_pos (Or.inl hheader)]
  rw [if_neg hheader, readWord_eq (by omega), pure_bind,
    readWord_eq (by omega), pure_bind, readWord_eq (by omega), pure_bind,
    readAt_getD (by omega) 0, pure_bind]
  dsimp only
  by_cases hguard : (m.getD 18 0).toNat < 3 ∨
      m.length < 19 + (m.getD 18 0).toNat
  · rw [if_pos hguard, if_pos (Or.inr hguard)]
  obtain ⟨hthree, hfits⟩ := not_or.mp hguard
  have hfits' : 19 + (m.getD 18 0).toNat ≤ m.length := not_lt.mp hfits
  rw [if_neg hguard, if_neg (not_or.mpr ⟨hheader, hguard⟩)]
  by_cases hjoining : le16 m 1 = zclProfileZdo ∧
      le16 m 3 = zdoMgmtPermitJoiningReq
  · rw [if_pos hjoining, if_pos hjoining, readAt_getD (by omega) 0, pure_bind]
  rw [if_neg hjoining, if_neg hjoining, readAt_getD (by omega) 0, pure_bind]
  change _ = zclHandleFrame g p r (le16 m 14) (le16 m 3) (zclContents m)
  have hlength := length_zclContents hfits'
  have hfc : m.getD 19 0 = (zclContents m).getD 0 0 :=
    (getD_zclContents (i := 0) (by omega)).symm
  rw [zclHandleFrame, hlength, hfc]
  dsimp only
  generalize (if (zclContents m).getD 0 0 &&& 0x04 ≠ 0 then 3 else 1) = i
  by_cases hshort : i + 1 ≥ (m.getD 18 0).toNat
  · rw [if_pos hshort, if_pos hshort]
  have hseq : m.getD (19 + i) 0 = (zclContents m).getD i 0 :=
    (getD_zclContents (by omega)).symm
  have hcmd : m.getD (19 + (i + 1)) 0 = (zclContents m).getD (i + 1) 0 :=
    (getD_zclContents (by omega)).symm
  rw [if_neg hshort, if_neg hshort, readAt_getD (by omega) 0, pure_bind,
    readAt_getD (by omega) 0, pure_bind, hseq, hcmd]
  split
  · rfl
  split
  · rfl
  have hroom : (localFilled junk 96).len +
      [0x18, (zclContents m).getD i 0, 0x01].length ≤ 96 := by
    change 0 + 3 ≤ 96
    decide
  obtain ⟨resp, hpush, hused⟩ := Filled.pushAll_eq oob hroom
  have hnone : (localFilled junk 96).used = [] := Filled.used_empty 96 junk
  rw [hnone, List.nil_append] at hused
  have hloop := attrLoop_shows oob hfits'
    (m.getD 18 0).toNat (i + 2) (Nat.le_add_left _ _) r resp
  rw [hused] at hloop
  rw [hpush, pure_bind, ← hloop, bind_assoc]
  congr 1
  funext out
  rw [pure_bind, zclSend_eq]

end EzspSpi.Arrays

namespace EzspSpi

open Program

variable {σ : Type} [Kernel σ] (g : Globals) (p : Pins)

/-! ## Reading a response back -/

/-- A record off the front of a response: three bytes with the status
UNSUPPORTED_ATTRIBUTE, five for a number, five and its length for a string. -/
def readRecord : List Byte → Option ((BitVec 16 × AttrValue) × List Byte)
  | low :: high :: status :: rest =>
      if status = 0x86 then some ((le16 [low, high] 0, .unsupported), rest)
      else if status ≠ 0x00 then none
      else
        match rest with
        | type :: val :: rest =>
            if type ≠ 0x42 then
              some ((le16 [low, high] 0, .scalar type val), rest)
            else if val.toNat ≤ rest.length then
              some ((le16 [low, high] 0, .string (rest.take val.toNat)),
                rest.drop val.toNat)
            else none
        | _ => none
  | _ => none

/-- All records of a response, of which there are at most `fuel`. -/
def readRecords : (fuel : ℕ) → List Byte → Option (List (BitVec 16 × AttrValue))
  | _, [] => some []
  | 0, _ :: _ => none
  | fuel + 1, b :: bytes => do
      let (record, rest) ← readRecord (b :: bytes)
      let records ← readRecords fuel rest
      pure (record :: records)

/-- A value that its record tells apart. -/
def AttrValue.IsReadable : AttrValue → Prop
  | .unsupported => True
  | .scalar type _ => type ≠ 0x42
  | .string str => str.length < 256

theorem readRecord_recordBytes (id : BitVec 16) {value : AttrValue}
    (hvalue : value.IsReadable) (rest : List Byte) :
    readRecord (recordBytes id value ++ rest) = some ((id, value), rest) := by
  have hid : le16 [id.setWidth 8, (id >>> 8).setWidth 8] 0 = id :=
    le16_idBytes id []
  cases value with
  | unsupported => simp [recordBytes, unsupportedRecord, readRecord, hid]
  | scalar type val =>
      have htype : type ≠ 0x42 := hvalue
      simp only [recordBytes, scalarRecord, List.cons_append, List.nil_append,
        readRecord, hid, if_pos htype]
      rfl
  | string str =>
      have hlength : (BitVec.ofNat 8 str.length).toNat = str.length :=
        Nat.mod_eq_of_lt hvalue
      simp only [recordBytes, stringRecord, List.cons_append, List.nil_append,
        readRecord, hid, hlength, List.length_append, List.take_left,
        List.drop_left]
      simp

/-- Whole records are read back as they are. -/
theorem readRecords_flatMap {records : List (BitVec 16 × AttrValue)}
    (hreadable : ∀ record ∈ records, record.2.IsReadable) {fuel : ℕ}
    (hfuel : records.length ≤ fuel) :
    readRecords fuel (records.flatMap fun record =>
      recordBytes record.1 record.2) = some records := by
  induction records generalizing fuel with
  | nil => cases fuel <;> rfl
  | cons record records ih =>
      obtain ⟨fuel, rfl⟩ : ∃ n, fuel = n + 1 :=
        Nat.exists_eq_succ_of_ne_zero (Nat.ne_zero_of_lt hfuel)
      obtain ⟨id, value⟩ := record
      have hread := readRecord_recordBytes id
        (hreadable _ List.mem_cons_self)
        (records.flatMap fun record => recordBytes record.1 record.2)
      have hrest := ih (fun record hrecord =>
        hreadable record (List.mem_cons_of_mem _ hrecord))
        (Nat.le_of_succ_le_succ hfuel)
      obtain ⟨b, bytes, hcons⟩ : ∃ b bytes, recordBytes id value ++
          records.flatMap (fun record => recordBytes record.1 record.2) =
            b :: bytes := by
        cases value <;> exact ⟨_, _, rfl⟩
      rw [List.flatMap_cons, hcons, readRecords, ← hcons, hread]
      simp [hrest]

/-- The header of a response to a request, with whole records behind it for
some of the attributes asked for, in their order. -/
structure ResponseTo (seq : Byte) (ids : List (BitVec 16))
    (resp : List Byte) : Prop where
  length_le : resp.length ≤ 96
  header : resp.take 3 = [0x18, seq, 0x01]
  records : ∃ records, readRecords resp.length (resp.drop 3) = some records ∧
    resp.drop 3 = (records.flatMap fun record =>
      recordBytes record.1 record.2) ∧
    (records.map Prod.fst).Sublist ids

/-- There are no more records than bytes, and none is longer than all. -/
private theorem records_le (records : List (BitVec 16 × AttrValue)) :
    records.length ≤ (records.flatMap fun record =>
        recordBytes record.1 record.2).length ∧
      ∀ record ∈ records, record.2.size ≤ (records.flatMap fun record =>
        recordBytes record.1 record.2).length := by
  induction records with
  | nil => exact ⟨le_rfl, fun _ h => absurd h List.not_mem_nil⟩
  | cons record records ih =>
      obtain ⟨hcount, hsizes⟩ := ih
      have hpos : 1 ≤ record.2.size := by
        cases record.2 <;> simp only [AttrValue.size] <;> omega
      rw [List.flatMap_cons, List.length_append, length_recordBytes,
        List.length_cons]
      refine ⟨by omega, ?_⟩
      intro other hother
      rcases List.mem_cons.mp hother with rfl | hother
      · exact Nat.le_add_right _ _
      · exact (hsizes other hother).trans (Nat.le_add_left _ _)

private theorem basicValue_readable {location : List Byte} {id : BitVec 16}
    (hsize : (basicValue location id).size ≤ 96) :
    (basicValue location id).IsReadable := by
  cases hvalue : basicValue location id with
  | unsupported => trivial
  | scalar type val =>
      rw [basicValue] at hvalue
      change type ≠ 0x42
      split_ifs at hvalue <;> cases hvalue <;> decide
  | string str =>
      rw [hvalue] at hsize
      change 5 + str.length ≤ 96 at hsize
      change str.length < 256
      omega

/-- A response is built record by record. -/
theorem appendAttrs_yields (r : Router) (seq : Byte) (ids : List (BitVec 16)) :
    Yields (fun out => ResponseTo seq ids out.2)
      (appendAttrs r [0x18, seq, 0x01] ids : Host σ _) := by
  constructor
  intro s out hdone
  obtain ⟨_, records, _, _, _, hids, hresp, hlisted, _⟩ :=
    (appendAttrs_holds (C := anyRun) (fun _ _ => trivial) ids r
      [0x18, seq, 0x01] [] s).2.1 out hdone
  have hlength : out.2.length ≤ 96 := by
    rw [hresp]
    exact length_appendFitting _ (by simp) records
  obtain ⟨kept, hkept, hbytes⟩ := appendFitting_eq
    (fun record => recordBytes record.1 record.2) 96 [0x18, seq, 0x01] records
  rw [← hresp] at hbytes
  have hdrop : out.2.drop 3 = kept.flatMap fun record =>
      recordBytes record.1 record.2 := by
    rw [hbytes]
    rfl
  obtain ⟨hcount, hsizes⟩ := records_le kept
  rw [← hdrop, List.length_drop] at hcount hsizes
  have hreadable : ∀ record ∈ kept, record.2.IsReadable := by
    intro record hrecord
    obtain ⟨location, hvalue⟩ := hlisted record (hkept.subset hrecord)
    have hsmall := (hsizes record hrecord).trans
      ((Nat.sub_le _ _).trans hlength)
    rw [hvalue] at hsmall ⊢
    exact basicValue_readable hsmall
  refine ⟨hlength, ?_, kept, ?_, hdrop, ?_⟩
  · rw [hbytes]
    rfl
  · rw [hdrop]
    exact readRecords_flatMap hreadable (hcount.trans (Nat.sub_le _ _))
  · rw [← hids]
    exact hkept.map Prod.fst

/-- On any message every access of `zcl_handle_incoming` lies inside its array.
A message is ignored or answered with the response that is built, which has at
most 96 bytes after each attribute, and is made of whole records for some of
the attributes asked for, in their order. -/
theorem zclHandleIncoming_safe (r : Router) (m : List Byte) :
    (∀ (oob : ∀ β : Type, Host σ β) (junk : Byte),
      Arrays.zclHandleIncoming oob junk g p r m = zclHandleIncoming g p r m) ∧
    (¬TakenForRead m →
      (zclHandleIncoming g p r m : Host σ Router) = pure r) ∧
    (TakenForRead m → (zclHandleIncoming g p r m : Host σ Router) =
      appendAttrs r [0x18, requestSeq m, 0x01] (requestIds m) >>= fun out =>
        respondTo g p out.1 m out.2) ∧
    ∀ n, Yields
      (fun out => ResponseTo (requestSeq m) ((requestIds m).take n) out.2)
      (appendAttrs r [0x18, requestSeq m, 0x01] ((requestIds m).take n) :
        Host σ _) :=
  ⟨fun _ junk => Arrays.zclHandleIncoming_eq junk g p r m,
    zclHandleIncoming_of_not_taken g p r,
    zclHandleIncoming_of_taken g p r,
    fun _ => appendAttrs_yields r _ _⟩

end EzspSpi
