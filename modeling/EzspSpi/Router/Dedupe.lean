import EzspSpi.Core.Grouping
import EzspSpi.Router.ScanPage
import Mathlib.Data.List.TakeWhile

/-!
# The rows of the scan page

A network answers a scan once for each of its routers.  The page collapses the
records by channel and pan id, and what it shows for a network depends on which
records there are for it and not on their order.
-/

namespace EzspSpi

open Program

/-! ## The page -/

/-- A row of the page. -/
structure ScanEntry where
  channel : Int
  panId : List Byte
  extPanId : List Byte
  joinable : Bool
  lqi : Int
  rssi : Int
  seen : ℕ
  deriving DecidableEq, Repr

def ScanEntry.first (n : ScanRecord) : ScanEntry where
  channel := n.channel
  panId := n.panId
  extPanId := n.extPanId
  joinable := n.joinable
  lqi := n.lqi
  rssi := n.rssi
  seen := 1

/-- One more record of the network. -/
def ScanEntry.merge (e : ScanEntry) (n : ScanRecord) : ScanEntry :=
  let e := { e with
    seen := e.seen + 1, joinable := e.joinable || n.joinable }
  if n.lqi > e.lqi then { e with lqi := n.lqi, rssi := n.rssi } else e

namespace ScanRecord

/-- `n.channel + '/' + n.pan_id`. -/
def key (n : ScanRecord) : List Byte :=
  signedText n.channel ++ ascii "/" ++ n.panId

/-- `by`, with its keys in the order in which they came. -/
def entries (list : List ScanRecord) : List (List Byte × ScanEntry) :=
  grouped key ScanEntry.first ScanEntry.merge list

/-- `dedupe`. -/
def dedupe (list : List ScanRecord) : List ScanEntry :=
  (entries list).map Prod.snd

/-- The network a record is of. -/
def network (n : ScanRecord) : Int × List Byte := (n.channel, n.panId)

end ScanRecord

def ScanEntry.network (e : ScanEntry) : Int × List Byte :=
  (e.channel, e.panId)

/-- What a row shows, but for what depends on the order. -/
def ScanEntry.shown (e : ScanEntry) : Int × List Byte × ℕ × Bool × Int :=
  (e.channel, e.panId, e.seen, e.joinable, e.lqi)

/-! ## The key -/

/-- The number ends at the first slash. -/
theorem ScanRecord.key_eq_iff (n n' : ScanRecord) :
    n.key = n'.key ↔ n.network = n'.network := by
  have hdigit : ∀ d < 10,
      BitVec.ofNat 8 d.digitChar.toNat ≠ (0x2F : Byte) := by decide
  have hfront (n : ScanRecord) :
      n.key.takeWhile (fun c => decide (c ≠ 0x2F)) = signedText n.channel ∧
        n.key.dropWhile (fun c => decide (c ≠ 0x2F)) = 0x2F :: n.panId := by
    have hnumber := forall_mem_signedText (P := (· ≠ 0x2F)) (by decide)
      hdigit n.channel
    have hkey : n.key = signedText n.channel ++ 0x2F :: n.panId :=
      List.append_assoc _ _ _
    have hall : ∀ c ∈ signedText n.channel, decide (c ≠ 0x2F) = true :=
      fun c hc => decide_eq_true (hnumber c hc)
    rw [hkey, List.takeWhile_append_of_pos hall,
      List.dropWhile_append_of_pos hall]
    simp
  constructor
  · intro hkey
    have hnumber := (hfront n).1
    have hpan := (hfront n).2
    rw [hkey, (hfront n').1] at hnumber
    rw [hkey, (hfront n').2, List.cons_eq_cons] at hpan
    rw [network, network, signedText_injective hnumber, hpan.2]
  · intro hnetwork
    obtain ⟨hchannel, hpan⟩ := Prod.mk.inj hnetwork
    rw [key, key, hchannel, hpan]

/-! ## An entry and its records -/

/-- What an entry says about the records of its network. -/
structure ScanEntry.Sums (e : ScanEntry) (group : List ScanRecord) :
    Prop where
  seen : e.seen = group.length
  joinable : e.joinable = true ↔ ∃ n ∈ group, n.joinable = true
  most : ∀ n ∈ group, n.lqi ≤ e.lqi
  heard : ∃ n ∈ group, n.lqi = e.lqi ∧ n.rssi = e.rssi

namespace ScanEntry

@[simp]
theorem merge_seen (e : ScanEntry) (n : ScanRecord) :
    (e.merge n).seen = e.seen + 1 := by
  rw [merge]
  split <;> rfl

@[simp]
theorem merge_joinable (e : ScanEntry) (n : ScanRecord) :
    (e.merge n).joinable = (e.joinable || n.joinable) := by
  rw [merge]
  split <;> rfl

@[simp]
theorem merge_network (e : ScanEntry) (n : ScanRecord) :
    (e.merge n).network = e.network := by
  rw [merge]
  split <;> rfl

/-- The better signal stays, and the earlier of two that are as good. -/
theorem merge_lqi (e : ScanEntry) (n : ScanRecord) :
    (e.merge n).lqi = if n.lqi > e.lqi then n.lqi else e.lqi := by
  rw [merge]
  split <;> rfl

theorem merge_rssi (e : ScanEntry) (n : ScanRecord) :
    (e.merge n).rssi = if n.lqi > e.lqi then n.rssi else e.rssi := by
  rw [merge]
  split <;> rfl

theorem sums_first (n : ScanRecord) : (first n).Sums [n] where
  seen := rfl
  joinable := by simp [first]
  most := by simp [first]
  heard := ⟨n, List.mem_singleton_self n, rfl, rfl⟩

theorem Sums.merge {e : ScanEntry} {group : List ScanRecord}
    (hsums : e.Sums group) (n : ScanRecord) :
    (e.merge n).Sums (group ++ [n]) where
  seen := by rw [merge_seen, hsums.seen, List.length_append]; rfl
  joinable := by
    rw [merge_joinable, Bool.or_eq_true, hsums.joinable]
    simp only [List.mem_append, List.mem_singleton, or_and_right, exists_or,
      exists_eq_left]
  most := by
    intro n' hn'
    rw [merge_lqi]
    rcases List.mem_append.mp hn' with hn' | hn'
    · have hle := hsums.most n' hn'
      split <;> omega
    · rw [List.mem_singleton.mp hn']
      split <;> omega
  heard := by
    rw [merge_lqi, merge_rssi]
    by_cases hbetter : n.lqi > e.lqi
    · rw [if_pos hbetter, if_pos hbetter]
      exact ⟨n, List.mem_concat_self, rfl, rfl⟩
    · obtain ⟨n', hn', hheard⟩ := hsums.heard
      rw [if_neg hbetter, if_neg hbetter]
      exact ⟨n', List.mem_append_left _ hn', hheard⟩

theorem sums_foldl (n : ScanRecord) (group : List ScanRecord) :
    (group.foldl merge (first n)).Sums (n :: group) ∧
      (group.foldl merge (first n)).network = n.network := by
  induction group using List.reverseRecOn with
  | nil => exact ⟨sums_first n, rfl⟩
  | append_singleton group n' ih =>
      rw [List.foldl_append]
      exact ⟨ih.1.merge n', (merge_network _ n').trans ih.2⟩

end ScanEntry

/-! ## The table -/

/-- The records of a network. -/
def recordsOf (network : Int × List Byte) (list : List ScanRecord) :
    List ScanRecord := list.filter fun n => decide (n.network = network)

/-- One entry for each network of the list, which sums up its records. -/
structure Summarizes (entries : List ScanEntry) (list : List ScanRecord) :
    Prop where
  nodup : (entries.map ScanEntry.network).Nodup
  mem_iff : ∀ network, network ∈ entries.map ScanEntry.network ↔
    network ∈ list.map ScanRecord.network
  seen : (entries.map ScanEntry.seen).sum = list.length
  sums : ∀ e ∈ entries, e.Sums (recordsOf e.network list)

namespace ScanRecord

theorem groupOf_key (n : ScanRecord) (list : List ScanRecord) :
    groupOf key n.key list = recordsOf n.network list := by
  rw [groupOf, recordsOf]
  exact List.filter_congr fun n' _ =>
    decide_eq_decide.mpr (n'.key_eq_iff n)

/-- An entry is in the table under the key of its network. -/
theorem entries_spec {list : List ScanRecord} {k : List Byte} {e : ScanEntry}
    (he : (k, e) ∈ entries list) :
    ∃ n ∈ list, n.key = k ∧ e.network = n.network ∧
      e.Sums (recordsOf e.network list) := by
  have hgroup := (mem_grouped_iff list).mp he
  cases hrecords : groupOf key k list with
  | nil =>
      rw [hrecords] at hgroup
      cases hgroup
  | cons n group =>
      rw [hrecords] at hgroup
      have hfold : group.foldl ScanEntry.merge (ScanEntry.first n) = e :=
        Option.some.inj hgroup
      obtain ⟨hsums, hnetwork⟩ := ScanEntry.sums_foldl n group
      have hn : n ∈ groupOf key k list := by
        rw [hrecords]
        exact List.mem_cons_self
      obtain ⟨hmem, hkey⟩ := mem_groupOf.mp hn
      rw [hfold] at hsums hnetwork
      rw [← hkey, groupOf_key, ← hnetwork] at hrecords
      exact ⟨n, hmem, hkey, hnetwork, hrecords ▸ hsums⟩

theorem mem_dedupe {list : List ScanRecord} {e : ScanEntry} :
    e ∈ dedupe list ↔ ∃ k, (k, e) ∈ entries list := by
  rw [dedupe, List.mem_map]
  exact ⟨fun ⟨⟨k, _⟩, h, heq⟩ => ⟨k, heq ▸ h⟩, fun ⟨k, h⟩ => ⟨(k, e), h, rfl⟩⟩

/-- No network has two entries, as no key has. -/
theorem nodup_networks (list : List ScanRecord) :
    ((dedupe list).map ScanEntry.network).Nodup := by
  let keyOf (network : Int × List Byte) : List Byte :=
    signedText network.1 ++ ascii "/" ++ network.2
  have hkeys : (entries list).map Prod.fst =
      ((dedupe list).map ScanEntry.network).map keyOf := by
    rw [dedupe, List.map_map, List.map_map]
    apply List.map_congr_left
    rintro ⟨k, e⟩ he
    obtain ⟨n, -, rfl, hnetwork, -⟩ := entries_spec he
    exact (congrArg keyOf hnetwork).symm
  apply List.Nodup.of_map keyOf
  rw [← hkeys]
  exact nodup_grouped list

theorem mem_networks_iff (list : List ScanRecord) (network : Int × List Byte) :
    network ∈ (dedupe list).map ScanEntry.network ↔
      network ∈ list.map ScanRecord.network := by
  rw [List.mem_map, List.mem_map]
  constructor
  · rintro ⟨e, he, rfl⟩
    obtain ⟨k, hk⟩ := mem_dedupe.mp he
    obtain ⟨n, hn, -, hnetwork, -⟩ := entries_spec hk
    exact ⟨n, hn, hnetwork.symm⟩
  · rintro ⟨n, hn, rfl⟩
    have hkey : n.key ∈ (entries list).map Prod.fst :=
      (mem_keys_grouped list).mpr ⟨n, hn, rfl⟩
    obtain ⟨⟨k, e⟩, he, hk⟩ := List.mem_map.mp hkey
    obtain ⟨n', -, hkey', hnetwork, -⟩ := entries_spec he
    refine ⟨e, mem_dedupe.mpr ⟨k, he⟩, hnetwork.trans ?_⟩
    exact (n'.key_eq_iff n).mp (hkey'.trans hk)

theorem summarizes_dedupe (list : List ScanRecord) :
    Summarizes (dedupe list) list where
  nodup := nodup_networks list
  mem_iff := mem_networks_iff list
  seen := by
    rw [dedupe, List.map_map]
    exact sum_grouped ScanEntry.seen (fun _ => rfl) ScanEntry.merge_seen list
  sums e he := by
    obtain ⟨k, hk⟩ := mem_dedupe.mp he
    obtain ⟨-, -, -, -, hsums⟩ := entries_spec hk
    exact hsums

end ScanRecord

/-! ## In any order -/

/-- Two entries that sum up the same records, in whatever order, show the
same. -/
theorem ScanEntry.Sums.shown_eq {e e' : ScanEntry}
    {group group' : List ScanRecord} (hsums : e.Sums group)
    (hsums' : e'.Sums group') (hperm : group.Perm group')
    (hnetwork : e.network = e'.network) : e.shown = e'.shown := by
  obtain ⟨hchannel, hpan⟩ := Prod.mk.inj hnetwork
  have hseen : e.seen = e'.seen := by
    rw [hsums.seen, hsums'.seen, hperm.length_eq]
  have hjoin : e.joinable = e'.joinable := by
    rw [Bool.eq_iff_iff, hsums.joinable, hsums'.joinable]
    simp only [hperm.mem_iff]
  have hlqi : e.lqi = e'.lqi := by
    obtain ⟨n, hn, hheard, -⟩ := hsums.heard
    obtain ⟨n', hn', hheard', -⟩ := hsums'.heard
    have hle := hsums'.most n (hperm.mem_iff.mp hn)
    have hle' := hsums.most n' (hperm.mem_iff.mpr hn')
    omega
  rw [ScanEntry.shown, ScanEntry.shown, hchannel, hpan, hseen, hjoin, hlqi]

theorem Summarizes.shown_mem {entries entries' : List ScanEntry}
    {list list' : List ScanRecord} (h : Summarizes entries list)
    (h' : Summarizes entries' list') (hperm : list.Perm list')
    {x : Int × List Byte × ℕ × Bool × Int}
    (hx : x ∈ entries.map ScanEntry.shown) :
    x ∈ entries'.map ScanEntry.shown := by
  obtain ⟨e, he, rfl⟩ := List.mem_map.mp hx
  have hnetwork : e.network ∈ entries'.map ScanEntry.network := by
    rw [h'.mem_iff, ← (hperm.map ScanRecord.network).mem_iff, ← h.mem_iff]
    exact List.mem_map_of_mem he
  obtain ⟨e', he', hsame⟩ := List.mem_map.mp hnetwork
  have hgroup : (recordsOf e.network list).Perm
      (recordsOf e'.network list') := by
    rw [hsame]
    exact hperm.filter _
  refine List.mem_map.mpr ⟨e', he', ?_⟩
  exact ((h.sums e he).shown_eq (h'.sums e' he') hgroup hsame.symm).symm

/-! ## The rows of the beacons -/

/-- A beacon as the text of the scan has it. -/
def ScanRecord.ofBeacon (n : Beacon) : ScanRecord where
  channel := n.channel.toNat
  panId := ascii "0x" ++
    hexWord (n.panId.setWidth 8) ((n.panId >>> 8).setWidth 8)
  extPanId := colonText n.extPanId
  joinable := n.joinable
  lqi := n.lqi.toNat
  rssi := n.rssi.toInt

/-- A row of the beacons as the page has it. -/
def ScanEntry.ofRow (row : NetworkRow) : ScanEntry where
  channel := row.channel.toNat
  panId := ascii "0x" ++
    hexWord (row.panId.setWidth 8) ((row.panId >>> 8).setWidth 8)
  extPanId := colonText row.extPanId
  joinable := row.joinable
  lqi := row.lqi.toNat
  rssi := row.rssi.toInt
  seen := row.seen

theorem hexWord_halves_injective {id id' : BitVec 16}
    (h : hexWord (id.setWidth 8) ((id >>> 8).setWidth 8) =
      hexWord (id'.setWidth 8) ((id' >>> 8).setWidth 8)) : id = id' := by
  obtain ⟨hhigh, hlow⟩ := List.append_inj h rfl
  have hlow' := congrArg BitVec.toNat (hexByte_injective hlow)
  have hhigh' := congrArg BitVec.toNat (hexByte_injective hhigh)
  have hid := id.isLt
  have hid' := id'.isLt
  simp only [BitVec.toNat_setWidth, BitVec.toNat_ushiftRight,
    Nat.shiftRight_eq_div_pow] at hlow' hhigh'
  exact BitVec.eq_of_toNat_eq (by omega)

theorem ScanEntry.network_ofRow_eq_iff (row : NetworkRow) (n : Beacon) :
    (ScanEntry.ofRow row).network = (ScanRecord.ofBeacon n).network ↔
      row.IsOf n := by
  constructor
  · intro h
    obtain ⟨hchannel, hpan⟩ := Prod.mk.inj h
    refine ⟨BitVec.eq_of_toNat_eq (Int.ofNat_inj.mp hchannel), ?_⟩
    exact hexWord_halves_injective (List.append_cancel_left hpan)
  · rintro ⟨hchannel, hpan⟩
    rw [ScanEntry.network, ScanRecord.network, ScanEntry.ofRow,
      ScanRecord.ofBeacon, hchannel, hpan]

theorem ScanEntry.ofRow_merge (row : NetworkRow) (n : Beacon) :
    ScanEntry.ofRow (row.merge n) =
      (ScanEntry.ofRow row).merge (ScanRecord.ofBeacon n) := by
  have hlqi : (n.lqi.toNat : Int) > row.lqi.toNat ↔ n.lqi > row.lqi :=
    Int.ofNat_lt.trans BitVec.lt_def.symm
  rw [NetworkRow.merge, ScanEntry.merge]
  by_cases hbetter : n.lqi > row.lqi
  · have hbetter' := hlqi.mpr hbetter
    simp [ScanEntry.ofRow, ScanRecord.ofBeacon, hbetter, hbetter']
  · have hbetter' := mt hlqi.mp hbetter
    simp [ScanEntry.ofRow, ScanRecord.ofBeacon, hbetter, hbetter']

namespace ScanRecord

/-- The entry of a row, under its key. -/
def entryOfRow (row : NetworkRow) : List Byte × ScanEntry :=
  (signedText row.channel.toNat ++ ascii "/" ++ (ScanEntry.ofRow row).panId,
    ScanEntry.ofRow row)

theorem entryOfRow_key_iff (row : NetworkRow) (n : Beacon) :
    (entryOfRow row).1 = (ofBeacon n).key ↔ row.IsOf n := by
  have hrow : (entryOfRow row).1 =
      key ⟨row.channel.toNat, (ScanEntry.ofRow row).panId, [], false, 0, 0⟩ :=
    rfl
  rw [hrow, key_eq_iff]
  exact ScanEntry.network_ofRow_eq_iff row n

theorem entries_concat (list : List ScanRecord) (n : ScanRecord) :
    entries (list ++ [n]) =
      upsert n.key (ScanEntry.first n) (ScanEntry.merge · n) (entries list) :=
  grouped_concat _ _ _ list n

/-- The table of the page is that of the rows of the beacons. -/
theorem entries_ofBeacon (list : List Beacon) :
    entries (list.map ofBeacon) = (EzspSpi.dedupe list).map entryOfRow := by
  induction list using List.reverseRecOn with
  | nil => rfl
  | append_singleton list n ih =>
      have hstep : EzspSpi.dedupe (list ++ [n]) =
          dedupeStep (EzspSpi.dedupe list) n := by
        rw [EzspSpi.dedupe, List.foldl_append]
        rfl
      have hnodup : ((entries (list.map ofBeacon)).map Prod.fst).Nodup :=
        nodup_grouped _
      have hknown : (ofBeacon n).key ∈
          ((EzspSpi.dedupe list).map entryOfRow).map Prod.fst ↔
          ∃ row ∈ EzspSpi.dedupe list, row.IsOf n := by
        simp only [List.mem_map, exists_exists_and_eq_and, entryOfRow_key_iff]
      rw [List.map_append, List.map_singleton, entries_concat,
        upsert_eq hnodup, ih, hstep, dedupeStep]
      by_cases hin : ∃ row ∈ EzspSpi.dedupe list, row.IsOf n
      · rw [if_pos (hknown.mpr hin), if_pos hin, List.map_map, List.map_map]
        apply List.map_congr_left
        intro row _
        by_cases hof : row.IsOf n
        · have hentry : entryOfRow (row.merge n) =
              ((entryOfRow row).1,
                (ScanEntry.ofRow row).merge (ofBeacon n)) := by
            rw [← ScanEntry.ofRow_merge, entryOfRow, entryOfRow,
              NetworkRow.merge]
            split <;> rfl
          rw [Function.comp_apply, Function.comp_apply,
            if_pos ((entryOfRow_key_iff row n).mpr hof), if_pos hof, hentry]
          rfl
        · rw [Function.comp_apply, Function.comp_apply,
            if_neg (mt (entryOfRow_key_iff row n).mp hof), if_neg hof]
      · rw [if_neg (mt hknown.mp hin), if_neg hin, List.map_append]
        rfl

/-- The page makes of the records what `dedupe` makes of the beacons. -/
theorem dedupe_ofBeacon (list : List Beacon) :
    dedupe (list.map ofBeacon) =
      (EzspSpi.dedupe list).map ScanEntry.ofRow := by
  rw [dedupe, entries_ofBeacon, List.map_map]
  rfl

end ScanRecord

/-! ## From the radio to the page -/

theorem le16_halves (low high : Byte) :
    ((low.setWidth 16 ||| high.setWidth 16 <<< 8 : BitVec 16).setWidth 8 =
      low) ∧
    ((low.setWidth 16 ||| high.setWidth 16 <<< 8 : BitVec 16) >>> 8).setWidth 8
      = high := by
  constructor
  · apply BitVec.eq_of_getLsbD_eq
    intro i hi
    simp [hi]
  · apply BitVec.eq_of_getLsbD_eq
    intro i hi
    simp [BitVec.getLsbD_setWidth]
    grind

theorem ScanRecord.ofFound_eq {out : List Byte} (hout : 11 ≤ out.length) :
    ScanRecord.ofFound out = ScanRecord.ofBeacon (beaconOf out) := by
  have hext : foundExtPanId out = (out.drop 3).take 8 := by
    apply List.ext_getElem
    · simp only [foundExtPanId, List.length_map, List.length_range,
        List.length_take, List.length_drop]
      omega
    · intro j hj _
      have hj' : j < 8 := by simpa [foundExtPanId] using hj
      have hlt : j + 3 < out.length := by omega
      simp only [foundExtPanId, List.getElem_map, List.getElem_range,
        List.getElem_take, List.getElem_drop, Nat.add_comm 3]
      exact (List.getElem_eq_getD 0).symm
  obtain ⟨hlow, hhigh⟩ := le16_halves (out.getD 1 0) (out.getD 2 0)
  rw [ScanRecord.ofFound, ScanRecord.ofBeacon, beaconOf, hext]
  dsimp only [le16]
  rw [hlow, hhigh]

/-- A buffer that is written into does not get shorter. -/
theorem networksHeard_length {out : List Byte} (hout : 11 ≤ out.length)
    (polled : List Polled) :
    ∀ heard ∈ networksHeard out polled, 11 ≤ heard.length := by
  induction polled generalizing out with
  | nil => exact List.forall_mem_nil _
  | cons result polled ih =>
      obtain ⟨id, payload⟩ := result
      have hnext : 11 ≤ (overwrite out 0 payload).length := by
        simp only [overwrite, List.length_append, List.length_take,
          List.length_drop]
        omega
      rw [networksHeard]
      split
      · exact List.forall_mem_cons.mpr ⟨hnext, ih hnext⟩
      · split
        · exact List.forall_mem_nil _
        · exact ih hnext

section Loop

variable {σ : Type} [Kernel σ] (g : Globals) (p : Pins)

/-- What the page shows after a scan are the rows of the beacons that its polls
have brought. -/
theorem scanRounds_rows {r : Router} {out : List Byte}
    (hout : 11 ≤ out.length) {s : σ} {found : ℕ} {lines output : List Line}
    (hlines : (scanRounds g p 240 0 r out s).outcome = .done (found, lines))
    (houtput : Interleaved IsDiagnostic lines output) :
    ∃ heard, (scanWindow g p 240 r out s).outcome = .done heard ∧
      ScanRecord.dedupe (emitScan (unlines 0x0A output)) =
        (dedupe heard).map ScanEntry.ofRow := by
  obtain ⟨polled, hpolled, hpage⟩ := scanRounds_page g p hlines houtput
  have hrecords : (networksHeard out polled).map ScanRecord.ofFound =
      ((networksHeard out polled).map beaconOf).map ScanRecord.ofBeacon := by
    rw [List.map_map]
    exact List.map_congr_left fun heard h =>
      ScanRecord.ofFound_eq (networksHeard_length hout polled heard h)
  refine ⟨(networksHeard out polled).map beaconOf, ?_, ?_⟩
  · rw [scanWindow_eq, bind_apply, Run.andThen_of_done hpolled]
    rfl
  · rw [hpage, hrecords, ScanRecord.dedupe_ofBeacon]

end Loop

/-- The page sums up the records of each network in an entry of its own, and
what it shows is the same for every order of the records. -/
theorem dedupe_summarizes :
    (∀ list, Summarizes (ScanRecord.dedupe list) list) ∧
    ∀ list list' : List ScanRecord, list.Perm list' →
      {x | x ∈ (ScanRecord.dedupe list).map ScanEntry.shown} =
        {x | x ∈ (ScanRecord.dedupe list').map ScanEntry.shown} := by
  refine ⟨ScanRecord.summarizes_dedupe, fun list list' hperm => ?_⟩
  have h := ScanRecord.summarizes_dedupe list
  have h' := ScanRecord.summarizes_dedupe list'
  ext x
  exact ⟨h.shown_mem h' hperm, h'.shown_mem h hperm.symm⟩

/-- Three records of two networks. -/
def threeRecords : List ScanRecord :=
  [⟨11, ascii "0x1A62", [], false, 200, -64⟩,
    ⟨25, ascii "0xCAFE", [], true, 90, -80⟩,
    ⟨11, ascii "0x1A62", [], true, 180, -70⟩]

theorem dedupe_summarizes_three :
    threeRecords.Perm threeRecords.reverse ∧
    {x | x ∈ (ScanRecord.dedupe threeRecords).map ScanEntry.shown} =
      {x | x ∈ (ScanRecord.dedupe threeRecords.reverse).map
        ScanEntry.shown} ∧
    Summarizes [⟨11, ascii "0x1A62", [], true, 200, -64, 2⟩,
      ⟨25, ascii "0xCAFE", [], true, 90, -80, 1⟩] threeRecords := by
  have hperm : threeRecords.Perm threeRecords.reverse :=
    (List.reverse_perm threeRecords).symm
  have hrows : ScanRecord.dedupe threeRecords =
      [⟨11, ascii "0x1A62", [], true, 200, -64, 2⟩,
        ⟨25, ascii "0xCAFE", [], true, 90, -80, 1⟩] := by decide +kernel
  exact ⟨hperm, dedupe_summarizes.2 _ _ hperm,
    hrows ▸ dedupe_summarizes.1 threeRecords⟩

end EzspSpi
