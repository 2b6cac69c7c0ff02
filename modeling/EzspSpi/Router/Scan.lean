import EzspSpi.Router.Codec
import Mathlib.Data.List.Induction

/-!
# The networks a scan hears

Every router of a network answers a scan with its own permit-join flag.  The
page of the scan merges their answers, where `scan_find` stops at the first, so
that the two agree on whether a network can be joined exactly if the first
answer allows it or none does.
-/

namespace EzspSpi

open Program

variable {σ : Type} [Kernel σ] (g : Globals) (p : Pins)

/-- What a `networkFoundHandler` tells, as it stands in the buffer. -/
structure Beacon where
  channel : Byte
  panId : BitVec 16
  extPanId : List Byte
  joinable : Bool
  nwkUpdateId : Byte
  lqi : Byte
  rssi : Byte
  deriving DecidableEq, Repr

def beaconOf (out : List Byte) : Beacon where
  channel := out.getD 0 0
  panId := le16 out 1
  extPanId := (out.drop 3).take 8
  joinable := decide (out.getD 11 0 ≠ 0)
  nwkUpdateId := out.getD 13 0
  lqi := out.getD 14 0
  rssi := out.getD 15 0

/-! ## The page of the scan -/

/-- A row of the table: a network with the number of its answers. -/
structure NetworkRow where
  channel : Byte
  panId : BitVec 16
  extPanId : List Byte
  joinable : Bool
  lqi : Byte
  rssi : Byte
  seen : ℕ
  deriving DecidableEq, Repr

def NetworkRow.first (n : Beacon) : NetworkRow where
  channel := n.channel
  panId := n.panId
  extPanId := n.extPanId
  joinable := n.joinable
  lqi := n.lqi
  rssi := n.rssi
  seen := 1

/-- The row is that of the network, by channel and pan id. -/
def NetworkRow.IsOf (row : NetworkRow) (n : Beacon) : Prop :=
  row.channel = n.channel ∧ row.panId = n.panId

instance (row : NetworkRow) (n : Beacon) : Decidable (row.IsOf n) :=
  inferInstanceAs (Decidable (_ ∧ _))

/-- One more answer of the network. -/
def NetworkRow.merge (row : NetworkRow) (n : Beacon) : NetworkRow :=
  let row := { row with
    seen := row.seen + 1, joinable := row.joinable || n.joinable }
  if n.lqi > row.lqi then { row with lqi := n.lqi, rssi := n.rssi } else row

def dedupeStep (rows : List NetworkRow) (n : Beacon) : List NetworkRow :=
  if ∃ row ∈ rows, row.IsOf n then
    rows.map fun row => if row.IsOf n then row.merge n else row
  else rows ++ [NetworkRow.first n]

/-- `dedupe` of the page. -/
def dedupe (list : List Beacon) : List NetworkRow := list.foldl dedupeStep []

/-- The page shows the network as one that can be joined. -/
def ShownJoinable (panId : BitVec 16) (rows : List NetworkRow) : Prop :=
  ∃ row ∈ rows, row.panId = panId ∧ row.joinable = true

/-- One of the answers for this pan id allows joining. -/
def AnyJoinable (panId : BitVec 16) (list : List Beacon) : Prop :=
  ∃ n ∈ list, n.panId = panId ∧ n.joinable = true

instance (panId : BitVec 16) (rows : List NetworkRow) :
    Decidable (ShownJoinable panId rows) :=
  inferInstanceAs (Decidable (∃ row ∈ rows, _))

instance (panId : BitVec 16) (list : List Beacon) :
    Decidable (AnyJoinable panId list) :=
  inferInstanceAs (Decidable (∃ n ∈ list, _))

theorem NetworkRow.merge_panId (row : NetworkRow) (n : Beacon) :
    (row.merge n).panId = row.panId := by
  rw [NetworkRow.merge]
  split <;> rfl

theorem NetworkRow.merge_joinable (row : NetworkRow) (n : Beacon) :
    (row.merge n).joinable = (row.joinable || n.joinable) := by
  rw [NetworkRow.merge]
  split <;> rfl

/-- An answer makes a network joinable if it allows joining itself. -/
theorem shownJoinable_step (panId : BitVec 16) (rows : List NetworkRow)
    (n : Beacon) :
    ShownJoinable panId (dedupeStep rows n) ↔
      ShownJoinable panId rows ∨ n.panId = panId ∧ n.joinable = true := by
  rw [dedupeStep]
  split
  · rename_i hknown
    obtain ⟨known, hmem, hof⟩ := hknown
    constructor
    · rintro ⟨_, hmerged, hpan, hjoin⟩
      obtain ⟨row, hrow, rfl⟩ := List.mem_map.mp hmerged
      by_cases hrowOf : row.IsOf n
      · rw [if_pos hrowOf, NetworkRow.merge_panId] at hpan
        rw [if_pos hrowOf, NetworkRow.merge_joinable, Bool.or_eq_true] at hjoin
        rcases hjoin with hjoin | hjoin
        · exact Or.inl ⟨row, hrow, hpan, hjoin⟩
        · exact Or.inr ⟨hrowOf.2.symm.trans hpan, hjoin⟩
      · rw [if_neg hrowOf] at hpan hjoin
        exact Or.inl ⟨row, hrow, hpan, hjoin⟩
    · rintro (⟨row, hrow, hpan, hjoin⟩ | ⟨hpan, hjoin⟩)
      · refine ⟨_, List.mem_map_of_mem hrow, ?_⟩
        split
        · rw [NetworkRow.merge_panId, NetworkRow.merge_joinable, hjoin]
          exact ⟨hpan, rfl⟩
        · exact ⟨hpan, hjoin⟩
      · refine ⟨_, List.mem_map_of_mem hmem, ?_⟩
        rw [if_pos hof, NetworkRow.merge_panId, NetworkRow.merge_joinable,
          hjoin, Bool.or_true]
        exact ⟨hof.2.trans hpan, rfl⟩
  · constructor
    · rintro ⟨row, hrow, hpan, hjoin⟩
      rcases List.mem_append.mp hrow with hrow | hrow
      · exact Or.inl ⟨row, hrow, hpan, hjoin⟩
      · obtain rfl := List.mem_singleton.mp hrow
        exact Or.inr ⟨hpan, hjoin⟩
    · rintro (⟨row, hrow, hpan, hjoin⟩ | ⟨hpan, hjoin⟩)
      · exact ⟨row, List.mem_append_left _ hrow, hpan, hjoin⟩
      · exact ⟨_, List.mem_append_right _ (List.mem_singleton_self _), hpan,
          hjoin⟩

/-- The page merges the answers by whether any of them allows joining. -/
theorem shownJoinable_dedupe (panId : BitVec 16) (list : List Beacon) :
    ShownJoinable panId (dedupe list) ↔ AnyJoinable panId list := by
  induction list using List.reverseRecOn with
  | nil => simp [dedupe, ShownJoinable, AnyJoinable]
  | append_singleton list n ih =>
      have hstep : dedupe (list ++ [n]) = dedupeStep (dedupe list) n := by
        rw [dedupe, List.foldl_append]
        rfl
      rw [hstep, shownJoinable_step, ih, AnyJoinable, AnyJoinable]
      simp only [List.mem_append, List.mem_singleton, or_and_right, exists_or,
        exists_eq_left]

/-! ## What a scan is going to hear -/

/-- The beacons that so many polls bring until the scan is complete: the polls
of `scan_find`, but to the end. -/
def scanWindow : (polls : ℕ) → Router → (out : List Byte) →
    Host σ (List Beacon)
  | 0, _, _ => pure []
  | polls + 1, r, out => do
      let (r, id, payload) ← ezspPollCallback g p r 64
      let out := overwrite out 0 payload
      if id = ezspNetworkFoundHandler then do
        let later ← scanWindow polls r out
        pure (beaconOf out :: later)
      else if id = ezspScanCompleteHandler then pure []
      else scanWindow polls r out

/-- The beacons of the whole scan, and none of one that is refused. -/
def scanHeard (r : Router) (channel : BitVec 32) (out : List Byte) :
    Host σ (Option (List Beacon)) := do
  let params := scanParams (1 <<< channel.toNat) 3
  let (r, reply) ← ezspCmd g p r ezspStartScan params 64
  if status? reply ≠ some emberSuccess then pure none
  else do
    let heard ← scanWindow g p 80 r (overwrite out 0 (reply.getD []))
    pure (some heard)

/-- What `scan_find` takes from the beacons: the first one for the pan id. -/
def firstFound (panId : BitVec 16) (heard : List Beacon) : ScanResult :=
  match heard.find? fun n => decide (n.panId = panId) with
  | none => .notFound
  | some n => .found n.extPanId n.joinable n.nwkUpdateId

theorem firstFound_cons (panId : BitVec 16) (n : Beacon) (heard : List Beacon) :
    firstFound panId (n :: heard) =
      if n.panId = panId then .found n.extPanId n.joinable n.nwkUpdateId
      else firstFound panId heard := by
  rw [firstFound]
  by_cases hpan : n.panId = panId
  · rw [List.find?_cons_of_pos (by simpa using hpan), if_pos hpan]
  · rw [List.find?_cons_of_neg (by simpa using hpan), if_neg hpan, firstFound]

theorem scanPolls_of_window (panId : BitVec 16) (polls : ℕ) (r : Router)
    (out : List Byte) (s : σ) {heard : List Beacon}
    (hheard : (scanWindow g p polls r out s).outcome = .done heard) :
    ∃ r', (scanPolls g p panId polls r out s).outcome =
      .done (r', firstFound panId heard) := by
  induction polls generalizing r out s heard with
  | zero =>
      cases hheard
      exact ⟨r, rfl⟩
  | succ polls ih =>
      rw [scanWindow, bind_apply] at hheard
      rw [scanPolls, bind_apply]
      cases hpoll : (ezspPollCallback g p r 64 s).outcome with
      | halt why =>
          rw [Run.andThen_of_halt hpoll] at hheard
          cases hheard
      | done polled =>
          obtain ⟨r', id, payload⟩ := polled
          rw [Run.andThen_of_done hpoll] at hheard ⊢
          dsimp only at hheard ⊢
          by_cases hid : id = ezspNetworkFoundHandler
          · rw [if_pos hid, bind_apply] at hheard
            rw [if_pos hid]
            cases hlater : (scanWindow g p polls r' (overwrite out 0 payload)
                (ezspPollCallback g p r 64 s).world).outcome with
            | halt why =>
                rw [Run.andThen_of_halt hlater] at hheard
                cases hheard
            | done later =>
                rw [Run.andThen_of_done hlater] at hheard
                cases hheard
                rw [firstFound_cons]
                by_cases hpan : le16 (overwrite out 0 payload) 1 = panId
                · have hfirst : (beaconOf (overwrite out 0 payload)).panId =
                      panId := hpan
                  rw [if_neg (not_not.mpr hpan), if_pos hfirst]
                  exact ⟨r', rfl⟩
                · have hother : (beaconOf (overwrite out 0 payload)).panId ≠
                      panId := hpan
                  rw [if_pos hpan, if_neg hother]
                  exact ih r' _ _ hlater
          · rw [if_neg hid] at hheard ⊢
            by_cases hcomplete : id = ezspScanCompleteHandler
            · rw [if_pos hcomplete] at hheard ⊢
              cases hheard
              exact ⟨r', rfl⟩
            · rw [if_neg hcomplete] at hheard ⊢
              exact ih r' _ _ hheard

theorem scanFind_of_heard (panId : BitVec 16) (r : Router)
    (channel : BitVec 32) (out : List Byte) (s : σ) {heard : List Beacon}
    (hheard : (scanHeard g p r channel out s).outcome = .done (some heard)) :
    ∃ r', (scanFind g p r channel panId out s).outcome =
      .done (r', firstFound panId heard) := by
  rw [scanHeard, bind_apply] at hheard
  rw [scanFind, bind_apply]
  cases hstart : (EzspSpi.ezspCmd g p r ezspStartScan
      (scanParams (1 <<< channel.toNat) 3) 64 s).outcome with
  | halt why =>
      rw [Run.andThen_of_halt hstart] at hheard
      cases hheard
  | done started =>
      obtain ⟨r', reply⟩ := started
      rw [Run.andThen_of_done hstart] at hheard ⊢
      dsimp only at hheard ⊢
      by_cases hstatus : status? reply ≠ some emberSuccess
      · rw [if_pos hstatus] at hheard
        cases hheard
      · rw [if_neg hstatus, bind_apply] at hheard
        rw [if_neg hstatus]
        cases hwindow : (scanWindow g p 80 r' (overwrite out 0 (reply.getD []))
            (EzspSpi.ezspCmd g p r ezspStartScan
              (scanParams (1 <<< channel.toNat) 3) 64 s).world).outcome with
        | halt why =>
            rw [Run.andThen_of_halt hwindow] at hheard
            cases hheard
        | done heard' =>
            rw [Run.andThen_of_done hwindow] at hheard
            cases hheard
            exact scanPolls_of_window g p panId 80 r' _ _ hwindow

/-! ## Agreement -/

/-- The result of `scan_find` agrees with the page for this pan id: it is found
exactly if it was heard at all, and then can be joined exactly if one of its
beacons allows it, which is what the page shows. -/
structure AgreesWithPage (panId : BitVec 16) (heard : List Beacon)
    (result : ScanResult) : Prop where
  found : (∃ ext allowing nwkUpdateId,
    result = .found ext allowing nwkUpdateId) ↔ ∃ n ∈ heard, n.panId = panId
  allowing : ∀ ext allowing nwkUpdateId,
    result = .found ext allowing nwkUpdateId →
      (allowing = true ↔ AnyJoinable panId heard) ∧
      (allowing = true ↔ ShownJoinable panId (dedupe heard))

/-- The first beacon for the pan id allows joining if any of them does. -/
def FirstAllows (panId : BitVec 16) (heard : List Beacon) : Prop :=
  AnyJoinable panId heard →
    ∃ n, heard.find? (fun n => decide (n.panId = panId)) = some n ∧
      n.joinable = true

theorem firstFound_agrees_iff (panId : BitVec 16) (heard : List Beacon) :
    AgreesWithPage panId heard (firstFound panId heard) ↔
      FirstAllows panId heard := by
  rw [firstFound, FirstAllows]
  cases hfind : heard.find? fun n => decide (n.panId = panId) with
  | none =>
      have hnone : ∀ n ∈ heard, n.panId ≠ panId := by
        simpa using hfind
      refine iff_of_true ⟨?_, nofun⟩ ?_
      · exact iff_of_false nofun fun ⟨n, hn, hpan⟩ => hnone n hn hpan
      · exact fun ⟨n, hn, hpan, _⟩ => absurd hpan (hnone n hn)
  | some first =>
      have hmem := List.mem_of_find?_eq_some hfind
      have hpan : first.panId = panId := by
        simpa using List.find?_some hfind
      have hshown := shownJoinable_dedupe panId heard
      constructor
      · intro hagrees hany
        exact ⟨first, rfl, (hagrees.allowing _ _ _ rfl).1.mpr hany⟩
      · intro hfirst
        have hallowing : first.joinable = true ↔ AnyJoinable panId heard := by
          refine ⟨fun h => ⟨first, hmem, hpan, h⟩, fun hany => ?_⟩
          obtain ⟨n, hn, hjoin⟩ := hfirst hany
          exact Option.some.inj hn ▸ hjoin
        refine ⟨iff_of_true ⟨_, _, _, rfl⟩ ⟨first, hmem, hpan⟩, ?_⟩
        rintro _ _ _ hresult
        cases hresult
        exact ⟨hallowing, hallowing.trans hshown.symm⟩

/-- The check before a join agrees with the page of the scan exactly if the
first beacon for the pan id allows joining or none does: for every sequence of
callbacks that the window of `scan_find` would bring, in whatever
surroundings. -/
theorem scanFind_agrees_iff (panId : BitVec 16) (r : Router)
    (channel : BitVec 32) (out : List Byte) (s : σ) {heard : List Beacon}
    (hheard : (scanHeard g p r channel out s).outcome = .done (some heard)) :
    ∃ r' result, (scanFind g p r channel panId out s).outcome =
        .done (r', result) ∧
      (AgreesWithPage panId heard result ↔ FirstAllows panId heard) := by
  obtain ⟨r', hfind⟩ := scanFind_of_heard g p panId r channel out s hheard
  exact ⟨r', _, hfind, firstFound_agrees_iff panId heard⟩

/-! ## Two routers of a network -/

/-- An NCP that hears the network 0x1A62 on channel 11 twice: from a router
with the first permit-join flag, and from one with the second. -/
def twoRouters (flag flag' : Byte) : Responder where
  respond n _ :=
    let beacon (flag lqi : Byte) : List Byte :=
      [0x00, 0x80, ezspNetworkFoundHandler, 0x0B, 0x62, 0x1A, 0x01, 0x02, 0x03,
        0x04, 0x05, 0x06, 0x07, 0x08, flag, 0x02, 0x00, lqi, 0xC0]
    if n = 0 then [0x00, 0x80, ezspStartScan, 0x00]
    else if n = 1 then beacon flag 0xC8
    else if n = 2 then beacon flag' 0xFF
    else [0x00, 0x80, ezspScanCompleteHandler, 0x0B, 0x00]
  commands := 0
  pending := []

/-- What the two are heard with. -/
def twoBeacons (flag flag' : Byte) : List Beacon :=
  let beacon (flag lqi : Byte) : Beacon :=
    ⟨0x0B, 0x1A62, [0x01, 0x02, 0x03, 0x04, 0x05, 0x06, 0x07, 0x08],
      decide (flag ≠ 0), 0x00, lqi, 0xC0⟩
  [beacon flag 0xC8, beacon flag' 0xFF]

theorem scanFind_agrees_iff_open :
    ∃ r' result, (scanFind ⟨⟨2, false⟩, true⟩ ⟨3, 4, 5, 7, 6⟩ routerInit 11
        0x1A62 (List.replicate 64 0) (twoRouters 1 0)).outcome =
          .done (r', result) ∧
      (AgreesWithPage 0x1A62 (twoBeacons 1 0) result ↔
        FirstAllows 0x1A62 (twoBeacons 1 0)) :=
  scanFind_agrees_iff _ _ _ _ _ _ _ (by decide +kernel)

/-- The router that is heard first keeps its window closed, the other has it
open: the page shows the network as one that can be joined, and the check says
that it cannot. -/
theorem scanFind_first_closed :
    (scanHeard ⟨⟨2, false⟩, true⟩ ⟨3, 4, 5, 7, 6⟩ routerInit 11
        (List.replicate 64 0) (twoRouters 0 1)).outcome =
      .done (some (twoBeacons 0 1)) ∧
    (scanFind ⟨⟨2, false⟩, true⟩ ⟨3, 4, 5, 7, 6⟩ routerInit 11 0x1A62
        (List.replicate 64 0) (twoRouters 0 1)).outcome =
      .done ({ routerInit with seq := 2 }, .found
        [0x01, 0x02, 0x03, 0x04, 0x05, 0x06, 0x07, 0x08] false 0x00) ∧
    ShownJoinable 0x1A62 (dedupe (twoBeacons 0 1)) ∧
    ¬AgreesWithPage 0x1A62 (twoBeacons 0 1) (.found
      [0x01, 0x02, 0x03, 0x04, 0x05, 0x06, 0x07, 0x08] false 0x00) := by
  have hshown : ShownJoinable 0x1A62 (dedupe (twoBeacons 0 1)) := by decide
  refine ⟨by decide +kernel, by decide +kernel, hshown, fun hagrees => ?_⟩
  exact absurd ((hagrees.allowing _ _ _ rfl).2.mpr hshown) (by decide)

end EzspSpi
