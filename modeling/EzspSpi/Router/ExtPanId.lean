import EzspSpi.Router.Join
import Mathlib.Data.List.GetD

/-!
# The extended pan id of a join

Where the id comes from that `joinNetwork` carries.  If none is given and the
scan fails, the check is skipped and the id with it.
-/

namespace EzspSpi

open Program

variable {σ : Type} [Kernel σ] (g : Globals) (c : RouterCfg) (p : Pins)

/-- The extended pan id that a `joinNetwork` carries. -/
def Exchange.joinExt (x : Exchange) : List Byte :=
  ((commandParams x.command).drop 1).take 8

/-- A poll that brings a beacon with these ids. -/
def BringsBeacon (panId : BitVec 16) (ext : List Byte) (x : Exchange) : Prop :=
  commandId x.command = ezspCallback ∧
    ∃ payload, x.reply? = some (ezspNetworkFoundHandler, payload) ∧
      11 ≤ payload.length ∧ (beaconOf payload).panId = panId ∧
      (beaconOf payload).extPanId = ext

/-- Every `joinNetwork` carries the id that was given, or one that a beacon of
the network brought before. -/
def ExtKnown (r : Router) (xs : List Exchange) : Prop :=
  ∀ before x after, xs = before ++ x :: after → IsJoin x →
    r.haveExtPanId = true ∧ x.joinExt = r.extPanId ∨
      ∃ y ∈ before, BringsBeacon c.panId x.joinExt y

/-- The scan is not refused, and its answer not lost. -/
def ScanAccepted (xs : List Exchange) : Prop :=
  ∀ x ∈ xs, commandId x.command = ezspStartScan →
    x.status? = some emberSuccess

/-- Where the buffer of the scan reads as a beacon of the network, the last
answer reaches to the end of its ids, or the buffer shows the id that was given
all the same. -/
def ScanReads (r : Router) (out : List Byte) (xs : List Exchange) : Prop :=
  ∀ before x heard y after payload,
    xs = before ++ x :: (heard ++ y :: after) →
    commandId x.command = ezspStartScan →
    (∀ z ∈ heard ++ [y], commandId z.command = ezspCallback) →
    y.reply? = some (ezspNetworkFoundHandler, payload) →
    (beaconOf (heardIn (x :: (heard ++ [y])) out)).panId = c.panId →
    11 ≤ payload.length ∨ r.haveExtPanId = true ∧
      (beaconOf (heardIn (x :: (heard ++ [y])) out)).extPanId = r.extPanId

/-! ## Reading a beacon -/

theorem getD_overwrite {src : List Byte} {i : ℕ} (hi : i < src.length)
    (out : List Byte) : (overwrite out 0 src).getD i 0 = src.getD i 0 := by
  rw [overwrite_zero, List.getD_append _ _ _ _ hi]

/-- The buffer reads as the answer that reaches to the end of the ids. -/
theorem beaconOf_overwrite {payload : List Byte} (hlong : 11 ≤ payload.length)
    (out : List Byte) :
    (beaconOf (overwrite out 0 (payload.take 64))).panId =
        (beaconOf payload).panId ∧
      (beaconOf (overwrite out 0 (payload.take 64))).extPanId =
        (beaconOf payload).extPanId := by
  have htake : 11 ≤ (payload.take 64).length := by
    rw [List.length_take]
    omega
  have hbyte (i : ℕ) (hi : i < 11) :
      (overwrite out 0 (payload.take 64)).getD i 0 = payload.getD i 0 := by
    rw [getD_overwrite (by omega), List.getD_eq_getElem?_getD,
      List.getElem?_take_of_lt (by omega), List.getD_eq_getElem?_getD]
  constructor
  · rw [beaconOf, beaconOf]
    dsimp only
    rw [le16, le16, hbyte 1 (by decide), hbyte 2 (by decide)]
  · rw [beaconOf, beaconOf]
    dsimp only
    rw [overwrite_zero, List.drop_append_of_le_length (by omega),
      List.take_append_of_le_length (by rw [List.length_drop]; omega),
      List.drop_take, List.take_take]
    rfl

theorem heardIn_append (heard : List Exchange) (y : Exchange)
    (out : List Byte) :
    heardIn (heard ++ [y]) out = overwrite (heardIn heard out) 0 y.payload :=
  List.foldl_append

theorem length_heardIn (heard : List Exchange) (out : List Byte) :
    out.length ≤ (heardIn heard out).length := by
  induction heard generalizing out with
  | nil => exact le_rfl
  | cons x heard ih =>
      refine le_trans ?_ (ih (overwrite out 0 x.payload))
      rw [overwrite_zero, List.length_append, List.length_drop]
      omega

/-- A beacon that is long enough is what the buffer reads as. -/
theorem beaconOf_heardIn {y : Exchange} {payload : List Byte}
    (hpayload : y.reply? = some (ezspNetworkFoundHandler, payload))
    (hlong : 11 ≤ payload.length) (out : List Byte) :
    (beaconOf (overwrite out 0 y.payload)).panId = (beaconOf payload).panId ∧
      (beaconOf (overwrite out 0 y.payload)).extPanId =
        (beaconOf payload).extPanId := by
  have hlast : y.payload = payload.take 64 := by
    rw [Exchange.payload, hpayload]
    rfl
  rw [hlast]
  exact beaconOf_overwrite hlong out

theorem BringsBeacon.readsAs {panId : BitVec 16} {ext : List Byte}
    {y : Exchange} (hy : BringsBeacon panId ext y) (out : List Byte) :
    ReadsAs panId out y := by
  obtain ⟨_, payload, hpayload, hlong, hpan, _⟩ := hy
  exact ⟨⟨payload, hpayload⟩,
    (beaconOf_heardIn hpayload hlong out).1.trans hpan⟩

theorem FoundIn.length_ext {panId : BitVec 16} {ext out : List Byte}
    {heard : List Exchange} {y : Exchange}
    (hfound : FoundIn panId ext out heard y) (hout : 64 ≤ out.length) :
    ext.length = 8 := by
  have hlength := length_heardIn (heard ++ [y]) out
  rw [hfound.ext, beaconOf, List.length_take, List.length_drop]
  omega

/-- The id comes from the beacon itself if that is long enough. -/
theorem FoundIn.brings {panId : BitVec 16} {ext out : List Byte}
    {heard : List Exchange} {y : Exchange}
    (hfound : FoundIn panId ext out heard y)
    (hpoll : commandId y.command = ezspCallback) {payload : List Byte}
    (hpayload : y.reply? = some (ezspNetworkFoundHandler, payload))
    (hlong : 11 ≤ payload.length) : BringsBeacon panId ext y := by
  obtain ⟨hpan, hext⟩ :=
    beaconOf_heardIn hpayload hlong (heardIn heard out)
  have hids := hfound.ext
  rw [heardIn_append] at hids
  exact ⟨hpoll, payload, hpayload, hlong, hpan.symm.trans hfound.reads.2,
    (hids.trans hext).symm⟩

/-- If a beacon has brought the id, then it is the one found, or a longer one. -/
theorem FoundIn.whole {panId : BitVec 16} {ext ext' out : List Byte}
    {heard : List Exchange} {y z : Exchange}
    (hfound : FoundIn panId ext out heard y) (hz : z ∈ heard ++ [y])
    (hbrings : BringsBeacon panId ext' z) {payload : List Byte}
    (hpayload : y.reply? = some (ezspNetworkFoundHandler, payload)) :
    11 ≤ payload.length := by
  rcases List.mem_append.mp hz with hearlier | hlast
  · obtain ⟨front, rest, hsplit⟩ := List.append_of_mem hearlier
    exact absurd (hbrings.readsAs _) (hfound.overlooked front z rest hsplit)
  · obtain rfl := List.mem_singleton.mp hlast
    obtain ⟨_, payload', hpayload', hlong, _⟩ := hbrings
    rw [hpayload] at hpayload'
    exact (Prod.mk.inj (Option.some.inj hpayload')).2 ▸ hlong

/-! ## Every join of a run -/

/-- A join stands behind what no join is part of. -/
theorem split_of_not_isJoin {front xs before after : List Exchange}
    {x : Exchange} (hfront : ∀ y ∈ front, ¬IsJoin y) (hx : IsJoin x)
    (hsplit : front ++ xs = before ++ x :: after) :
    ∃ early, before = front ++ early ∧ xs = early ++ x :: after := by
  rcases List.append_eq_append_iff.mp hsplit with
    ⟨early, hbefore, hxs⟩ | ⟨rest, hrest, hxs⟩
  · exact ⟨early, hbefore, hxs⟩
  · cases rest with
    | nil =>
        rw [List.append_nil] at hrest
        exact ⟨[], by rw [hrest, List.append_nil], hxs.symm⟩
    | cons y rest =>
        obtain ⟨rfl, _⟩ := List.cons.inj hxs
        refine absurd hx (hfront x ?_)
        rw [hrest]
        exact List.mem_append_right _ List.mem_cons_self

theorem joinExt_of_asks {r : Router} (hext : r.extPanId.length = 8)
    {nwkUpdateId : Byte} {x : Exchange}
    (hx : x.Asks ezspJoinNetwork (joinParams c r nwkUpdateId)) :
    x.joinExt = r.extPanId := by
  rw [Exchange.joinExt, hx.params, joinParams, List.take_of_length_le hext.le]
  exact List.take_left' hext

theorem extKnown_of_not_isJoin {r : Router} {xs : List Exchange}
    (hxs : ∀ x ∈ xs, ¬IsJoin x) : ExtKnown c r xs := by
  rintro before x after rfl hx
  exact absurd hx (hxs x (List.mem_append_right _ List.mem_cons_self))

section Sources

variable {c} {r : Router} {ext : List Byte} {nwkUpdateId : Byte}
  {polls retries result : ℕ} {front joins : List Exchange}
  (hjoins : Attempts (joinParams c { r with extPanId := ext } nwkUpdateId)
    polls retries joins result)

include hjoins

/-- The attempts go on with an id from one of the two sources. -/
theorem Attempts.extKnown (hfront : ∀ x ∈ front, ¬IsJoin x)
    (hext : ext.length = 8)
    (hsource : r.haveExtPanId = true ∧ ext = r.extPanId ∨
      ∃ y ∈ front, BringsBeacon c.panId ext y) :
    ExtKnown c r (front ++ joins) := by
  intro before x after hsplit hx
  obtain ⟨early, rfl, hearly⟩ := split_of_not_isJoin hfront hx hsplit
  have hmem : x ∈ joins := by
    rw [hearly]
    exact List.mem_append_right _ List.mem_cons_self
  have hasks := (hjoins.alike x hmem).resolve_right fun hpoll =>
    not_isJoin_of_poll hpoll hx
  have hcarries : x.joinExt = ext := joinExt_of_asks c hext hasks
  rcases hsource with ⟨hgiven, hids⟩ | ⟨y, hy, hbrings⟩
  · exact Or.inl ⟨hgiven, hcarries.trans hids⟩
  · exact Or.inr ⟨y, List.mem_append_left _ hy, hcarries.symm ▸ hbrings⟩

/-- Without a source, there is none for the first attempt. -/
theorem Attempts.not_extKnown (hgiven : r.haveExtPanId = false)
    (hpolls : ∀ x ∈ front, commandId x.command ≠ ezspCallback) :
    ¬ExtKnown c r (front ++ joins) := by
  obtain ⟨x, rest, rfl, hx⟩ := hjoins.starts
  intro hknown
  rcases hknown front x rest rfl hx with ⟨hgiven', _⟩ | ⟨y, hy, hbrings⟩
  · exact absurd hgiven' (by simp [hgiven])
  · exact hpolls y hy hbrings.1

end Sources

/-! ## The scan of a run -/

/-- There is one scan in a run. -/
theorem split_of_scan {front tail before tail' : List Exchange}
    {x x' : Exchange}
    (hfront : ∀ y ∈ front, commandId y.command ≠ ezspStartScan)
    (htail : ∀ y ∈ tail, commandId y.command ≠ ezspStartScan)
    (hx' : commandId x'.command = ezspStartScan)
    (hsplit : front ++ x :: tail = before ++ x' :: tail') :
    x = x' ∧ tail = tail' := by
  rcases List.append_eq_append_iff.mp hsplit with
    ⟨early, _, hxs⟩ | ⟨rest, hrest, hxs⟩
  · cases early with
    | nil => exact List.cons.inj hxs
    | cons y early =>
        obtain ⟨rfl, htails⟩ := List.cons.inj hxs
        refine absurd hx' (htail x' ?_)
        rw [htails]
        exact List.mem_append_right _ List.mem_cons_self
  · cases rest with
    | nil => exact List.cons.inj hxs.symm
    | cons y rest =>
        obtain ⟨rfl, _⟩ := List.cons.inj hxs
        refine absurd hx' (hfront x' ?_)
        rw [hrest]
        exact List.mem_append_right _ List.mem_cons_self

/-- What is polled in a row is part of the polls. -/
theorem split_of_polls {polls rest heard after : List Exchange} {y : Exchange}
    (hrest : ∃ z rest', rest = z :: rest' ∧
      commandId z.command ≠ ezspCallback)
    (hheard : ∀ z ∈ heard ++ [y], commandId z.command = ezspCallback)
    (hsplit : polls ++ rest = heard ++ y :: after) :
    ∃ more, polls = heard ++ y :: more := by
  obtain ⟨z, rest', rfl, hz⟩ := hrest
  rcases List.append_eq_append_iff.mp hsplit with
    ⟨early, hpolls, hafter⟩ | ⟨late, hpolls, hafter⟩
  · refine absurd (hheard z ?_) hz
    cases early with
    | nil =>
        obtain ⟨rfl, _⟩ := List.cons.inj hafter
        exact List.mem_append_right _ (List.mem_singleton_self z)
    | cons w early =>
        obtain ⟨rfl, _⟩ := List.cons.inj hafter
        rw [hpolls]
        simp
  · cases late with
    | nil =>
        obtain ⟨rfl, _⟩ := List.cons.inj hafter
        exact absurd (hheard y (by simp)) hz
    | cons w late =>
        obtain ⟨rfl, _⟩ := List.cons.inj hafter
        exact ⟨late, hpolls⟩

section Flow

variable {c} {r : Router} {out ext : List Byte} {nwkUpdateId : Byte}
  {polls retries result : ℕ} {opening config joins : List Exchange}
  (hopening : ∀ x ∈ opening, IsSetup (commandId x.command))
  (hconfig : ∀ x ∈ config, IsSetup (commandId x.command))
  (hjoins : Attempts (joinParams c { r with extPanId := ext } nwkUpdateId)
    polls retries joins result)

include hconfig hjoins

/-- After the scan there is no other. -/
theorem Attempts.not_scan :
    ∀ x ∈ config ++ joins, commandId x.command ≠ ezspStartScan := by
  intro x hx hscan
  rcases List.mem_append.mp hx with hx | hx
  · exact absurd (hscan ▸ hconfig x hx) (by decide)
  · rcases hjoins.alike x hx with hasks | hpoll
    · exact absurd (hasks.frameId.symm.trans hscan) (by decide)
    · exact absurd (hpoll.symm.trans hscan) (by decide)

/-- What follows the scan first is no poll. -/
theorem Attempts.follows : ∃ z rest, config ++ joins = z :: rest ∧
    commandId z.command ≠ ezspCallback := by
  cases config with
  | nil =>
      obtain ⟨z, rest, rfl, hz⟩ := hjoins.starts
      exact ⟨z, rest, rfl, fun hpoll => not_isJoin_of_poll hpoll hz⟩
  | cons z config =>
      refine ⟨z, config ++ joins, rfl, fun hpoll => ?_⟩
      exact absurd (hpoll ▸ hconfig z List.mem_cons_self) (by decide)

include hopening

/-- What is polled in the scan of the run. -/
theorem Attempts.scanned {x x' y' : Exchange}
    {heard before heard' after : List Exchange}
    (hsplit : opening ++ (x :: heard) ++ config ++ joins =
      before ++ x' :: (heard' ++ y' :: after))
    (hx' : commandId x'.command = ezspStartScan)
    (hheard : ∀ z ∈ heard, commandId z.command = ezspCallback)
    (hheard' : ∀ z ∈ heard' ++ [y'], commandId z.command = ezspCallback) :
    x = x' ∧ ∃ more, heard = heard' ++ y' :: more := by
  have hshape : opening ++ x :: (heard ++ (config ++ joins)) =
      before ++ x' :: (heard' ++ y' :: after) := by
    rw [← hsplit]
    simp
  have htail : ∀ z ∈ heard ++ (config ++ joins),
      commandId z.command ≠ ezspStartScan := by
    intro z hz
    rcases List.mem_append.mp hz with hz | hz
    · rw [hheard z hz]
      decide
    · exact hjoins.not_scan hconfig z hz
  have hfront : ∀ z ∈ opening, commandId z.command ≠ ezspStartScan :=
    fun z hz hscan => absurd (hscan ▸ hopening z hz) (by decide)
  obtain ⟨rfl, hpolls⟩ := split_of_scan hfront htail hx' hshape
  exact ⟨rfl, split_of_polls (hjoins.follows hconfig) hheard' hpolls⟩

section Found

variable {x y : Exchange} {heard : List Exchange}
  (hx : commandId x.command = ezspStartScan)
  (hfound : FoundIn c.panId ext (overwrite out 0 x.payload) heard y)
  {payload : List Byte}
  (hpayload : y.reply? = some (ezspNetworkFoundHandler, payload))

include hx hfound hpayload

/-- It is the answer that ends the scan that has to be long enough. -/
theorem Attempts.scanReads_iff
    (hpolls : ∀ z ∈ heard ++ [y], commandId z.command = ezspCallback) :
    ScanReads c r out (opening ++ (x :: (heard ++ [y])) ++ config ++ joins) ↔
      11 ≤ payload.length ∨ r.haveExtPanId = true ∧ ext = r.extPanId := by
  have hlast (heard : List Exchange) (y : Exchange) :
      heardIn (x :: (heard ++ [y])) out =
        overwrite (heardIn heard (overwrite out 0 x.payload)) 0 y.payload :=
    heardIn_append heard y (overwrite out 0 x.payload)
  have hids : ext = (beaconOf (heardIn (x :: (heard ++ [y])) out)).extPanId :=
    hfound.ext
  constructor
  · intro hreads
    rw [hids]
    refine hreads opening x heard y (config ++ joins) payload (by simp) hx
      hpolls hpayload ?_
    rw [hlast]
    exact hfound.reads.2
  · intro hsource before x' heard' y' after payload' hsplit hx' hpolls'
      hpayload' hpan
    obtain ⟨rfl, more, hmore⟩ :=
      hjoins.scanned hopening hconfig hsplit hx' hpolls hpolls'
    rcases List.eq_nil_or_concat more with rfl | ⟨more, z, rfl⟩
    · obtain ⟨rfl, hone⟩ := List.append_inj' hmore rfl
      obtain ⟨rfl, _⟩ := List.cons.inj hone
      rw [hpayload] at hpayload'
      rw [← (Prod.mk.inj (Option.some.inj hpayload')).2, ← hids]
      exact hsource
    · rw [List.concat_eq_append, ← List.cons_append, ← List.append_assoc]
        at hmore
      rw [hlast] at hpan
      exact absurd ⟨⟨payload', hpayload'⟩, hpan⟩
        (hfound.overlooked heard' y' more (List.append_inj' hmore rfl).1)

/-- An id that is known was given, or is that of the answer itself. -/
theorem Attempts.source_of_extKnown (hext : ext.length = 8)
    (hknown : ExtKnown c r
      (opening ++ (x :: (heard ++ [y])) ++ config ++ joins)) :
    11 ≤ payload.length ∨ r.haveExtPanId = true ∧ ext = r.extPanId := by
  obtain ⟨z, rest, rfl, hz⟩ := hjoins.starts
  rcases hknown _ z rest rfl hz with ⟨hhave, hids⟩ | ⟨w, hw, hbrings⟩
  · have hasks := (hjoins.alike z List.mem_cons_self).resolve_right
      fun hpoll => not_isJoin_of_poll hpoll hz
    exact Or.inr ⟨hhave, (joinExt_of_asks c hext hasks).symm.trans hids⟩
  · have hpoll := hbrings.1
    simp only [List.mem_append, List.mem_cons] at hw
    refine Or.inl (hfound.whole ?_ hbrings hpayload)
    rcases hw with (hw | rfl | hw) | hw
    · exact absurd (hpoll ▸ hopening w hw) (by decide)
    · exact absurd (hx.symm.trans hpoll) (by decide)
    · simpa using hw
    · exact absurd (hpoll ▸ hconfig w hw) (by decide)

end Found

end Flow

/-- A `joinNetwork` is sent exactly if the NCP has accepted the security
state. -/
theorem Joining.isJoin_iff {r : Router} {out : List Byte} {xs : List Exchange}
    {result : ℕ} (hjoining : Joining c r out xs result) :
    (∃ x ∈ xs, IsJoin x) ↔ SecurityAccepted xs := by
  cases hjoining with
  | early hxs hunset =>
      exact iff_of_false (fun ⟨x, hx, hjoin⟩ => hxs x hx hjoin) hunset
  | attempted _ _ _ _ haccepted hjoins =>
      obtain ⟨x, rest, rfl, hjoin⟩ := hjoins.starts
      obtain ⟨y, hy, hsets⟩ := haccepted
      exact iff_of_true ⟨x, by simp, hjoin⟩ ⟨y, by simp [hy], hsets⟩

/-- The id is known if the user gave it or the scan brought it, and the buffer
of the scan reads as the beacon does. -/
theorem Joining.extKnown_iff {r : Router} (hext : r.extPanId.length = 8)
    (hgiven : r.haveExtPanId = true ∨ c.noPrecheck = false) {out : List Byte}
    (hout : out.length = 64) {xs : List Exchange} {result : ℕ}
    (hjoining : Joining c r out xs result) :
    ExtKnown c r xs ↔ ¬SecurityAccepted xs ∨
      (r.haveExtPanId = true ∨ ScanAccepted xs) ∧ ScanReads c r out xs := by
  have hsends := hjoining.isJoin_iff
  cases hjoining with
  | early hxs hunset =>
      exact iff_of_true (extKnown_of_not_isJoin c hxs) (Or.inl hunset)
  | @attempted opening looked config joins ext nwkUpdateId _ hopening hlooked
      hprecheck hconfig _ hjoins =>
      have hfront : ∀ x ∈ opening ++ looked ++ config, ¬IsJoin x := by
        simp only [List.forall_mem_append]
        exact ⟨⟨fun x hx => (hopening x hx).not_isJoin, hlooked⟩,
          fun x hx => (hconfig x hx).not_isJoin⟩
      have hset : SecurityAccepted (opening ++ looked ++ config ++ joins) := by
        obtain ⟨x, rest, rfl, hx⟩ := hjoins.starts
        exact hsends.mp ⟨x, by simp, hx⟩
      rw [or_iff_right (not_not.mpr hset)]
      cases hprecheck with
      | skipped hskip =>
          have hhave := hgiven.resolve_right (by simp [hskip])
          refine iff_of_true
            (hjoins.extKnown hfront hext (Or.inl ⟨hhave, rfl⟩))
            ⟨Or.inl hhave, ?_⟩
          intro before x heard y after payload hsplit hx
          have hmem : x ∈ opening ++ (config ++ joins) := by
            rw [List.append_nil, List.append_assoc] at hsplit
            rw [hsplit]
            simp
          rcases List.mem_append.mp hmem with hmem | hmem
          · exact absurd (hx ▸ hopening x hmem) (by decide)
          · exact absurd hx (hjoins.not_scan hconfig x hmem)
      | @failed x hx hstatus =>
          have hreads : ScanReads c r out
              (opening ++ [x] ++ config ++ joins) := by
            intro before x' heard y after payload hsplit hx' hpolls
            obtain ⟨_, more, hnone⟩ := hjoins.scanned hopening hconfig hsplit
              hx' (by simp) hpolls
            cases heard <;> cases hnone
          rw [and_iff_left hreads]
          cases hhave : r.haveExtPanId with
          | true =>
              exact iff_of_true
                (hjoins.extKnown hfront hext (Or.inl ⟨hhave, rfl⟩)) (Or.inl rfl)
          | false =>
              refine iff_of_false (hjoins.not_extKnown hhave ?_) ?_
              · simp only [List.mem_append, List.mem_singleton]
                rintro y ((hy | rfl) | hy) hpoll
                · exact absurd (hpoll ▸ hopening y hy) (by decide)
                · exact absurd (hx.symm.trans hpoll) (by decide)
                · exact absurd (hpoll ▸ hconfig y hy) (by decide)
              · rintro (hfalse | haccepted)
                · cases hfalse
                · exact hstatus (haccepted x (by simp) hx)
      | @found x y heard _ hx hstatus hpolls hfound =>
          obtain ⟨payload, hpayload⟩ := hfound.reads.1
          have hlength : ext.length = 8 :=
            hfound.length_ext (hout ▸ length_heardIn [x] out)
          have haccepted : ScanAccepted
              (opening ++ (x :: (heard ++ [y])) ++ config ++ joins) := by
            intro z hz hscan
            rw [List.append_assoc] at hz
            simp only [List.mem_append, List.mem_cons] at hz
            rcases hz with (hz | rfl | hz) | hz
            · exact absurd (hscan ▸ hopening z hz) (by decide)
            · exact hstatus
            · have hpoll := hpolls z (List.mem_append.mpr (by simpa using hz))
              exact absurd (hpoll.symm.trans hscan) (by decide)
            · exact absurd hscan
                (hjoins.not_scan hconfig z (List.mem_append.mpr hz))
          rw [and_iff_right (Or.inr haccepted), hjoins.scanReads_iff hopening
            hconfig hx hfound hpayload hpolls]
          constructor
          · exact hjoins.source_of_extKnown hopening hconfig hx hfound hpayload
              hlength
          · rintro (hlong | hgiven)
            · have hbrings := hfound.brings (hpolls y (by simp)) hpayload hlong
              exact hjoins.extKnown hfront hlength
                (Or.inr ⟨y, by simp, hbrings⟩)
            · exact hjoins.extKnown hfront hlength (Or.inl hgiven)

/-- Every `joinNetwork` carries an extended pan id that is known exactly if the
id is given or the scan accepted, and the scan takes it from an answer that
carries it, or the NCP never accepts the security state, without which there is
no `joinNetwork`: for all options and whatever the NCP answers. -/
theorem cmdJoin_extKnown_iff (scanOut out : List Byte)
    (hout : scanOut.length = 64) (r : Router) (hext : r.extPanId.length = 8)
    (s : σ) (hworks : BusWorks (cmdJoin g c p scanOut out r s).trace) :
    ExtKnown c r (calls (cmdJoin g c p scanOut out r s).trace) ↔
      ¬SecurityAccepted (calls (cmdJoin g c p scanOut out r s).trace) ∨
        (r.haveExtPanId = true ∨
          ScanAccepted (calls (cmdJoin g c p scanOut out r s).trace)) ∧
        ScanReads c r scanOut
          (calls (cmdJoin g c p scanOut out r s).trace) := by
  by_cases hjoinable : Joinable c r
  · obtain ⟨result, hdone⟩ :=
      (cmdJoin_ends g c p scanOut out r s).mpr ⟨hjoinable, hworks⟩
    obtain ⟨hgiven, hjoining⟩ :=
      (cmdJoin_called g c p scanOut out r s).2.1 result hdone
    exact hjoining.extKnown_iff c hext hgiven hout
  · rw [cmdJoin_of_not_joinable g c p scanOut out hjoinable]
    have hnone : ∀ x ∈ calls ([] : List HostEvent), ¬IsJoin x :=
      fun x hx => absurd hx List.not_mem_nil
    have hunset : ¬SecurityAccepted (calls ([] : List HostEvent)) :=
      fun ⟨x, hx, _⟩ => absurd hx List.not_mem_nil
    exact iff_of_true (extKnown_of_not_isJoin c hnone) (Or.inl hunset)

/-! ## A scan that is refused -/

/-- The network is heard, and comes up at once. -/
def scannedJoin : Run host Responder ℕ :=
  cmdJoin ⟨⟨2, false⟩, true⟩ joinCfg ⟨3, 4, 5, 7, 6⟩ (List.replicate 64 0)
    (List.replicate 64 0) routerInit <| obligingNcp 0x00 fun n =>
      if n = 2 then
        [ezspNetworkFoundHandler, 0x0B, 0x62, 0x1A, 0x01, 0x02, 0x03, 0x04,
          0x05, 0x06, 0x07, 0x08, 0x01, 0x02, 0x00]
      else [ezspStackStatusHandler, emberNetworkUp]

theorem cmdJoin_extKnown_iff_scanned :
    ExtKnown joinCfg routerInit (calls scannedJoin.trace) ↔
      ¬SecurityAccepted (calls scannedJoin.trace) ∨
        (routerInit.haveExtPanId = true ∨
          ScanAccepted (calls scannedJoin.trace)) ∧
        ScanReads joinCfg routerInit (List.replicate 64 0)
          (calls scannedJoin.trace) :=
  cmdJoin_extKnown_iff _ _ _ _ _ rfl _ rfl _
    ((cmdJoin_ends _ _ _ _ _ _ _).mp ⟨0, by decide +kernel⟩).2

/-- The scan is refused, everything else granted, and no id is given. -/
def refusedJoin : Run host Responder ℕ :=
  cmdJoin ⟨⟨2, false⟩, true⟩ joinCfg ⟨3, 4, 5, 7, 6⟩ (List.replicate 64 0)
    (List.replicate 64 0) routerInit <| obligingNcp 0x01 fun _ =>
      [ezspStackStatusHandler, 0xAB]

/-- A network is joined without an extended pan id. -/
theorem refusedJoin_unknown :
    (∃ x ∈ calls refusedJoin.trace, IsJoin x ∧
      x.joinExt = List.replicate 8 0) ∧
    ¬ExtKnown joinCfg routerInit (calls refusedJoin.trace) := by
  have hzero : ∃ x ∈ calls refusedJoin.trace, IsJoin x ∧
      x.joinExt = List.replicate 8 0 := by decide +kernel
  refine ⟨hzero, fun hknown => ?_⟩
  have hpolls : ∀ y ∈ (calls refusedJoin.trace).take 9,
      commandId y.command ≠ ezspCallback := by decide +kernel
  have hjoin : ∃ x ∈ ((calls refusedJoin.trace).drop 9).head?, IsJoin x := by
    decide +kernel
  obtain ⟨x, hx, hxjoin⟩ := hjoin
  obtain ⟨after, hafter⟩ := List.head?_eq_some_iff.mp hx
  have hsplit := (List.take_append_drop 9 (calls refusedJoin.trace)).symm
  rw [hafter] at hsplit
  rcases hknown _ x after hsplit hxjoin with ⟨hgiven, _⟩ | ⟨y, hy, hbrings⟩
  · cases hgiven
  · exact hpolls y hy hbrings.1

end EzspSpi
