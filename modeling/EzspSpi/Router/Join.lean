import EzspSpi.Router.Attempts
import EzspSpi.Router.Drain
import EzspSpi.Router.Scan
import EzspSpi.Router.Upheld

/-!
# Joining a network

What `cmd_join` asks of the NCP before its attempts, and what comes of these.
-/

namespace EzspSpi

open Program

variable {σ : Type} [Kernel σ] (g : Globals) (c : RouterCfg) (p : Pins)

section Attempts

variable {xs : List Exchange} {r : Router} {h : List HostEvent}

/-! ## The wait for the network -/

theorem overwrite_status {status : Byte} {rest out : List Byte} :
    (overwrite out 0 (status :: rest)).getD 0 0 = status := by
  rw [overwrite_zero]
  rfl

theorem StatusCarried.of_append {xs ys : List Exchange}
    (hcarried : StatusCarried (xs ++ ys)) : StatusCarried ys :=
  fun x hx => hcarried x (List.mem_append_right _ hx)

/-- What the buffer holds after a status is polled is that status. -/
theorem StatusCarried.brings {x : Exchange} {xs : List Exchange}
    (hcarried : StatusCarried (x :: xs)) (hx : commandId x.command = ezspCallback)
    {full : List Byte} (hfull : x.reply? = some (ezspStackStatusHandler, full))
    (out : List Byte) :
    BringsStatus ((overwrite out 0 (full.take 64)).getD 0 0) x := by
  have hne : full ≠ [] := fun hempty =>
    hcarried x List.mem_cons_self hx (hempty ▸ hfull)
  obtain ⟨status, rest, rfl⟩ := List.exists_cons_of_ne_nil hne
  rw [List.take_succ_cons, overwrite_status]
  exact ⟨hx, rest, hfull⟩

theorem joinPolls_called (polls : ℕ) (hcalled : Called xs r h)
    (out : List Byte) :
    Holds anyRun h (joinPolls g p polls r out : Host σ _) fun final h' =>
      ∃ waits, Called (xs ++ waits) final.1 h' ∧
        final.1.extPanId = r.extPanId ∧
        (∀ x ∈ waits, commandId x.command = ezspCallback) ∧
        (StatusCarried waits → WaitRun polls waits final.2.2) := by
  induction polls generalizing xs r h out with
  | zero =>
      exact Holds.pure ⟨[], by rwa [List.append_nil], rfl, by simp,
        fun _ => WaitRun.timeout⟩
  | succ polls ih =>
      rw [joinPolls]
      apply (ezspPollCallback_called g p hcalled 64).seq
      rintro _ h' ⟨x, hasks, hmore, rfl⟩
      have hpoll := hasks.frameId
      have hone : ∀ y ∈ [x], commandId y.command = ezspCallback :=
        fun y hy => List.mem_singleton.mp hy ▸ hpoll
      generalize hreply : polled _ = reply
      obtain ⟨id, payload⟩ := reply
      dsimp only
      have hwait (out' : List Byte) (hlets : StatusCarried [x] → LetsWait x) :
          Holds anyRun h' (joinPolls g p polls { r with seq := r.seq + 1 } out' :
            Host σ _) fun final h' =>
            ∃ waits, Called (xs ++ waits) final.1 h' ∧
              final.1.extPanId = r.extPanId ∧
              (∀ x ∈ waits, commandId x.command = ezspCallback) ∧
              (StatusCarried waits → WaitRun (polls + 1) waits final.2.2) := by
        apply (ih hmore out').mono
        rintro final h'' ⟨waits, hcalls, hext, hpolls, hrun⟩
        refine ⟨x :: waits, by rwa [List.append_cons], hext, ?_, fun hall => ?_⟩
        · exact List.forall_mem_cons.mpr ⟨hpoll, hpolls⟩
        · refine WaitRun.wait (hlets fun y hy => ?_) (hrun ?_)
          · exact hall y (List.mem_cons.mpr (Or.inl (List.mem_singleton.mp hy)))
          · exact fun y hy => hall y (List.mem_cons_of_mem x hy)
      have hstop {outcome : JoinOutcome} (out' : List Byte)
          (hends : StatusCarried [x] → WaitRun (polls + 1) [x] outcome) :
          Holds anyRun h' (pure ({ r with seq := r.seq + 1 }, out', outcome) :
            Host σ _) fun final h' =>
            ∃ waits, Called (xs ++ waits) final.1 h' ∧
              final.1.extPanId = r.extPanId ∧
              (∀ x ∈ waits, commandId x.command = ezspCallback) ∧
              (StatusCarried waits → WaitRun (polls + 1) waits final.2.2) :=
        Holds.pure ⟨[x], hmore, rfl, hone, hends⟩
      by_cases hid : id = ezspStackStatusHandler
      · subst hid
        obtain ⟨full, hfull, rfl⟩ :=
          (polled_reply_iff (by decide) payload).mp hreply
        rw [if_neg (not_not.mpr rfl)]
        have hbrings (hcarried : StatusCarried [x]) :=
          hcarried.brings hpoll hfull out
        generalize overwrite out 0 (full.take 64) = out' at hbrings ⊢
        generalize out'.getD 0 0 = status at hbrings ⊢
        split
        · rename_i hup
          exact hstop out' fun hall => WaitRun.up (hup ▸ hbrings hall)
        split
        · rename_i htransient
          exact hstop out' fun hall => WaitRun.transient status
            (by simpa [transientStatus] using htransient) (hbrings hall)
        split
        · rename_i hpermanent
          exact hstop out' fun hall => WaitRun.failed status
            (by simpa [permanentStatus] using hpermanent) (hbrings hall)
        · rename_i hup htransient hpermanent
          refine hwait out' fun hall => ⟨hpoll, ?_⟩
          intro status' hstatus' hbrings'
          rw [hbrings'.unique (hbrings hall)] at hstatus'
          simp only [terminalStatus, transientStatus, permanentStatus,
            List.cons_append, List.nil_append, List.mem_cons,
            List.not_mem_nil, or_false] at hstatus'
          tauto
      · rw [if_pos hid]
        refine hwait _ fun _ => ⟨hpoll, ?_⟩
        rintro status _ ⟨_, rest, hstatus⟩
        have hnone : polled (x.reply?.map fun reply =>
            (reply.1, reply.2.take 64)) =
              (ezspStackStatusHandler, (status :: rest).take 64) :=
          (polled_reply_iff (by decide) _).mpr ⟨_, hstatus, rfl⟩
        exact hid (Prod.mk.inj (hreply.symm.trans hnone)).1

/-! ## One attempt after the other -/

/-- What an attempt consists of. -/
structure Attempted (params : List Byte) (polls : ℕ) (x : Exchange)
    (waits : List Exchange) (outcome : JoinOutcome) : Prop where
  asks : x.Asks ezspJoinNetwork params
  poll : ∀ y ∈ waits, commandId y.command = ezspCallback
  ends : x.status? ≠ some emberSuccess ∧ waits = [] ∧ outcome = .failed ∨
    x.status? = some emberSuccess ∧
      (StatusCarried waits → WaitRun polls waits outcome)

theorem joinParams_congr {r r' : Router} (hext : r'.extPanId = r.extPanId)
    (nwkUpdateId : Byte) :
    joinParams c r' nwkUpdateId = joinParams c r nwkUpdateId := by
  rw [joinParams, hext, joinParams]

theorem joinOnce_called (nwkUpdateId : Byte) (hcalled : Called xs r h)
    (out : List Byte) :
    Holds anyRun h (joinOnce g c p nwkUpdateId r out : Host σ _)
      fun final h' => ∃ x waits, Called (xs ++ x :: waits) final.1 h' ∧
        final.1.extPanId = r.extPanId ∧
        Attempted (joinParams c r nwkUpdateId) (joinPollCount c) x waits
          final.2.2 := by
  rw [joinOnce]
  apply (ezspCmd_called g p hcalled (by decide)
    (length_joinParams_le c r nwkUpdateId) 64).seq
  rintro _ h' ⟨x, hasks, hmore, rfl⟩
  dsimp only
  rw [status?_reply (by decide)]
  split
  · rename_i hrejected
    exact Holds.pure ⟨x, [], hmore, rfl, hasks, by simp,
      Or.inl ⟨hrejected, rfl, rfl⟩⟩
  · rename_i haccepted
    apply (joinPolls_called g p (joinPollCount c) hmore _).mono
    rintro final h'' ⟨waits, hcalls, hext, hpolls, hrun⟩
    exact ⟨x, waits, by rwa [List.append_cons], hext, hasks, hpolls,
      Or.inr ⟨not_not.mp haccepted, hrun⟩⟩

/-- What came of the attempts. -/
structure Attempts (params : List Byte) (polls retries : ℕ)
    (joins : List Exchange) (result : ℕ) : Prop where
  alike : ∀ x ∈ joins, x.Asks ezspJoinNetwork params ∨
    commandId x.command = ezspCallback
  starts : ∃ x rest, joins = x :: rest ∧ IsJoin x
  run : StatusCarried joins → JoinRun params polls retries joins result

namespace Attempted

variable {params : List Byte} {polls retries result : ℕ} {x : Exchange}
  {waits joins : List Exchange} {outcome : JoinOutcome}

theorem alike (hx : Attempted params polls x waits outcome) :
    ∀ y ∈ x :: waits, y.Asks ezspJoinNetwork params ∨
      commandId y.command = ezspCallback :=
  List.forall_mem_cons.mpr
    ⟨Or.inl hx.asks, fun y hy => Or.inr (hx.poll y hy)⟩

/-- The attempt is the last one. -/
theorem last (hx : Attempted params polls x waits outcome)
    (hlast : outcome = .transient → retries = 0) :
    Attempts params polls retries (x :: waits)
      (if outcome = .up then 0 else 1) := by
  refine ⟨hx.alike, ⟨x, waits, rfl, hx.asks.frameId⟩, fun hcarried => ?_⟩
  have hwaits : StatusCarried waits :=
    fun y hy => hcarried y (List.mem_cons_of_mem x hy)
  rcases hx.ends with ⟨hrejected, rfl, rfl⟩ | ⟨haccepted, hrun⟩
  · exact JoinRun.rejected hx.asks hrejected
  · cases outcome with
    | up => exact JoinRun.up hx.asks haccepted (hrun hwaits)
    | transient =>
        obtain rfl := hlast rfl
        exact JoinRun.exhausted hx.asks haccepted (hrun hwaits)
    | failed => exact JoinRun.failed hx.asks haccepted (hrun hwaits)

/-- The attempt is followed by others. -/
theorem retry (hx : Attempted params polls x waits .transient)
    (hjoins : Attempts params polls retries joins result) :
    Attempts params polls (retries + 1) (x :: (waits ++ joins)) result := by
  refine ⟨?_, ⟨x, _, rfl, hx.asks.frameId⟩, ?_⟩
  · rw [← List.cons_append, List.forall_mem_append]
    exact ⟨hx.alike, hjoins.alike⟩
  · intro hcarried
    rcases hx.ends with ⟨_, _, houtcome⟩ | ⟨haccepted, hrun⟩
    · cases houtcome
    · refine JoinRun.retry hx.asks haccepted (hrun fun y hy => ?_)
        (hjoins.run fun y hy => ?_)
      · exact hcarried y (List.mem_cons_of_mem x (List.mem_append_left _ hy))
      · exact hcarried y (List.mem_cons_of_mem x (List.mem_append_right _ hy))

end Attempted

theorem joinAttempt_called (nwkUpdateId : Byte) (retries : ℕ)
    (hcalled : Called xs r h) (out : List Byte) :
    Holds anyRun h (joinAttempt g c p nwkUpdateId retries r out : Host σ ℕ)
      fun result h' => ∃ joins, calls h' = xs ++ joins ∧
        Attempts (joinParams c r nwkUpdateId) (joinPollCount c) retries joins
          result := by
  induction retries generalizing xs r h out with
  | zero =>
      rw [joinAttempt]
      apply (joinOnce_called g c p nwkUpdateId hcalled out).seq
      rintro ⟨r', out', outcome⟩ h' ⟨x, waits, hcalls, _, hattempted⟩
      exact Holds.pure ⟨_, hcalls.calls, hattempted.last fun _ => rfl⟩
  | succ retries ih =>
      rw [joinAttempt]
      apply (joinOnce_called g c p nwkUpdateId hcalled out).seq
      rintro ⟨r', out', outcome⟩ h' ⟨x, waits, hcalls, hext, hattempted⟩
      cases outcome with
      | up => exact Holds.pure ⟨_, hcalls.calls, hattempted.last nofun⟩
      | failed => exact Holds.pure ⟨_, hcalls.calls, hattempted.last nofun⟩
      | transient =>
          apply (ih hcalls out').mono
          rintro result h'' ⟨joins, hcalls', hattempts⟩
          rw [joinParams_congr c hext] at hattempts
          refine ⟨x :: (waits ++ joins), ?_, hattempted.retry hattempts⟩
          rw [hcalls', List.append_assoc, List.cons_append]

/-! ## Before the attempts -/

/-- The buffer after these answers. -/
def heardIn (xs : List Exchange) (out : List Byte) : List Byte :=
  xs.foldl (fun out x => overwrite out 0 x.payload) out

/-- With this answer the buffer reads as a beacon of the network. -/
def ReadsAs (panId : BitVec 16) (out : List Byte) (y : Exchange) : Prop :=
  (∃ payload, y.reply? = some (ezspNetworkFoundHandler, payload)) ∧
    (beaconOf (overwrite out 0 y.payload)).panId = panId

/-- The polls of a scan end with the first such answer, and this is the id that
the buffer shows then. -/
structure FoundIn (panId : BitVec 16) (ext : List Byte) (out : List Byte)
    (heard : List Exchange) (y : Exchange) : Prop where
  overlooked : ∀ front z rest, heard = front ++ z :: rest →
    ¬ReadsAs panId (heardIn front out) z
  reads : ReadsAs panId (heardIn heard out) y
  ext : ext = (beaconOf (heardIn (heard ++ [y]) out)).extPanId

/-- The polls of a scan with this result. -/
structure ScanPolled (panId : BitVec 16) (out : List Byte)
    (heard : List Exchange) (result : ScanResult) : Prop where
  polls : ∀ x ∈ heard, commandId x.command = ezspCallback
  started : result ≠ .failed
  found : ∀ ext allowing nwkUpdateId,
    result = .found ext allowing nwkUpdateId →
      ∃ front y, heard = front ++ [y] ∧ FoundIn panId ext out front y

theorem ScanPolled.cons {panId : BitVec 16} {out : List Byte} {x : Exchange}
    {heard : List Exchange} {result : ScanResult}
    (hx : commandId x.command = ezspCallback) (hskip : ¬ReadsAs panId out x)
    (hheard : ScanPolled panId (overwrite out 0 x.payload) heard result) :
    ScanPolled panId out (x :: heard) result := by
  refine ⟨List.forall_mem_cons.mpr ⟨hx, hheard.polls⟩, hheard.started, ?_⟩
  intro ext allowing nwkUpdateId hresult
  obtain ⟨heard', y, rfl, hy⟩ := hheard.found _ _ _ hresult
  refine ⟨x :: heard', y, rfl, fun front z rest hsplit => ?_, hy.reads, hy.ext⟩
  cases front with
  | nil =>
      obtain ⟨rfl, _⟩ := List.cons.inj hsplit
      exact hskip
  | cons x' front =>
      obtain ⟨rfl, hlater⟩ := List.cons.inj hsplit
      exact hy.overlooked front z rest hlater

/-- A scan that ends without the network. -/
theorem ScanPolled.absent {panId : BitVec 16} {out : List Byte}
    {heard : List Exchange}
    (hpolls : ∀ x ∈ heard, commandId x.command = ezspCallback) :
    ScanPolled panId out heard .notFound :=
  ⟨hpolls, nofun, nofun⟩

/-- A scan that ends with it. -/
theorem ScanPolled.hit {panId : BitVec 16} {out ext : List Byte}
    {heard : List Exchange} {allowing : Bool} {nwkUpdateId : Byte}
    (hpolls : ∀ x ∈ heard, commandId x.command = ezspCallback)
    (hfound : ∃ front y, heard = front ++ [y] ∧ FoundIn panId ext out front y) :
    ScanPolled panId out heard (.found ext allowing nwkUpdateId) where
  polls := hpolls
  started := nofun
  found _ _ _ hresult := by
    cases hresult
    exact hfound

theorem scanPolls_called (panId : BitVec 16) (polls : ℕ)
    (hcalled : Called xs r h) (out : List Byte) :
    Holds anyRun h (scanPolls g p panId polls r out : Host σ _) fun final h' =>
      ∃ heard, Called (xs ++ heard) final.1 h' ∧
        ScanPolled panId out heard final.2 := by
  induction polls generalizing xs r h out with
  | zero =>
      exact Holds.pure ⟨[], by rwa [List.append_nil],
        ScanPolled.absent (List.forall_mem_nil _)⟩
  | succ polls ih =>
      rw [scanPolls]
      apply (ezspPollCallback_called g p hcalled 64).seq
      rintro _ h' ⟨x, hasks, hmore, rfl⟩
      have hpoll : ∀ y ∈ [x], commandId y.command = ezspCallback :=
        fun y hy => List.mem_singleton.mp hy ▸ hasks.frameId
      have hpayload := polled_payload x
      generalize hreply : polled _ = reply at hpayload
      obtain ⟨id, payload⟩ := reply
      obtain rfl : payload = x.payload := hpayload
      dsimp only
      have hgo (hskip : ¬ReadsAs panId out x) : Holds anyRun h'
          (scanPolls g p panId polls { r with seq := r.seq + 1 }
            (overwrite out 0 x.payload) : Host σ _)
          fun final h' => ∃ heard, Called (xs ++ heard) final.1 h' ∧
            ScanPolled panId out heard final.2 := by
        apply (ih hmore _).mono
        rintro final h'' ⟨heard, hcalls, hpolled⟩
        exact ⟨x :: heard, by rwa [List.append_cons],
          hpolled.cons hasks.frameId hskip⟩
      split
      · rename_i hid
        split
        · rename_i hpan
          exact hgo fun hreads => hpan hreads.2
        · rename_i hpan
          obtain ⟨full, hfull, _⟩ :=
            (polled_reply_iff (by decide) _).mp (hid ▸ hreply)
          have hreads : ReadsAs panId out x :=
            ⟨⟨full, hfull⟩, not_not.mp hpan⟩
          exact Holds.pure ⟨[x], hmore,
            ScanPolled.hit hpoll ⟨[], x, rfl, by simp, hreads, rfl⟩⟩
      rename_i hid
      split
      · exact Holds.pure ⟨[x], hmore, ScanPolled.absent hpoll⟩
      · refine hgo fun hreads => hid ?_
        obtain ⟨full, hfull⟩ := hreads.1
        rw [hfull] at hreply
        exact (Prod.mk.inj hreply).1.symm

/-- The security state is set, the last step before the first attempt. -/
def SecurityAccepted (xs : List Exchange) : Prop :=
  ∃ x ∈ xs, commandId x.command = ezspSetInitialSecurityState ∧
    x.status? = some emberSuccess

/-- A command that comes before the security state is set. -/
def IsEarly (frameId : Byte) : Prop :=
  frameId ≠ ezspJoinNetwork ∧ frameId ≠ ezspSetInitialSecurityState

instance (frameId : Byte) : Decidable (IsEarly frameId) :=
  inferInstanceAs (Decidable (_ ∧ _))

theorem not_securityAccepted {xs : List Exchange}
    (hxs : ∀ x ∈ xs, IsEarly (commandId x.command)) : ¬SecurityAccepted xs := by
  rintro ⟨x, hx, hsets, _⟩
  exact (hxs x hx).2 hsets

/-- The look at the network, and the extended pan id to go on with. -/
inductive Precheck (r : Router) (out : List Byte) :
    List Exchange → List Byte → Prop
  | skipped (hskip : c.noPrecheck = true) : Precheck r out [] r.extPanId
  | failed {x : Exchange} (hx : commandId x.command = ezspStartScan)
      (hstatus : x.status? ≠ some emberSuccess) :
      Precheck r out [x] r.extPanId
  | found {x y : Exchange} {heard : List Exchange} {ext : List Byte}
      (hx : commandId x.command = ezspStartScan)
      (hstatus : x.status? = some emberSuccess)
      (hpolls : ∀ z ∈ heard ++ [y], commandId z.command = ezspCallback)
      (hfound : FoundIn c.panId ext (overwrite out 0 x.payload) heard y) :
      Precheck r out (x :: (heard ++ [y])) ext

theorem Precheck.congr {r r' : Router} (hext : r'.extPanId = r.extPanId)
    {out : List Byte} {looked : List Exchange} {ext : List Byte}
    (hlooked : Precheck c r' out looked ext) :
    Precheck c r out looked ext := by
  cases hlooked with
  | skipped hskip => exact hext ▸ Precheck.skipped hskip
  | failed hx hstatus => exact hext ▸ Precheck.failed hx hstatus
  | found hx hstatus hpolls hfound =>
      exact Precheck.found hx hstatus hpolls hfound

theorem joinPrecheck_called (hcalled : Called xs r h) (out : List Byte) :
    Holds anyRun h (joinPrecheck g c p r out : Host σ _) fun final h' =>
      ∃ looked, Called (xs ++ looked) final.1 h' ∧
        (∀ x ∈ looked, IsEarly (commandId x.command)) ∧
        (final.2 ≠ none → Precheck c r out looked final.1.extPanId) := by
  rw [joinPrecheck]
  split
  · rename_i hskip
    exact Holds.pure ⟨[], by rwa [List.append_nil], by simp,
      fun _ => Precheck.skipped hskip⟩
  · have hparams : (scanParams (1 <<< c.channel.toNat) 3).length ≤ 135 := by
      simp [scanParams]
    rw [scanFind, bind_assoc]
    apply (ezspCmd_called g p hcalled (by decide) hparams 64).seq
    rintro _ h' ⟨x, hasks, hmore, rfl⟩
    have hfirst : IsEarly (commandId x.command) := by
      rw [hasks.frameId]
      decide
    dsimp only
    rw [status?_reply (by decide)]
    split
    · rename_i hstatus
      rw [pure_bind]
      refine Holds.pure ⟨[x], hmore, by simpa using hfirst, fun _ => ?_⟩
      exact Precheck.failed hasks.frameId hstatus
    · rename_i hstatus
      apply (scanPolls_called g p c.panId 80 hmore _).seq
      rintro ⟨r', result⟩ h'' ⟨heard, hcalls, hpolled⟩
      have hcalls' : Called (xs ++ x :: heard) r' h'' := by
        rwa [List.append_cons]
      have hearly : ∀ y ∈ x :: heard, IsEarly (commandId y.command) := by
        refine List.forall_mem_cons.mpr ⟨hfirst, fun y hy => ?_⟩
        rw [hpolled.polls y hy]
        decide
      cases result with
      | failed => exact absurd rfl hpolled.started
      | notFound => exact Holds.pure ⟨_, hcalls', hearly, fun h => absurd rfl h⟩
      | found ext allowing nwkUpdateId =>
          obtain ⟨front, y, rfl, hy⟩ := hpolled.found _ _ _ rfl
          refine Holds.pure ⟨_, hcalls'.congr rfl, hearly, fun _ => ?_⟩
          exact Precheck.found hasks.frameId (not_not.mp hstatus)
            hpolled.polls hy

/-- A command that comes before the attempts, and not for the scan. -/
def IsSetup (frameId : Byte) : Prop :=
  frameId ∉ [ezspJoinNetwork, ezspCallback, ezspStartScan]

instance (frameId : Byte) : Decidable (IsSetup frameId) :=
  inferInstanceAs (Decidable (_ ∉ _))

/-- One of these that comes before the security state is set. -/
def IsPreparation (frameId : Byte) : Prop :=
  IsSetup frameId ∧ IsEarly frameId

instance (frameId : Byte) : Decidable (IsPreparation frameId) :=
  inferInstanceAs (Decidable (_ ∧ _))

theorem joinConfigured_called (nwkUpdateId : Byte) (hcalled : Called xs r h)
    (out : List Byte) :
    Holds anyRun h (joinConfigured g c p nwkUpdateId r out : Host σ ℕ)
      fun result h' => ∃ config joins, calls h' = xs ++ config ++ joins ∧
        (∀ x ∈ config, IsSetup (commandId x.command)) ∧
        (joins = [] ∧ result = 1 ∧ ¬SecurityAccepted config ∨
          SecurityAccepted config ∧
            Attempts (joinParams c r nwkUpdateId) (joinPollCount c)
              c.joinRetries.toInt.toNat joins result) := by
  have hI := upheld_calledSince (σ := σ) xs IsPreparation r
  have hsecurity := length_securityParams_le c
  rw [joinConfigured]
  apply (hI.ezspApplyConfig g p (by decide) (by decide) r h
    (hcalled.since IsPreparation)).seq
  intro r' h' hsince
  apply (hI.ezspCmd g p (by decide) r' (by decide) 64 h' hsince).seq
  rintro ⟨r', profile⟩ h' ⟨config, hcalls, hconfig, halike⟩
  have hsetup : ∀ x ∈ config, IsSetup (commandId x.command) :=
    fun x hx => (hconfig x hx).1
  have hunset := not_securityAccepted fun x hx => (hconfig x hx).2
  dsimp only at hcalls ⊢
  split
  · refine Holds.pure ⟨config, [], ?_, hsetup, Or.inl ⟨rfl, rfl, hunset⟩⟩
    rw [List.append_nil]
    exact hcalls.calls
  apply (ezspCmd_called g p hcalls (by decide) hsecurity 64).seq
  rintro _ h' ⟨x, hasks, hmore, rfl⟩
  rw [List.append_assoc] at hmore
  have hsetup' : ∀ y ∈ config ++ [x], IsSetup (commandId y.command) := by
    refine List.forall_mem_append.mpr ⟨hsetup, List.forall_mem_singleton.mpr ?_⟩
    rw [hasks.frameId]
    decide
  dsimp only
  rw [status?_reply (by decide)]
  split
  · rename_i hrefused
    refine Holds.pure ⟨config ++ [x], [], ?_, hsetup', Or.inl ⟨rfl, rfl, ?_⟩⟩
    · rw [List.append_nil]
      exact hmore.calls
    · rintro ⟨y, hy, hsets, haccepted⟩
      rcases List.mem_append.mp hy with hy | hy
      · exact hunset ⟨y, hy, hsets, haccepted⟩
      · exact hrefused (List.mem_singleton.mp hy ▸ haccepted)
  · rename_i haccepted
    have haccepted' : SecurityAccepted (config ++ [x]) :=
      ⟨x, List.mem_concat_self, hasks.frameId, not_not.mp haccepted⟩
    apply (joinAttempt_called g c p nwkUpdateId _ hmore _).mono
    rintro result h'' ⟨joins, hcalls', hattempts⟩
    have hext : { r' with seq := r'.seq + 1 }.extPanId = r.extPanId :=
      halike.extPanId
    exact ⟨config ++ [x], joins, hcalls', hsetup',
      Or.inr ⟨haccepted', joinParams_congr c hext nwkUpdateId ▸ hattempts⟩⟩

/-! ## The command -/

/-- The calls of `cmd_join` with this exit status. -/
inductive Joining (r : Router) (out : List Byte) : List Exchange → ℕ → Prop
  | early {xs : List Exchange} (hxs : ∀ x ∈ xs, ¬IsJoin x)
      (hunset : ¬SecurityAccepted xs) : Joining r out xs 1
  | attempted {opening looked config joins : List Exchange} {ext : List Byte}
      {nwkUpdateId : Byte} {result : ℕ}
      (hopening : ∀ x ∈ opening, IsSetup (commandId x.command))
      (hlooked : ∀ x ∈ looked, ¬IsJoin x)
      (hprecheck : Precheck c r out looked ext)
      (hconfig : ∀ x ∈ config, IsSetup (commandId x.command))
      (haccepted : SecurityAccepted config)
      (hjoins : Attempts (joinParams c { r with extPanId := ext } nwkUpdateId)
        (joinPollCount c) c.joinRetries.toInt.toNat joins result) :
      Joining r out (opening ++ looked ++ config ++ joins) result

theorem IsSetup.not_isJoin {x : Exchange} (hx : IsSetup (commandId x.command)) :
    ¬IsJoin x :=
  fun hjoin => hx (hjoin ▸ List.mem_cons_self)

theorem cmdJoin_called (scanOut out : List Byte) (r : Router) :
    Holds anyRun [] (cmdJoin g c p scanOut out r : Host σ ℕ) fun result h' =>
      (r.haveExtPanId = true ∨ c.noPrecheck = false) ∧
        Joining c r scanOut (calls h') result := by
  rw [cmdJoin]
  split
  · exact Holds.halt trivial
  split
  · exact Holds.halt trivial
  rename_i hgiven
  have hgiven : r.haveExtPanId = true ∨ c.noPrecheck = false := by
    simpa [or_iff_not_imp_left] using hgiven
  have hI := upheld_calledSince (σ := σ) [] IsPreparation r
  apply (hI.radioUp g p (by decide) c r []
    ((Called.start r).since IsPreparation)).seq
  rintro ⟨r', ver⟩ h' ⟨opening, hcalls, hopening, halike⟩
  rw [List.nil_append] at hcalls
  have hext : r'.extPanId = r.extPanId := halike.extPanId
  have hstart : ∀ x ∈ opening, IsEarly (commandId x.command) :=
    fun x hx => (hopening x hx).2
  dsimp only at hcalls ⊢
  split
  · refine Holds.pure ⟨hgiven, ?_⟩
    rw [hcalls.calls]
    exact Joining.early (fun x hx => (hstart x hx).1)
      (not_securityAccepted hstart)
  apply (joinPrecheck_called g c p hcalls scanOut).seq
  rintro ⟨r'', go⟩ h'' ⟨looked, hcalls', hlooked, hprecheck⟩
  have hearly : ∀ x ∈ opening ++ looked, IsEarly (commandId x.command) :=
    List.forall_mem_append.mpr ⟨hstart, hlooked⟩
  cases go with
  | none =>
      refine Holds.pure ⟨hgiven, ?_⟩
      rw [hcalls'.calls]
      exact Joining.early (fun x hx => (hearly x hx).1)
        (not_securityAccepted hearly)
  | some nwkUpdateId =>
      apply (joinConfigured_called g c p nwkUpdateId hcalls' out).mono
      rintro result h''' ⟨config, joins, hcalls'', hconfig, hresult⟩
      refine ⟨hgiven, ?_⟩
      rw [hcalls'']
      rcases hresult with ⟨rfl, rfl, hunset⟩ | ⟨haccepted, hattempts⟩
      · rw [List.append_nil]
        refine Joining.early (List.forall_mem_append.mpr ⟨?_, ?_⟩) ?_
        · exact fun x hx => (hearly x hx).1
        · exact fun x hx => (hconfig x hx).not_isJoin
        · rintro ⟨x, hx, hsets, haccepted⟩
          rcases List.mem_append.mp hx with hx | hx
          · exact (hearly x hx).2 hsets
          · exact hunset ⟨x, hx, hsets, haccepted⟩
      · have hids : r''.extPanId =
            { r with extPanId := r''.extPanId }.extPanId := rfl
        exact Joining.attempted (fun x hx => (hopening x hx).1)
          (fun x hx => (hlooked x hx).1) ((hprecheck nofun).congr c hext)
          hconfig haccepted (joinParams_congr c hids nwkUpdateId ▸ hattempts)

/-- The attempts are limited and made again for a reason, and the exit status
tells of the network. -/
structure JoinsBounded (retries polls : ℕ) (xs : List Exchange)
    (result : ℕ) : Prop where
  attempts : xs.countP (fun x => decide (IsJoin x)) ≤ retries + 1
  retried : RetriesTransient xs
  success : result = 0 ↔ JoinedWithin polls xs

theorem Joining.bounded {r : Router} {out : List Byte} {xs : List Exchange}
    {result : ℕ} (hjoining : Joining c r out xs result)
    (hcarried : StatusCarried xs) :
    JoinsBounded c.joinRetries.toInt.toNat (joinPollCount c) xs result := by
  cases hjoining with
  | early hxs _ =>
      refine ⟨?_, ⟨xs, [], (List.append_nil xs).symm, hxs, List.isChain_nil⟩, ?_⟩
      · rw [countP_isJoin_of_none hxs]
        exact Nat.zero_le _
      · refine iff_of_false one_ne_zero ?_
        rintro ⟨x, rest, hsuffix, hx, _⟩
        exact hxs x (hsuffix.subset List.mem_cons_self) hx
  | @attempted opening looked config joins _ _ _ hopening hlooked hprecheck
      hconfig _ hjoins =>
      have hbefore : ∀ x ∈ opening ++ looked ++ config, ¬IsJoin x := by
        simp only [List.forall_mem_append]
        exact ⟨⟨fun x hx => (hopening x hx).not_isJoin, hlooked⟩,
          fun x hx => (hconfig x hx).not_isJoin⟩
      have hrun := hjoins.run hcarried.of_append
      refine ⟨?_, hrun.retriesTransient hbefore, ?_⟩
      · rw [List.countP_append, countP_isJoin_of_none hbefore, zero_add]
        exact hrun.countP_le
      · rw [joinedWithin_append hbefore]
        exact hrun.joined_iff

end Attempts

/-- What `cmd_join` insists on before it starts. -/
def Joinable (r : Router) : Prop :=
  c.channel ≠ 0 ∧ c.havePanId = true ∧
    (r.haveExtPanId = true ∨ c.noPrecheck = false)

instance (r : Router) : Decidable (Joinable c r) :=
  inferInstanceAs (Decidable (_ ∧ _ ∧ (_ ∨ _)))

/-- The checks at the start. -/
theorem not_joinable_iff (r : Router) :
    ¬Joinable c r ↔ (c.channel = 0 ∨ c.havePanId = false) ∨
      r.haveExtPanId = false ∧ c.noPrecheck = true := by
  simp only [Joinable, not_and_or, not_or, not_not, Bool.not_eq_true,
    Bool.not_eq_false, or_assoc]

theorem cmdJoin_of_not_joinable (scanOut out : List Byte) {r : Router}
    (hnot : ¬Joinable c r) : (cmdJoin g c p scanOut out r : Host σ ℕ) = die := by
  rw [cmdJoin]
  rcases (not_joinable_iff c r).mp hnot with hunknown | hunknown
  · exact if_pos hunknown
  · rw [if_pos hunknown, ite_self]

/-- The command comes to its end, other than by its own checks, exactly if
nothing disturbs the bus. -/
theorem cmdJoin_ends (scanOut out : List Byte) (r : Router) (s : σ) :
    (∃ result, (cmdJoin g c p scanOut out r s).outcome = .done result) ↔
      Joinable c r ∧ BusWorks (cmdJoin g c p scanOut out r s).trace := by
  by_cases hjoinable : Joinable c r
  · obtain ⟨hknown, hgiven⟩ := not_or.mp
      ((not_joinable_iff c r).not.mp (not_not.mpr hjoinable))
    rw [and_iff_right hjoinable, cmdJoin, if_neg hknown, if_neg hgiven]
    have hJ := commandParts_ends (σ := σ) g p
    revert s
    apply hJ.bind (radioUp_ends g p c r)
    rintro ⟨r', ver⟩
    dsimp only
    split
    · exact hJ.pure 1
    apply hJ.bind (hJ.joinPrecheck c r' scanOut)
    rintro ⟨r'', go⟩
    cases go with
    | none => exact hJ.pure 1
    | some nwkUpdateId => exact hJ.joinConfigured trivial trivial c _ r'' out
  · rw [cmdJoin_of_not_joinable g c p scanOut out hjoinable]
    exact iff_of_false nofun fun h => hjoinable h.1

/-- The attempts of `cmd_join` are bounded, and its success is real: for every
number of retries and every timeout that an `int` can hold, whatever the NCP
answers as long as every `stackStatusHandler` carries its status, and in
whatever surroundings the command is run. -/
theorem cmdJoin_bounded (scanOut out : List Byte) (r : Router) (s : σ)
    (hretries : c.joinRetries.toNat < 2 ^ 31)
    (htimeout : 4 * c.joinTimeout.toNat < 2 ^ 31)
    (hcarried : StatusCarried (calls (cmdJoin g c p scanOut out r s).trace)) :
    ((∃ result, (cmdJoin g c p scanOut out r s).outcome = .done result) ↔
      Joinable c r ∧ BusWorks (cmdJoin g c p scanOut out r s).trace) ∧
    ∀ result, (cmdJoin g c p scanOut out r s).outcome = .done result →
      JoinsBounded c.joinRetries.toNat (4 * c.joinTimeout.toNat)
        (calls (cmdJoin g c p scanOut out r s).trace) result := by
  refine ⟨cmdJoin_ends g c p scanOut out r s, fun result hdone => ?_⟩
  obtain ⟨_, hjoining⟩ :=
    (cmdJoin_called g c p scanOut out r s).2.1 result hdone
  have hbounded := hjoining.bounded c hcarried
  have hcount : c.joinRetries.toInt.toNat = c.joinRetries.toNat := by
    rw [BitVec.toInt_eq_toNat_of_lt (by omega)]
    rfl
  have hpolls : joinPollCount c = 4 * c.joinTimeout.toNat := by
    have hexact : (4 * c.joinTimeout).toNat = 4 * c.joinTimeout.toNat := by
      rw [BitVec.toNat_mul]
      exact Nat.mod_eq_of_lt (by simp; omega)
    rw [joinPollCount, BitVec.toInt_eq_toNat_of_lt (by omega), hexact]
    rfl
  rwa [hcount, hpolls] at hbounded

/-! ## A join that needs a second attempt -/

/-- The key of the trust centre gets lost once. -/
def retryingNcp : Responder := obligingNcp 0x00 fun n =>
  if n = 9 then [ezspStackStatusHandler, 0xAD]
  else if n = 11 then [ezspStackStatusHandler, emberNetworkUp]
  else [ezspNoCallbacks]

/-- A channel and a pan id are given. -/
def joinCfg : RouterCfg := { defaultCfg with
  noReset := true, channel := 11, panId := 0x1A62, havePanId := true }

/-- And the extended pan id as well. -/
def suppliedRouter : Router := { routerInit with
  extPanId := [0x01, 0x02, 0x03, 0x04, 0x05, 0x06, 0x07, 0x08],
  haveExtPanId := true }

def retriedJoin : Run host Responder ℕ :=
  cmdJoin ⟨⟨2, false⟩, true⟩ { joinCfg with noPrecheck := true }
    ⟨3, 4, 5, 7, 6⟩ (List.replicate 64 0) (List.replicate 64 0) suppliedRouter
    retryingNcp

theorem cmdJoin_bounded_retried :
    ((∃ result, retriedJoin.outcome = .done result) ↔
      Joinable { joinCfg with noPrecheck := true } suppliedRouter ∧
        BusWorks retriedJoin.trace) ∧
    ∀ result, retriedJoin.outcome = .done result →
      JoinsBounded 2 240 (calls retriedJoin.trace) result :=
  cmdJoin_bounded _ _ _ _ _ _ _ (by decide) (by decide) (by decide +kernel)

end EzspSpi
