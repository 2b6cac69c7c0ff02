import EzspSpi.Router.Calls
import EzspSpi.Router.Flows
import Mathlib.Data.List.Chain
import Mathlib.Data.List.Infix

/-!
# Attempts to join

The attempts of `cmd_join`, one after the other as long as they fail for a
reason that may go away, as the calls on the bus show them.
-/

namespace EzspSpi

open Program

/-! ## Attempts -/

def IsJoin (x : Exchange) : Prop := commandId x.command = ezspJoinNetwork

instance (x : Exchange) : Decidable (IsJoin x) :=
  inferInstanceAs (Decidable (_ = _))

/-- A poll that brings this stack status. -/
def BringsStatus (status : Byte) (x : Exchange) : Prop :=
  commandId x.command = ezspCallback ∧
    ∃ rest, x.reply? = some (ezspStackStatusHandler, status :: rest)

/-- The statuses that are worth a fresh attempt, and those that are not. -/
def transientStatus : List Byte := [0xAD, 0x94]

def permanentStatus : List Byte := [0xAB, 0x98, 0xAF]

def terminalStatus : List Byte := transientStatus ++ permanentStatus

/-- Every `stackStatusHandler` that is polled carries its status. -/
def StatusCarried (xs : List Exchange) : Prop :=
  ∀ x ∈ xs, commandId x.command = ezspCallback →
    x.reply? ≠ some (ezspStackStatusHandler, [])

instance (xs : List Exchange) : Decidable (StatusCarried xs) :=
  inferInstanceAs (Decidable (∀ x ∈ xs, _))

/-- A poll after which the wait goes on. -/
def LetsWait (x : Exchange) : Prop :=
  commandId x.command = ezspCallback ∧
    ∀ status ∈ emberNetworkUp :: terminalStatus, ¬BringsStatus status x

/-- The wait for the network, with so many polls left. -/
inductive WaitRun : ℕ → List Exchange → JoinOutcome → Prop
  | timeout : WaitRun 0 [] .failed
  | up {n : ℕ} {x : Exchange} (hx : BringsStatus emberNetworkUp x) :
      WaitRun (n + 1) [x] .up
  | transient {n : ℕ} {x : Exchange} (status : Byte)
      (hstatus : status ∈ transientStatus) (hx : BringsStatus status x) :
      WaitRun (n + 1) [x] .transient
  | failed {n : ℕ} {x : Exchange} (status : Byte)
      (hstatus : status ∈ permanentStatus) (hx : BringsStatus status x) :
      WaitRun (n + 1) [x] .failed
  | wait {n : ℕ} {x : Exchange} {xs : List Exchange} {outcome : JoinOutcome}
      (hx : LetsWait x) (hxs : WaitRun n xs outcome) :
      WaitRun (n + 1) (x :: xs) outcome

/-- The attempts with these parameters, with so many retries left, and what
`cmd_join` returns. -/
inductive JoinRun (params : List Byte) (polls : ℕ) :
    ℕ → List Exchange → ℕ → Prop
  | rejected {retries : ℕ} {x : Exchange} (hx : x.Asks ezspJoinNetwork params)
      (hstatus : x.status? ≠ some emberSuccess) :
      JoinRun params polls retries [x] 1
  | up {retries : ℕ} {x : Exchange} {waits : List Exchange}
      (hx : x.Asks ezspJoinNetwork params)
      (hstatus : x.status? = some emberSuccess)
      (hwaits : WaitRun polls waits .up) :
      JoinRun params polls retries (x :: waits) 0
  | failed {retries : ℕ} {x : Exchange} {waits : List Exchange}
      (hx : x.Asks ezspJoinNetwork params)
      (hstatus : x.status? = some emberSuccess)
      (hwaits : WaitRun polls waits .failed) :
      JoinRun params polls retries (x :: waits) 1
  | exhausted {x : Exchange} {waits : List Exchange}
      (hx : x.Asks ezspJoinNetwork params)
      (hstatus : x.status? = some emberSuccess)
      (hwaits : WaitRun polls waits .transient) :
      JoinRun params polls 0 (x :: waits) 1
  | retry {retries : ℕ} {x : Exchange} {waits xs : List Exchange} {result : ℕ}
      (hx : x.Asks ezspJoinNetwork params)
      (hstatus : x.status? = some emberSuccess)
      (hwaits : WaitRun polls waits .transient)
      (hxs : JoinRun params polls retries xs result) :
      JoinRun params polls (retries + 1) (x :: (waits ++ xs)) result

/-- NETWORK_UP within so many polls, and no terminal status before it. -/
def UpWithin : ℕ → List Exchange → Prop
  | 0, _ => False
  | _ + 1, [] => False
  | n + 1, x :: xs =>
      BringsStatus emberNetworkUp x ∨ LetsWait x ∧ UpWithin n xs

/-- An accepted joinNetwork is followed by NETWORK_UP within so many polls. -/
def JoinedWithin (polls : ℕ) (xs : List Exchange) : Prop :=
  ∃ x rest, x :: rest <:+ xs ∧ IsJoin x ∧ x.status? = some emberSuccess ∧
    UpWithin polls rest

/-- Every joinNetwork but the first directly follows a transient status. -/
def RetriesTransient (xs : List Exchange) : Prop :=
  ∃ before joins, xs = before ++ joins ∧ (∀ x ∈ before, ¬IsJoin x) ∧
    joins.IsChain fun y x =>
      IsJoin x → ∃ status ∈ transientStatus, BringsStatus status y

theorem BringsStatus.unique {status status' : Byte} {x : Exchange}
    (hx : BringsStatus status x) (hx' : BringsStatus status' x) :
    status = status' := by
  obtain ⟨_, rest, hreply⟩ := hx
  obtain ⟨_, rest', hreply'⟩ := hx'
  rw [hreply] at hreply'
  cases hreply'
  rfl

theorem not_isJoin_of_poll {x : Exchange}
    (hx : commandId x.command = ezspCallback) : ¬IsJoin x :=
  fun hjoin => absurd (hx.symm.trans hjoin) (by decide)

namespace WaitRun

variable {n : ℕ} {waits : List Exchange} {outcome : JoinOutcome}

theorem not_isJoin (hwaits : WaitRun n waits outcome) :
    ∀ x ∈ waits, ¬IsJoin x := by
  induction hwaits with
  | timeout => exact fun x hx => absurd hx List.not_mem_nil
  | up hx => exact fun y hy => List.mem_singleton.mp hy ▸ not_isJoin_of_poll hx.1
  | transient status hstatus hx =>
      exact fun y hy => List.mem_singleton.mp hy ▸ not_isJoin_of_poll hx.1
  | failed status hstatus hx =>
      exact fun y hy => List.mem_singleton.mp hy ▸ not_isJoin_of_poll hx.1
  | wait hx hxs ih =>
      intro y hy
      rcases List.mem_cons.mp hy with rfl | hy
      · exact not_isJoin_of_poll hx.1
      · exact ih y hy

/-- The last poll of an attempt that is worth another one. -/
theorem ends_transient (hwaits : WaitRun n waits .transient) :
    ∃ y ∈ waits.getLast?, ∃ status ∈ transientStatus, BringsStatus status y := by
  generalize houtcome : JoinOutcome.transient = outcome at hwaits
  induction hwaits with
  | timeout => cases houtcome
  | up hx => cases houtcome
  | transient status hstatus hx => exact ⟨_, rfl, status, hstatus, hx⟩
  | failed status hstatus hx => cases houtcome
  | wait hx hxs ih =>
      obtain ⟨y, hy, hstatus⟩ := ih houtcome
      exact ⟨y, List.mem_getLast?_cons hy, hstatus⟩

/-- The network comes up exactly if NETWORK_UP is polled in time. -/
theorem upWithin_iff (hwaits : WaitRun n waits outcome) (xs : List Exchange) :
    UpWithin n (waits ++ xs) ↔ outcome = .up := by
  have hends {status : Byte} (hstatus : status ∈ terminalStatus)
      {n : ℕ} {x : Exchange} (hx : BringsStatus status x) :
      ¬UpWithin (n + 1) ([x] ++ xs) := by
    rintro (hup | ⟨hwait, _⟩)
    · rw [hx.unique hup] at hstatus
      exact absurd hstatus (by decide)
    · exact hwait.2 status (List.mem_cons_of_mem _ hstatus) hx
  induction hwaits with
  | timeout => exact iff_of_false id nofun
  | up hx => exact iff_of_true (Or.inl hx) rfl
  | transient status hstatus hx =>
      exact iff_of_false (hends (List.mem_append_left _ hstatus) hx) nofun
  | failed status hstatus hx =>
      exact iff_of_false (hends (List.mem_append_right _ hstatus) hx) nofun
  | wait hx hxs ih =>
      refine Iff.trans ?_ ih
      constructor
      · rintro (hup | ⟨_, hlater⟩)
        · exact absurd hup (hx.2 _ List.mem_cons_self)
        · exact hlater
      · exact fun hlater => Or.inr ⟨hx, hlater⟩

end WaitRun

theorem suffix_of_not_isJoin {before xs rest : List Exchange} {x : Exchange}
    (hbefore : ∀ y ∈ before, ¬IsJoin y) (hx : IsJoin x) :
    x :: rest <:+ before ++ xs ↔ x :: rest <:+ xs := by
  induction before with
  | nil => rfl
  | cons y before ih =>
      rw [List.cons_append, List.suffix_cons_iff,
        ih fun z hz => hbefore z (List.mem_cons_of_mem y hz)]
      refine or_iff_right fun h => ?_
      exact hbefore y List.mem_cons_self ((List.cons.inj h).1 ▸ hx)

/-- What comes before the first joinNetwork does not matter. -/
theorem joinedWithin_append {before : List Exchange}
    (hbefore : ∀ y ∈ before, ¬IsJoin y) (polls : ℕ) (xs : List Exchange) :
    JoinedWithin polls (before ++ xs) ↔ JoinedWithin polls xs := by
  apply exists_congr
  intro x
  apply exists_congr
  intro rest
  constructor
  · rintro ⟨hsuffix, hx, hrest⟩
    exact ⟨(suffix_of_not_isJoin hbefore hx).mp hsuffix, hx, hrest⟩
  · rintro ⟨hsuffix, hx, hrest⟩
    exact ⟨(suffix_of_not_isJoin hbefore hx).mpr hsuffix, hx, hrest⟩

/-- The first attempt, or a later one. -/
theorem joinedWithin_attempt {polls : ℕ} {x : Exchange} {waits : List Exchange}
    {outcome : JoinOutcome} (hx : IsJoin x) (hwaits : WaitRun polls waits outcome)
    (hstatus : x.status? = some emberSuccess) (xs : List Exchange) :
    JoinedWithin polls (x :: (waits ++ xs)) ↔
      outcome = .up ∨ JoinedWithin polls xs := by
  rw [← joinedWithin_append hwaits.not_isJoin polls xs, ← hwaits.upWithin_iff xs]
  constructor
  · rintro ⟨y, rest, hsuffix, hy, hrest⟩
    rcases List.suffix_cons_iff.mp hsuffix with heq | hlater
    · obtain ⟨rfl, rfl⟩ := List.cons.inj heq
      exact Or.inl hrest.2
    · exact Or.inr ⟨y, rest, hlater, hy, hrest⟩
  · rintro (hup | ⟨y, rest, hlater, hy, hrest⟩)
    · exact ⟨x, _, List.suffix_refl _, hx, hstatus, hup⟩
    · exact ⟨y, rest, hlater.trans (List.suffix_cons _ _), hy, hrest⟩

theorem countP_isJoin_of_none {xs : List Exchange} (hxs : ∀ x ∈ xs, ¬IsJoin x) :
    xs.countP (fun x => decide (IsJoin x)) = 0 :=
  List.countP_eq_zero.mpr fun x hx => by simpa using hxs x hx

/-- Where no joinNetwork is sent, none comes without a reason. -/
theorem isChain_of_not_isJoin {xs : List Exchange} (hxs : ∀ x ∈ xs, ¬IsJoin x)
    (x : Exchange) (R : Exchange → Prop) :
    (x :: xs).IsChain fun y z => IsJoin z → R y := by
  induction xs generalizing x with
  | nil => exact List.isChain_singleton x
  | cons y xs ih =>
      refine List.isChain_cons_cons.mpr ⟨fun hy => ?_, ih ?_ y⟩
      · exact absurd hy (hxs y List.mem_cons_self)
      · exact fun z hz => hxs z (List.mem_cons_of_mem y hz)

namespace JoinRun

variable {params : List Byte} {polls retries result : ℕ} {xs : List Exchange}

theorem countP_le (hxs : JoinRun params polls retries xs result) :
    xs.countP (fun x => decide (IsJoin x)) ≤ retries + 1 := by
  have hwaited {n : ℕ} {waits : List Exchange} {outcome : JoinOutcome}
      (hwaits : WaitRun n waits outcome) (x : Exchange) :
      (x :: waits).countP (fun x => decide (IsJoin x)) ≤ 1 := by
    rw [List.countP_cons, countP_isJoin_of_none hwaits.not_isJoin]
    split <;> decide
  induction hxs with
  | rejected hx hstatus => exact (List.countP_le_length).trans (by simp)
  | up hx hstatus hwaits => exact (hwaited hwaits _).trans (by omega)
  | failed hx hstatus hwaits => exact (hwaited hwaits _).trans (by omega)
  | exhausted hx hstatus hwaits => exact hwaited hwaits _
  | retry hx hstatus hwaits hxs ih =>
      rw [← List.cons_append, List.countP_append]
      have hfirst := hwaited hwaits
      exact (Nat.add_le_add (hfirst _) ih).trans (by omega)

theorem retriesTransient (hxs : JoinRun params polls retries xs result)
    {before : List Exchange} (hbefore : ∀ x ∈ before, ¬IsJoin x) :
    RetriesTransient (before ++ xs) := by
  refine ⟨before, xs, rfl, hbefore, ?_⟩
  induction hxs with
  | rejected hx hstatus => exact List.isChain_singleton _
  | up hx hstatus hwaits => exact isChain_of_not_isJoin hwaits.not_isJoin _ _
  | failed hx hstatus hwaits =>
      exact isChain_of_not_isJoin hwaits.not_isJoin _ _
  | exhausted hx hstatus hwaits =>
      exact isChain_of_not_isJoin hwaits.not_isJoin _ _
  | @retry _ x waits _ _ hx hstatus hwaits hxs ih =>
      rw [← List.cons_append, List.isChain_append]
      refine ⟨isChain_of_not_isJoin hwaits.not_isJoin _ _, ih, ?_⟩
      obtain ⟨y, hy, hreason⟩ := hwaits.ends_transient
      intro z hz _ _ _
      obtain rfl := Option.some.inj
        (hz.symm.trans (List.mem_getLast?_cons hy))
      exact hreason

theorem joined_iff (hxs : JoinRun params polls retries xs result) :
    result = 0 ↔ JoinedWithin polls xs := by
  have hnone : ¬JoinedWithin polls [] := by
    rintro ⟨x, rest, hsuffix, _⟩
    exact absurd (List.suffix_nil.mp hsuffix) (List.cons_ne_nil _ _)
  have hlast {x : Exchange} {waits : List Exchange} {outcome : JoinOutcome}
      (hx : x.Asks ezspJoinNetwork params)
      (hstatus : x.status? = some emberSuccess)
      (hwaits : WaitRun polls waits outcome) :
      JoinedWithin polls (x :: waits) ↔ outcome = .up := by
    have hattempt := joinedWithin_attempt hx.frameId hwaits hstatus []
    rw [List.append_nil] at hattempt
    exact hattempt.trans (or_iff_left hnone)
  induction hxs with
  | @rejected _ x hx hstatus =>
      refine iff_of_false (by decide) ?_
      rintro ⟨y, rest, hsuffix, _, hy, _⟩
      rcases List.suffix_cons_iff.mp hsuffix with heq | hlater
      · exact hstatus ((List.cons.inj heq).1 ▸ hy)
      · exact absurd (List.suffix_nil.mp hlater) (List.cons_ne_nil _ _)
  | up hx hstatus hwaits =>
      exact iff_of_true rfl ((hlast hx hstatus hwaits).mpr rfl)
  | failed hx hstatus hwaits =>
      exact iff_of_false (by decide) fun h =>
        nomatch (hlast hx hstatus hwaits).mp h
  | exhausted hx hstatus hwaits =>
      exact iff_of_false (by decide) fun h =>
        nomatch (hlast hx hstatus hwaits).mp h
  | retry hx hstatus hwaits hxs ih =>
      rw [joinedWithin_attempt hx.frameId hwaits hstatus]
      exact ih.trans (or_iff_right nofun).symm

end JoinRun

end EzspSpi
