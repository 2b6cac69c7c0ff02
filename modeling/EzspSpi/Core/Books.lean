import Mathlib.Data.List.Count
import Mathlib.Tactic.Common

/-!
# Books on messages

A message is accepted or refused when it is sent, and confirmed at most once
after that.  The books have one entry for every message that was sent, so that
a message fails at most once.  Two plain counters agree with the books exactly
if no failed delivery is confirmed but that of a message that waits for it.
-/

namespace EzspSpi

variable {T : Type} [DecidableEq T]

inductive Fate where
  | waiting
  | refused
  | delivered
  | lost
  deriving DecidableEq, Repr

def Fate.isFailure : Fate → Bool
  | .refused => true
  | .lost => true
  | _ => false

structure BookEntry (T : Type) where
  tag : T
  fate : Fate
  deriving DecidableEq, Repr

inductive Happening (T : Type) where
  | sent (tag : T) (accepted : Bool)
  | confirmed (tag : T) (delivered : Bool)
  deriving DecidableEq, Repr

/-! ## Two counters -/

/-- What was accepted, and what was refused or not delivered. -/
structure Tally where
  sent : ℕ
  failed : ℕ
  deriving DecidableEq, Repr

def Tally.add (count : Tally) : Happening T → Tally
  | .sent _ true => { count with sent := count.sent + 1 }
  | .sent _ false => { count with failed := count.failed + 1 }
  | .confirmed _ true => count
  | .confirmed _ false => { count with failed := count.failed + 1 }

def tally (hs : List (Happening T)) : Tally := hs.foldl Tally.add ⟨0, 0⟩

/-! ## The books -/

namespace Books

/-- The first message with this tag that waits meets its fate. -/
def settle (tag : T) (fate : Fate) : List (BookEntry T) → List (BookEntry T)
  | [] => []
  | entry :: entries =>
      if entry = ⟨tag, .waiting⟩ then ⟨tag, fate⟩ :: entries
      else entry :: settle tag fate entries

def enter (entries : List (BookEntry T)) : Happening T → List (BookEntry T)
  | .sent tag true => entries ++ [⟨tag, .waiting⟩]
  | .sent tag false => entries ++ [⟨tag, .refused⟩]
  | .confirmed tag true => settle tag .delivered entries
  | .confirmed tag false => settle tag .lost entries

/-- One entry for every message. -/
def of (hs : List (Happening T)) : List (BookEntry T) := hs.foldl enter []

/-- The messages that failed. -/
def failures (entries : List (BookEntry T)) : ℕ :=
  entries.countP fun entry => entry.fate.isFailure

/-- A failed delivery is that of a message that waits for its confirmation. -/
def Fits (entries : List (BookEntry T)) : Happening T → Prop
  | .confirmed tag false => ⟨tag, .waiting⟩ ∈ entries
  | _ => True

/-- Every failed delivery is. -/
def AllFit : List (BookEntry T) → List (Happening T) → Prop
  | _, [] => True
  | entries, what :: hs => Fits entries what ∧ AllFit (enter entries what) hs

/-- No message is refused. -/
def Accepted : Happening T → Prop
  | .sent _ accepted => accepted = true
  | .confirmed _ _ => True

instance (entries : List (BookEntry T)) (what : Happening T) :
    Decidable (Fits entries what) := by
  unfold Fits
  split <;> infer_instance

instance (what : Happening T) : Decidable (Accepted what) := by
  unfold Accepted
  split <;> infer_instance

instance decidableAllFit (entries : List (BookEntry T)) :
    (hs : List (Happening T)) → Decidable (AllFit entries hs)
  | [] => isTrue trivial
  | what :: hs =>
      have := decidableAllFit (enter entries what) hs
      inferInstanceAs (Decidable (_ ∧ _))

/-! ## Entering -/

theorem settle_of_not_mem {tag : T} {entries : List (BookEntry T)}
    (hnone : ⟨tag, .waiting⟩ ∉ entries) (fate : Fate) :
    settle tag fate entries = entries := by
  induction entries with
  | nil => rfl
  | cons entry entries ih =>
      rw [List.mem_cons, not_or] at hnone
      rw [settle, if_neg (Ne.symm hnone.1), ih hnone.2]

theorem length_settle (tag : T) (fate : Fate) (entries : List (BookEntry T)) :
    (settle tag fate entries).length = entries.length := by
  induction entries with
  | nil => rfl
  | cons entry entries ih =>
      rw [settle]
      split
      · rfl
      · rw [List.length_cons, ih, List.length_cons]

/-- What waits has not failed, so its fate decides. -/
theorem failures_settle {tag : T} {fate : Fate} {entries : List (BookEntry T)}
    (hwaits : ⟨tag, .waiting⟩ ∈ entries) :
    failures (settle tag fate entries) =
      failures entries + fate.isFailure.toNat := by
  induction entries with
  | nil => cases hwaits
  | cons entry entries ih =>
      rw [settle]
      by_cases hfirst : entry = ⟨tag, .waiting⟩
      · rw [if_pos hfirst, hfirst, failures, failures, List.countP_cons,
          List.countP_cons]
        cases fate <;> rfl
      · have hlater := (List.mem_cons.mp hwaits).resolve_left (Ne.symm hfirst)
        rw [if_neg hfirst, failures, failures, List.countP_cons,
          List.countP_cons]
        have hih := ih hlater
        rw [failures, failures] at hih
        omega

theorem failures_delivered (tag : T) (entries : List (BookEntry T)) :
    failures (settle tag .delivered entries) = failures entries := by
  by_cases hwaits : ⟨tag, .waiting⟩ ∈ entries
  · exact failures_settle hwaits
  · rw [settle_of_not_mem hwaits]

omit [DecidableEq T] in
theorem failures_append (entries : List (BookEntry T)) (entry : BookEntry T) :
    failures (entries ++ [entry]) =
      failures entries + entry.fate.isFailure.toNat := by
  rw [failures, List.countP_append, List.countP_singleton]
  cases entry.fate <;> rfl

/-! ## The counters against the books -/

/-- The counters are ahead of the books by so much. -/
def Ahead (entries : List (BookEntry T)) (count : Tally) (gap : ℕ) : Prop :=
  count.failed = failures entries + gap

/-- A happening widens the gap exactly if it does not fit. -/
theorem Ahead.enter {entries : List (BookEntry T)} {count : Tally} {gap : ℕ}
    (hahead : Ahead entries count gap) (what : Happening T) :
    Ahead (Books.enter entries what) (count.add what)
      (gap + if Fits entries what then 0 else 1) := by
  rw [Ahead] at hahead ⊢
  cases what with
  | sent tag accepted =>
      cases accepted with
      | true =>
          rw [Books.enter, failures_append]
          exact hahead
      | false =>
          rw [Books.enter, failures_append, Nat.add_right_comm]
          exact congrArg (· + 1) hahead
  | confirmed tag delivered =>
      cases delivered with
      | true =>
          rw [Books.enter, failures_delivered]
          exact hahead
      | false =>
          rw [Books.enter]
          by_cases hfits : ⟨tag, .waiting⟩ ∈ entries
          · have hwhat : Fits entries (.confirmed tag false) := hfits
            rw [failures_settle hfits, if_pos hwhat, Nat.add_right_comm]
            exact congrArg (· + 1) hahead
          · have hwhat : ¬Fits entries (.confirmed tag false) := hfits
            rw [settle_of_not_mem hfits, if_neg hwhat]
            exact congrArg (· + 1) hahead

/-- The counters agree with the books in the end exactly if everything fits. -/
theorem failed_eq_iff (hs : List (Happening T)) :
    (tally hs).failed = failures (of hs) ↔ AllFit [] hs := by
  have hgap (entries : List (BookEntry T)) (count : Tally) (gap : ℕ)
      (hahead : Ahead entries count gap) :
      ∃ gap', Ahead (hs.foldl enter entries) (hs.foldl Tally.add count)
        (gap + gap') ∧ (gap' = 0 ↔ AllFit entries hs) := by
    induction hs generalizing entries count gap with
    | nil => exact ⟨0, hahead, iff_of_true rfl trivial⟩
    | cons what hs ih =>
        obtain ⟨gap', hahead', hall⟩ := ih _ _ _ (hahead.enter what)
        refine ⟨(if Fits entries what then 0 else 1) + gap', ?_, ?_⟩
        · rw [← Nat.add_assoc]
          exact hahead'
        · rw [AllFit, ← hall]
          split
          · rename_i hfits
            simp [hfits]
          · rename_i hfits
            simp [hfits]
  obtain ⟨gap, hahead, hall⟩ := hgap [] ⟨0, 0⟩ 0 rfl
  rw [← hall, tally, of, hahead]
  omega

/-- The accepted messages are all that have an entry exactly if none is
refused. -/
theorem sent_eq_iff (hs : List (Happening T)) :
    (tally hs).sent = (of hs).length ↔ ∀ what ∈ hs, Accepted what := by
  have hgap (entries : List (BookEntry T)) (count : Tally) (gap : ℕ)
      (hbehind : entries.length = count.sent + gap) :
      ∃ gap', (hs.foldl enter entries).length =
          (hs.foldl Tally.add count).sent + (gap + gap') ∧
        (gap' = 0 ↔ ∀ what ∈ hs, Accepted what) := by
    induction hs generalizing entries count gap with
    | nil => exact ⟨0, hbehind, iff_of_true rfl (by simp)⟩
    | cons what hs ih =>
        have hstep : (enter entries what).length = (count.add what).sent +
            (gap + if Accepted what then 0 else 1) := by
          rcases what with ⟨tag, accepted⟩ | ⟨tag, delivered⟩
          · cases accepted <;>
              simp [enter, Tally.add, Accepted, hbehind] <;> omega
          · cases delivered <;>
              simp [enter, Tally.add, Accepted, length_settle, hbehind]
        obtain ⟨gap', hbehind', hall⟩ := ih _ _ _ hstep
        refine ⟨(if Accepted what then 0 else 1) + gap', ?_, ?_⟩
        · rw [← Nat.add_assoc gap]
          exact hbehind'
        · rw [List.forall_mem_cons, ← hall]
          split
          · rename_i haccepted
            simp [haccepted]
          · rename_i hrefused
            simp [hrefused]
  obtain ⟨gap, hbehind, hall⟩ := hgap [] ⟨0, 0⟩ 0 rfl
  rw [← hall, tally, of, hbehind]
  omega

/-- No more messages fail than are sent. -/
theorem failures_le (hs : List (Happening T)) :
    failures (of hs) ≤ (of hs).length :=
  List.countP_le_length

end Books

omit [DecidableEq T] in
/-- The counters never exceed the number of happenings. -/
theorem tally_le (hs : List (Happening T)) :
    (tally hs).sent ≤ hs.length ∧ (tally hs).failed ≤ hs.length := by
  have hcount (count : Tally) :
      (hs.foldl Tally.add count).sent ≤ count.sent + hs.length ∧
        (hs.foldl Tally.add count).failed ≤ count.failed + hs.length := by
    induction hs generalizing count with
    | nil => exact ⟨Nat.le_refl _, Nat.le_refl _⟩
    | cons what hs ih =>
        obtain ⟨hsent, hfailed⟩ := ih (count.add what)
        have hstep : (count.add what).sent ≤ count.sent + 1 ∧
            (count.add what).failed ≤ count.failed + 1 := by
          rcases what with ⟨tag, accepted⟩ | ⟨tag, delivered⟩
          · cases accepted <;> simp [Tally.add]
          · cases delivered <;> simp [Tally.add]
        rw [List.foldl_cons, List.length_cons]
        omega
  simpa [tally] using hcount ⟨0, 0⟩

end EzspSpi
