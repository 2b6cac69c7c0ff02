import Mathlib.Data.List.Basic

/-!
# Shell scripts that stop at the first failure

Command lists as a shell runs them under `set -e`.  A command that fails ends
the script, unless its status is tested: left of `||` and `&&`, and in the
condition of an `if`, a failure is an answer.  A script may set a trap on its
exit; the trap's action runs once, under the same rule, so a failure in it ends
the action as well.

Which commands succeed is a parameter of the run, and every run leaves the
trace of the commands it has run.
-/

namespace EzspSpi.Shell

/-- Command lists over the commands `κ`, with variables `ν`. -/
inductive Cmd (κ ν : Type) where
  | run (c : κ)
  | test (p : ν → Bool)
  | assign (f : ν → ν)
  | skip
  | trap (on : Bool)
  | exit
  /-- `continue` -/
  | next
  | seq (a b : Cmd κ ν)
  /-- `a && b` -/
  | both (a b : Cmd κ ν)
  /-- `a || b` -/
  | either (a b : Cmd κ ν)
  | ite (c a b : Cmd κ ν)
  /-- One round of a loop, which is where `continue` ends. -/
  | round (a : Cmd κ ν)

variable {κ ν α : Type}

/-- Commands one after the other. -/
def Cmd.block : List (Cmd κ ν) → Cmd κ ν
  | [] => .skip
  | [c] => c
  | c :: cs => .seq c (block cs)

/-- `for x in xs; do body x; done` -/
def Cmd.forEach (xs : List α) (body : α → Cmd κ ν) : Cmd κ ν :=
  .block (xs.map fun x => .round (body x))

/-- How a command list ends: with a status, by ending the script, or by ending
the round of the loop it is in. -/
inductive Flow where
  | done (status : Bool)
  | exit
  | next
  deriving DecidableEq, Repr

structure State (κ ν : Type) where
  vars : ν
  trapped : Bool
  trace : List κ

/-- The state after more commands have run. -/
def State.ran (s : State κ ν) (t : List κ) : State κ ν :=
  { s with trace := s.trace ++ t }

@[simp]
theorem State.ran_nil (s : State κ ν) : s.ran [] = s := by
  simp [State.ran]

@[simp]
theorem State.ran_ran (s : State κ ν) (t t' : List κ) :
    (s.ran t).ran t' = s.ran (t ++ t') := by
  simp [State.ran]

@[simp]
theorem State.vars_ran (s : State κ ν) (t : List κ) :
    (s.ran t).vars = s.vars := rfl

@[simp]
theorem State.trapped_ran (s : State κ ν) (t : List κ) :
    (s.ran t).trapped = s.trapped := rfl

@[simp]
theorem State.trace_ran (s : State κ ν) (t : List κ) :
    (s.ran t).trace = s.trace ++ t := rfl

/-- What follows a status: an untested failure ends the script. -/
def checked (tested status : Bool) : Flow :=
  if status || tested then .done status else .exit

/-- One command list, whose status is tested or not. -/
def Cmd.eval (ok : κ → Bool) (tested : Bool) :
    Cmd κ ν → State κ ν → Flow × State κ ν
  | .run c, s => (checked tested (ok c), s.ran [c])
  | .test p, s => (checked tested (p s.vars), s)
  | .assign f, s => (.done true, { s with vars := f s.vars })
  | .skip, s => (.done true, s)
  | .trap on, s => (.done true, { s with trapped := on })
  | .exit, s => (.exit, s)
  | .next, s => (.next, s)
  | .seq a b, s =>
      match a.eval ok tested s with
      | (.done _, s') => b.eval ok tested s'
      | r => r
  | .both a b, s =>
      match a.eval ok true s with
      | (.done true, s') => b.eval ok tested s'
      | r => r
  | .either a b, s =>
      match a.eval ok true s with
      | (.done false, s') => b.eval ok tested s'
      | r => r
  | .ite c a b, s =>
      match c.eval ok true s with
      | (.done true, s') => a.eval ok tested s'
      | (.done false, s') => b.eval ok tested s'
      | r => r
  | .round a, s =>
      match a.eval ok tested s with
      | (.next, s') => (.done true, s')
      | r => r

theorem Cmd.eval_seq_done {ok : κ → Bool} {tested p : Bool} {a : Cmd κ ν}
    {s s' : State κ ν} (h : a.eval ok tested s = (.done p, s'))
    (b : Cmd κ ν) :
    (Cmd.seq a b).eval ok tested s = b.eval ok tested s' := by
  simp only [Cmd.eval, h]

theorem Cmd.eval_seq_exit {ok : κ → Bool} {tested : Bool} {a : Cmd κ ν}
    {s s' : State κ ν} (h : a.eval ok tested s = (.exit, s'))
    (b : Cmd κ ν) :
    (Cmd.seq a b).eval ok tested s = (.exit, s') := by
  simp only [Cmd.eval, h]

/-- The commands a script runs, those of its exit trap's action included. -/
def traceOf (ok : κ → Bool) (action script : Cmd κ ν) (v : ν) : List κ :=
  let s := (script.eval ok false ⟨v, false, []⟩).2
  if s.trapped then (action.eval ok false { s with trapped := false }).2.trace
  else s.trace

/-! ## Command lists that only run commands of one kind -/

/-- Tested, the commands run commands of the kind `K` only and answer `b`. -/
def Answers (ok : κ → Bool) (K : κ → Prop) (c : Cmd κ ν) (b : Bool) : Prop :=
  ∀ s, ∃ t, (∀ k ∈ t, K k) ∧ c.eval ok true s = (.done b, s.ran t)

/-- Untested, the commands run commands of the kind `K` only; the script goes
on after them if `good` holds, and ends in them otherwise. -/
structure Steady (ok : κ → Bool) (K : κ → Prop) (c : Cmd κ ν)
    (good : Prop) : Prop where
  goes_on : good → ∀ s, ∃ b t, (∀ k ∈ t, K k) ∧
    c.eval ok false s = (.done b, s.ran t)
  exits : ¬good → ∀ s, ∃ t, (∀ k ∈ t, K k) ∧
    c.eval ok false s = (.exit, s.ran t)

variable {ok : κ → Bool} {K : κ → Prop} {a b c : Cmd κ ν} {g h : Prop}

private theorem forall_mem_append {t t' : List κ} (ht : ∀ k ∈ t, K k)
    (ht' : ∀ k ∈ t', K k) : ∀ k ∈ t ++ t', K k :=
  List.forall_mem_append.mpr ⟨ht, ht'⟩

theorem Answers.run {k : κ} (hk : K k) :
    Answers ok K (.run k : Cmd κ ν) (ok k) := by
  intro s
  exact ⟨[k], List.forall_mem_singleton.mpr hk, by simp [Cmd.eval, checked]⟩

theorem Answers.const {p : Bool} :
    Answers ok K (.test fun _ => p : Cmd κ ν) p := by
  intro s
  exact ⟨[], List.forall_mem_nil _, by simp [Cmd.eval, checked]⟩

theorem Answers.both {p q : Bool} (ha : Answers ok K a p)
    (hb : Answers ok K b q) : Answers ok K (.both a b) (p && q) := by
  intro s
  obtain ⟨t, ht, heval⟩ := ha s
  cases p with
  | false => exact ⟨t, ht, by simp only [Cmd.eval, heval, Bool.false_and]⟩
  | true =>
      obtain ⟨t', ht', heval'⟩ := hb (s.ran t)
      refine ⟨t ++ t', forall_mem_append ht ht', ?_⟩
      simp only [Cmd.eval, heval, heval', State.ran_ran, Bool.true_and]

namespace Steady

theorem congr (hc : Steady ok K c g) (hiff : g ↔ h) : Steady ok K c h :=
  ⟨fun hh => hc.goes_on (hiff.mpr hh),
    fun hh => hc.exits fun hg => hh (hiff.mp hg)⟩

theorem run {k : κ} (hk : K k) :
    Steady ok K (.run k : Cmd κ ν) (ok k = true) := by
  constructor
  · intro hok s
    exact ⟨true, [k], List.forall_mem_singleton.mpr hk, by
      simp [Cmd.eval, checked, hok]⟩
  · intro hok s
    exact ⟨[k], List.forall_mem_singleton.mpr hk, by
      simp [Cmd.eval, checked, hok]⟩

theorem skip : Steady ok K (.skip : Cmd κ ν) True :=
  ⟨fun _ _ => ⟨true, [], List.forall_mem_nil _, by simp [Cmd.eval]⟩,
    fun hfalse => absurd trivial hfalse⟩

theorem exit : Steady ok K (.exit : Cmd κ ν) False :=
  ⟨fun hfalse => hfalse.elim,
    fun _ _ => ⟨[], List.forall_mem_nil _, by simp [Cmd.eval]⟩⟩

/-- A first part that is over, and what follows it. -/
theorem after (hb : Steady ok K b h) {s : State κ ν} {t : List κ}
    (ht : ∀ k ∈ t, K k) :
    (h → ∃ p t', (∀ k ∈ t', K k) ∧
      b.eval ok false (s.ran t) = (.done p, s.ran t')) ∧
    (¬h → ∃ t', (∀ k ∈ t', K k) ∧
      b.eval ok false (s.ran t) = (.exit, s.ran t')) := by
  constructor
  · intro hh
    obtain ⟨p, t', ht', heval⟩ := hb.goes_on hh (s.ran t)
    exact ⟨p, t ++ t', forall_mem_append ht ht', by rw [heval, State.ran_ran]⟩
  · intro hh
    obtain ⟨t', ht', heval⟩ := hb.exits hh (s.ran t)
    exact ⟨t ++ t', forall_mem_append ht ht', by rw [heval, State.ran_ran]⟩

theorem seq (ha : Steady ok K a g) (hb : Steady ok K b h) :
    Steady ok K (.seq a b) (g ∧ h) := by
  constructor
  · rintro ⟨hg, hh⟩ s
    obtain ⟨p, t, ht, heval⟩ := ha.goes_on hg s
    simp only [Cmd.eval, heval]
    exact (hb.after ht).1 hh
  · intro hnot s
    by_cases hg : g
    · obtain ⟨p, t, ht, heval⟩ := ha.goes_on hg s
      simp only [Cmd.eval, heval]
      exact (hb.after ht).2 fun hh => hnot ⟨hg, hh⟩
    · obtain ⟨t, ht, heval⟩ := ha.exits hg s
      exact ⟨t, ht, by simp only [Cmd.eval, heval]⟩

/-- Commands that ask `a` and, with its answer, do what `b` does. -/
private theorem of_answer {p : Bool} (ha : Answers ok K a p)
    (hb : Steady ok K b h)
    (heval : ∀ s s', a.eval ok true s = (.done p, s') →
      c.eval ok false s = b.eval ok false s') : Steady ok K c h := by
  constructor
  · intro hh s
    obtain ⟨t, ht, hanswer⟩ := ha s
    rw [heval s _ hanswer]
    exact (hb.after ht).1 hh
  · intro hh s
    obtain ⟨t, ht, hanswer⟩ := ha s
    rw [heval s _ hanswer]
    exact (hb.after ht).2 hh

/-- Commands that ask `a` and, with its answer, are over. -/
private theorem of_answered {p : Bool} (q : Bool) (ha : Answers ok K a p)
    (heval : ∀ s s', a.eval ok true s = (.done p, s') →
      c.eval ok false s = (.done q, s')) : Steady ok K c True := by
  constructor
  · intro _ s
    obtain ⟨t, ht, hanswer⟩ := ha s
    exact ⟨q, t, ht, heval s _ hanswer⟩
  · intro hfalse
    exact absurd trivial hfalse

/-- `a && b` -/
theorem both {p : Bool} (ha : Answers ok K a p) (hb : Steady ok K b h) :
    Steady ok K (.both a b) (p = true → h) := by
  cases p with
  | true =>
      refine (of_answer ha hb fun s s' hs => ?_).congr (by simp)
      simp only [Cmd.eval, hs]
  | false =>
      refine (of_answered false ha fun s s' hs => ?_).congr (by simp)
      simp only [Cmd.eval, hs]

/-- `a || b` -/
theorem either {p : Bool} (ha : Answers ok K a p) (hb : Steady ok K b h) :
    Steady ok K (.either a b) (p = false → h) := by
  cases p with
  | true =>
      refine (of_answered true ha fun s s' hs => ?_).congr (by simp)
      simp only [Cmd.eval, hs]
  | false =>
      refine (of_answer ha hb fun s s' hs => ?_).congr (by simp)
      simp only [Cmd.eval, hs]

/-- `a || true` -/
theorem ignored {p : Bool} (ha : Answers ok K a p) :
    Steady ok K (.either a .skip) True :=
  (either ha skip).congr (by simp)

theorem ite {p : Bool} (hc : Answers ok K c p) (ha : Steady ok K a g)
    (hb : Steady ok K b h) :
    Steady ok K (.ite c a b) (if p = true then g else h) := by
  cases p with
  | true =>
      refine (of_answer hc ha fun s s' hs => ?_).congr (by simp)
      simp only [Cmd.eval, hs]
  | false =>
      refine (of_answer hc hb fun s s' hs => ?_).congr (by simp)
      simp only [Cmd.eval, hs]

/-! ### Loops -/

theorem round (ha : Steady ok K a g) : Steady ok K (.round a) g := by
  constructor
  · intro hg s
    obtain ⟨p, t, ht, heval⟩ := ha.goes_on hg s
    exact ⟨p, t, ht, by simp only [Cmd.eval, heval]⟩
  · intro hg s
    obtain ⟨t, ht, heval⟩ := ha.exits hg s
    exact ⟨t, ht, by simp only [Cmd.eval, heval]⟩

/-- `a && continue; b` -/
theorem round_unless {p : Bool} (ha : Answers ok K a p)
    (hb : Steady ok K b h) :
    Steady ok K (.round (.seq (.both a .next) b)) (p = false → h) := by
  cases p with
  | true =>
      refine (of_answered true ha fun s s' hs => ?_).congr (by simp)
      simp only [Cmd.eval, hs]
  | false =>
      refine (of_answer ha hb.round fun s s' hs => ?_).congr (by simp)
      simp only [Cmd.eval, hs]

/-- `a || continue; b` -/
theorem round_when {p : Bool} (ha : Answers ok K a p)
    (hb : Steady ok K b h) :
    Steady ok K (.round (.seq (.either a .next) b)) (p = true → h) := by
  cases p with
  | true =>
      refine (of_answer ha hb.round fun s s' hs => ?_).congr (by simp)
      simp only [Cmd.eval, hs]
  | false =>
      refine (of_answered true ha fun s s' hs => ?_).congr (by simp)
      simp only [Cmd.eval, hs]

/-- A loop goes on for as long as its rounds do. -/
theorem forEach {xs : List α} {body : α → Cmd κ ν} {g : α → Prop}
    (hbody : ∀ x, Steady ok K (.round (body x)) (g x)) :
    Steady ok K (.forEach xs body) (∀ x ∈ xs, g x) := by
  induction xs with
  | nil => exact skip.congr (by simp)
  | cons x xs ih =>
      cases xs with
      | nil => exact (hbody x).congr (by simp)
      | cons y xs => exact ((hbody x).seq ih).congr (by simp)

end Steady

/-! ## A run only adds to its trace -/

theorem Cmd.trace_eval (c : Cmd κ ν) (tested : Bool) (s : State κ ν) :
    s.trace <+: (c.eval ok tested s).2.trace := by
  induction c generalizing tested s with
  | run | test | assign | skip | trap | exit | next =>
      simp [Cmd.eval]
  | seq a b iha ihb =>
      have ha := iha tested s
      rw [Cmd.eval]
      split
      · rename_i p s' hs
        rw [hs] at ha
        exact ha.trans (ihb tested s')
      · exact ha
  | both a b iha ihb | either a b iha ihb =>
      have ha := iha true s
      rw [Cmd.eval]
      split
      · rename_i s' hs
        rw [hs] at ha
        exact ha.trans (ihb tested s')
      · exact ha
  | ite c a b ihc iha ihb =>
      have hc := ihc true s
      rw [Cmd.eval]
      split
      · rename_i s' hs
        rw [hs] at hc
        exact hc.trans (iha tested s')
      · rename_i s' hs
        rw [hs] at hc
        exact hc.trans (ihb tested s')
      · exact hc
  | round a iha =>
      have ha := iha tested s
      rw [Cmd.eval]
      split
      · rename_i s' hs
        rw [hs] at ha
        exact ha
      · exact ha

/-- What a script runs before its trap is in its trace. -/
theorem prefix_traceOf (ok : κ → Bool) (action script : Cmd κ ν) (v : ν) :
    (script.eval ok false ⟨v, false, []⟩).2.trace <+:
      traceOf ok action script v := by
  rw [traceOf]
  split
  · exact action.trace_eval false
      { (script.eval ok false ⟨v, false, []⟩).2 with trapped := false }
  · exact List.prefix_rfl

end EzspSpi.Shell
