import Mathlib.Data.List.Basic

/-!
# Programs that talk to their surroundings

A program asks its surroundings for one thing at a time and goes on with the
answer.  The surroundings are an arbitrary state machine, so a statement about
every run holds whatever they answer and however their answers depend on what
the program did before.  Each run carries its trace: the requests with their
answers, and the notes by which a program records which of its own procedures
it has entered.
-/

namespace EzspSpi.Program

/-- The requests a program may make, what each is answered with, and the notes
it may take. -/
structure Interface where
  Call : Type
  Resp : Call → Type
  Note : Type

/-- Surroundings with states in `σ`: they answer every request and move on. -/
class Surroundings (I : Interface) (σ : Type) where
  answer : (c : I.Call) → σ → I.Resp c × σ

inductive Event (I : Interface) where
  | call (c : I.Call) (r : I.Resp c)
  | note (n : I.Note)

/-- Why a run ended before its program did. -/
inductive Halt where
  | exit
  | killed
  | stuck
  deriving DecidableEq, Repr

inductive Outcome (α : Type) where
  | done (a : α)
  | halt (why : Halt)
  deriving DecidableEq

/-- The outcome is a result that passes the test. -/
def doneWith {α : Type} (P : α → Bool) : Outcome α → Bool
  | .done a => P a
  | .halt _ => false

theorem exists_of_doneWith {α : Type} {P : α → Bool} {outcome : Outcome α}
    (h : doneWith P outcome = true) : ∃ a, outcome = .done a ∧ P a = true := by
  cases outcome with
  | done a => exact ⟨a, rfl, h⟩
  | halt why => exact absurd h Bool.false_ne_true

structure Run (I : Interface) (σ α : Type) where
  outcome : Outcome α
  trace : List (Event I)
  world : σ

def Prog (I : Interface) (σ α : Type) : Type := σ → Run I σ α

variable {I : Interface} {σ α β : Type}

/-- Continue a run with what its value leads to; a halted run stays halted. -/
def Run.andThen (r : Run I σ α) (f : α → Prog I σ β) : Run I σ β :=
  match r.outcome with
  | .done a =>
      let r' := f a r.world
      ⟨r'.outcome, r.trace ++ r'.trace, r'.world⟩
  | .halt why => ⟨.halt why, r.trace, r.world⟩

instance : Monad (Prog I σ) where
  pure a := fun s => ⟨.done a, [], s⟩
  bind m f := fun s => (m s).andThen f

/-- One request, answered by the surroundings. -/
def call [Surroundings I σ] (c : I.Call) : Prog I σ (I.Resp c) := fun s =>
  let answer := Surroundings.answer c s
  ⟨.done answer.1, [.call c answer.1], answer.2⟩

def note (n : I.Note) : Prog I σ Unit := fun s => ⟨.done (), [.note n], s⟩

def halt (why : Halt) : Prog I σ α := fun s => ⟨.halt why, [], s⟩

/-- A step taken only under a condition. -/
def onlyIf (c : Prop) [Decidable c] (m : Prog I σ Unit) : Prog I σ Unit :=
  if c then m else pure ()

@[simp]
theorem pure_apply (a : α) (s : σ) :
    (pure a : Prog I σ α) s = ⟨.done a, [], s⟩ := rfl

@[simp]
theorem bind_apply (m : Prog I σ α) (f : α → Prog I σ β) (s : σ) :
    (m >>= f) s = (m s).andThen f := rfl

/-- A request, and what follows its answer. -/
theorem call_bind_apply [Surroundings I σ] (c : I.Call)
    (f : I.Resp c → Prog I σ β) (s : σ) :
    (call c >>= f) s =
      let answer := Surroundings.answer c s
      ⟨(f answer.1 answer.2).outcome,
        .call c answer.1 :: (f answer.1 answer.2).trace,
        (f answer.1 answer.2).world⟩ := rfl

@[simp]
theorem note_apply (n : I.Note) (s : σ) :
    (note n : Prog I σ Unit) s = ⟨.done (), [.note n], s⟩ := rfl

@[simp]
theorem halt_apply (why : Halt) (s : σ) :
    (halt why : Prog I σ α) s = ⟨.halt why, [], s⟩ := rfl

theorem Run.andThen_of_done {r : Run I σ α} {a : α} (h : r.outcome = .done a)
    (f : α → Prog I σ β) :
    r.andThen f =
      ⟨(f a r.world).outcome, r.trace ++ (f a r.world).trace,
        (f a r.world).world⟩ := by
  simp only [Run.andThen, h]

theorem Run.andThen_of_halt {r : Run I σ α} {why : Halt}
    (h : r.outcome = .halt why) (f : α → Prog I σ β) :
    r.andThen f = ⟨.halt why, r.trace, r.world⟩ := by
  simp only [Run.andThen, h]

@[ext]
theorem Prog.ext {m m' : Prog I σ α} (h : ∀ s, m s = m' s) : m = m' :=
  funext h

private theorem Run.andThen_pure (r : Run I σ α) :
    r.andThen (fun a => pure a) = r := by
  rcases r with ⟨outcome, trace, world⟩
  cases outcome <;> simp [Run.andThen]

private theorem Run.andThen_assoc {γ : Type} (r : Run I σ α)
    (f : α → Prog I σ β) (k : β → Prog I σ γ) :
    (r.andThen f).andThen k = r.andThen fun a => f a >>= k := by
  rcases r with ⟨outcome, trace, world⟩
  cases outcome with
  | halt why => rfl
  | done a =>
      simp only [Run.andThen, bind_apply]
      rcases f a world with ⟨outcome', trace', world'⟩
      cases outcome' <;> simp

instance : LawfulMonad (Prog I σ) :=
  LawfulMonad.mk' (Prog I σ)
    (fun m => Prog.ext fun s => Run.andThen_pure (m s))
    (fun a f => Prog.ext fun s => by simp [Run.andThen])
    (fun m f k => Prog.ext fun s => Run.andThen_assoc (m s) f k)

/-- The events of a composition are those of its first part, and those of what
its value leads to. -/
theorem forall_trace_bind {P : Event I → Prop} {m : Prog I σ α}
    {f : α → Prog I σ β} {s : σ} :
    (∀ e ∈ ((m >>= f) s).trace, P e) ↔
      (∀ e ∈ (m s).trace, P e) ∧
        ∀ a, (m s).outcome = .done a → ∀ e ∈ (f a (m s).world).trace, P e := by
  rw [bind_apply]
  cases houtcome : (m s).outcome with
  | done a =>
      rw [Run.andThen_of_done houtcome]
      constructor
      · intro hall
        refine ⟨fun e he => hall e (List.mem_append_left _ he), ?_⟩
        rintro _ ⟨⟩ e he
        exact hall e (List.mem_append_right _ he)
      · rintro ⟨hfirst, hrest⟩ e he
        rcases List.mem_append.mp he with he | he
        · exact hfirst e he
        · exact hrest a rfl e he
  | halt why =>
      rw [Run.andThen_of_halt houtcome]
      exact ⟨fun hall => ⟨hall, fun _ ha => nomatch ha⟩, fun hall => hall.1⟩

/-! ## What a program returns -/

/-- Every run that ends normally does so with such a value. -/
structure Yields (P : α → Prop) (m : Prog I σ α) : Prop where
  value : ∀ s a, (m s).outcome = .done a → P a

theorem Yields.pure {P : α → Prop} {a : α} (h : P a) :
    Yields P (Pure.pure a : Prog I σ α) := by
  constructor
  intro s b hb
  cases hb
  exact h

theorem Yields.halt {P : α → Prop} {why : Halt} :
    Yields P (Program.halt why : Prog I σ α) := by
  constructor
  intro s a ha
  cases ha

theorem Yields.bind {P : α → Prop} {Q : β → Prop} {m : Prog I σ α}
    {f : α → Prog I σ β} (hm : Yields P m)
    (hf : ∀ a, P a → Yields Q (f a)) : Yields Q (m >>= f) := by
  constructor
  intro s b hb
  rw [bind_apply] at hb
  cases houtcome : (m s).outcome with
  | done a =>
      rw [Run.andThen_of_done houtcome] at hb
      exact (hf a (hm.value s a houtcome)).value _ b hb
  | halt why =>
      rw [Run.andThen_of_halt houtcome] at hb
      cases hb

/-- After a step of which nothing is known. -/
theorem Yields.after {Q : β → Prop} {m : Prog I σ α} {f : α → Prog I σ β}
    (hf : ∀ a, Yields Q (f a)) : Yields Q (m >>= f) := by
  have hm : Yields (fun _ => True) m := ⟨fun _ _ _ => trivial⟩
  exact hm.bind fun a _ => hf a

theorem Yields.ite {P : α → Prop} {c : Prop} [Decidable c]
    {m m' : Prog I σ α} (hm : c → Yields P m) (hm' : ¬c → Yields P m') :
    Yields P (if c then m else m') := by
  split
  · exact hm ‹_›
  · exact hm' ‹_›

/-- Only what a program can return matters to what follows. -/
theorem Yields.congr {P : α → Prop} {m : Prog I σ α}
    {f f' : α → Prog I σ β} (hm : Yields P m) (hf : ∀ a, P a → f a = f' a) :
    m >>= f = m >>= f' := by
  apply Prog.ext
  intro s
  rw [bind_apply, bind_apply]
  cases houtcome : (m s).outcome with
  | done a =>
      rw [Run.andThen_of_done houtcome, Run.andThen_of_done houtcome,
        hf a (hm.value s a houtcome)]
  | halt why =>
      rw [Run.andThen_of_halt houtcome, Run.andThen_of_halt houtcome]

end EzspSpi.Program
