import EzspSpi.Core.Program

/-!
# Total correctness through a view

A view takes the states of the surroundings to the states of a model of them,
and picks out of a trace what an observer is shown.  `Achieves` is the total
counterpart of partial correctness: wherever the surroundings look like the
given state, the program ends normally, and its value, what it has shown and
what the surroundings then look like satisfy the postcondition.  What the
surroundings promise enters through the rule for a request alone.
-/

namespace EzspSpi.Program

variable {I : Interface} {σ α β V O : Type}

structure View (I : Interface) (σ V O : Type) where
  world : σ → V
  shown : Event I → List O

namespace View

variable (w : View I σ V O)

/-- What a trace shows. -/
def output (t : List (Event I)) : List O := t.flatMap w.shown

@[simp]
theorem output_append (t t' : List (Event I)) :
    w.output (t ++ t') = w.output t ++ w.output t' :=
  List.flatMap_append

@[simp]
theorem output_singleton (e : Event I) : w.output [e] = w.shown e :=
  List.flatMap_singleton ..

end View

/-- From every state that looks like `v` the program ends normally, and does
so with the postcondition. -/
def Achieves (w : View I σ V O) (v : V) (m : Prog I σ α)
    (Q : α → List O → V → Prop) : Prop :=
  ∀ s, w.world s = v → ∃ a, (m s).outcome = .done a ∧
    Q a (w.output (m s).trace) (w.world (m s).world)

/-- The same without anything being shown. -/
def Quietly (w : View I σ V O) (v : V) (m : Prog I σ α)
    (Q : α → V → Prop) : Prop :=
  Achieves w v m fun a o v' => o = [] ∧ Q a v'

section Rules

variable {w : View I σ V O} {v : V}

theorem Achieves.pure {a : α} {Q : α → List O → V → Prop} (hQ : Q a [] v) :
    Achieves w v (Pure.pure a : Prog I σ α) Q := by
  rintro s rfl
  exact ⟨a, rfl, hQ⟩

theorem Achieves.note {n : I.Note} {Q : Unit → List O → V → Prop}
    (hQ : Q () (w.shown (.note n)) v) :
    Achieves w v (Program.note n : Prog I σ Unit) Q := by
  rintro s rfl
  refine ⟨(), rfl, ?_⟩
  rw [note_apply, View.output_singleton]
  exact hQ

/-- A request: what the surroundings promise about the answer and about
themselves after it. -/
theorem Achieves.call [Surroundings I σ] {c : I.Call}
    {Q : I.Resp c → List O → V → Prop}
    (hQ : ∀ s, w.world s = v → Q (Surroundings.answer c s).1
      (w.shown (.call c (Surroundings.answer c s).1))
      (w.world (Surroundings.answer c s).2)) :
    Achieves w v (Program.call c : Prog I σ (I.Resp c)) Q := by
  intro s hs
  refine ⟨(Surroundings.answer c s).1, rfl, ?_⟩
  rw [Program.call, View.output_singleton]
  exact hQ s hs

/-- Sequencing: what the first program shows comes first. -/
theorem Achieves.seq {m : Prog I σ α} {f : α → Prog I σ β}
    {P : α → List O → V → Prop} {Q : β → List O → V → Prop}
    (hm : Achieves w v m P)
    (hf : ∀ a o v', P a o v' →
      Achieves w v' (f a) fun b o' v'' => Q b (o ++ o') v'') :
    Achieves w v (m >>= f) Q := by
  intro s hs
  obtain ⟨a, ha, hP⟩ := hm s hs
  obtain ⟨b, hb, hQ⟩ := hf a _ _ hP (m s).world rfl
  rw [bind_apply, Run.andThen_of_done ha, View.output_append]
  exact ⟨b, hb, hQ⟩

theorem Achieves.mono {m : Prog I σ α} {P Q : α → List O → V → Prop}
    (hm : Achieves w v m P) (hPQ : ∀ a o v', P a o v' → Q a o v') :
    Achieves w v m Q := by
  intro s hs
  obtain ⟨a, ha, hP⟩ := hm s hs
  exact ⟨a, ha, hPQ a _ _ hP⟩

theorem Quietly.pure {a : α} {Q : α → V → Prop} (hQ : Q a v) :
    Quietly w v (Pure.pure a : Prog I σ α) Q :=
  Achieves.pure ⟨rfl, hQ⟩

theorem Quietly.call [Surroundings I σ] {c : I.Call}
    {Q : I.Resp c → V → Prop} (hshown : ∀ r, w.shown (.call c r) = [])
    (hQ : ∀ s, w.world s = v →
      Q (Surroundings.answer c s).1 (w.world (Surroundings.answer c s).2)) :
    Quietly w v (Program.call c : Prog I σ (I.Resp c)) Q :=
  Achieves.call fun s hs => ⟨hshown _, hQ s hs⟩

/-- A quiet step before anything else. -/
theorem Quietly.seq {m : Prog I σ α} {f : α → Prog I σ β} {P : α → V → Prop}
    {Q : β → List O → V → Prop} (hm : Quietly w v m P)
    (hf : ∀ a v', P a v' → Achieves w v' (f a) Q) :
    Achieves w v (m >>= f) Q := by
  apply Achieves.seq hm
  rintro a o v' ⟨rfl, hP⟩
  exact hf a v' hP

theorem Quietly.mono {m : Prog I σ α} {P Q : α → V → Prop}
    (hm : Quietly w v m P) (hPQ : ∀ a v', P a v' → Q a v') :
    Quietly w v m Q :=
  Achieves.mono hm fun a _ v' hP => ⟨hP.1, hPQ a v' hP.2⟩

/-- A step of which only the effect on the view is known. -/
theorem Quietly.discard {m : Prog I σ α} {P : α → V → Prop}
    {Q : PUnit → V → Prop} (hm : Quietly w v m P)
    (hPQ : ∀ a v', P a v' → Q ⟨⟩ v') :
    Quietly w v (Functor.discard m) Q :=
  Quietly.seq hm fun a v' hP => Quietly.pure (hPQ a v' hP)

/-- A step that leaves the view as it is, if it is taken at all. -/
theorem Quietly.onlyIf {c : Prop} [Decidable c] {m : Prog I σ Unit}
    (hm : c → Quietly w v m fun _ v' => v' = v) :
    Quietly w v (Program.onlyIf c m) fun _ v' => v' = v := by
  rw [Program.onlyIf]
  split
  · exact hm ‹_›
  · exact Quietly.pure rfl

end Rules

end EzspSpi.Program
