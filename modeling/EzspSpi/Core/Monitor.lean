import EzspSpi.Core.History

/-!
# Watching a run

A monitor follows a trace with a state of its own.  At every event it relies
on something from the surroundings and wants something guaranteed by the
program, both in its state before the event.  A guarantee counts as long as
the monitor could rely on all events so far, so it also covers a run that is
cut short anywhere.
-/

namespace EzspSpi.Program

variable {I : Interface} {σ α β S : Type}

structure Monitor (I : Interface) (S : Type) where
  step : S → Event I → S
  rely : S → Event I → Prop
  guarantee : S → Event I → Prop

namespace Monitor

variable (M : Monitor I S)

/-- The monitor's state after a trace. -/
def after (w : S) (t : List (Event I)) : S := t.foldl M.step w

def Relied : S → List (Event I) → Prop
  | _, [] => True
  | w, e :: t => M.rely w e ∧ Relied (M.step w e) t

def Guaranteed : S → List (Event I) → Prop
  | _, [] => True
  | w, e :: t => M.rely w e → M.guarantee w e ∧ Guaranteed (M.step w e) t

variable {M}

@[simp]
theorem after_nil (w : S) : M.after w [] = w := rfl

theorem after_append (w : S) (t t' : List (Event I)) :
    M.after w (t ++ t') = M.after (M.after w t) t' :=
  List.foldl_append

theorem relied_append {w : S} {t t' : List (Event I)} :
    M.Relied w (t ++ t') ↔ M.Relied w t ∧ M.Relied (M.after w t) t' := by
  induction t generalizing w with
  | nil => simp [Relied]
  | cons e t ih =>
      rw [List.cons_append, Relied, Relied, ih, and_assoc]
      rfl

theorem guaranteed_append {w : S} {t t' : List (Event I)} :
    M.Guaranteed w (t ++ t') ↔
      M.Guaranteed w t ∧
        (M.Relied w t → M.Guaranteed (M.after w t) t') := by
  induction t generalizing w with
  | nil => simp [Guaranteed, Relied]
  | cons e t ih =>
      rw [List.cons_append, Guaranteed, Guaranteed, Relied, ih]
      constructor
      · intro hall
        exact ⟨fun he => ⟨(hall he).1, (hall he).2.1⟩,
          fun ⟨he, ht⟩ => (hall he).2.2 ht⟩
      · intro hall he
        exact ⟨(hall.1 he).1, (hall.1 he).2, fun ht => hall.2 ⟨he, ht⟩⟩

/-- The guarantee at a single event. -/
theorem Guaranteed.at_event {w : S} {t t' : List (Event I)} {e : Event I}
    (ht : M.Guaranteed w (t ++ e :: t')) (hrelied : M.Relied w (t ++ [e])) :
    M.guarantee (M.after w t) e := by
  rw [relied_append] at hrelied
  exact ((guaranteed_append.mp ht).2 hrelied.1 hrelied.2.1).1

/-- A run cut short is guaranteed as far as it got. -/
theorem Guaranteed.take {w : S} {t : List (Event I)} (ht : M.Guaranteed w t)
    (n : ℕ) : M.Guaranteed w (t.take n) := by
  rw [← List.take_append_drop n t] at ht
  exact (guaranteed_append.mp ht).1

/-- What every guarantee brings about holds after the run. -/
theorem Guaranteed.invariant {P : S → Prop} {w : S} {t : List (Event I)}
    (ht : M.Guaranteed w t) (hrelied : M.Relied w t)
    (hstep : ∀ w e, M.guarantee w e → P (M.step w e)) (hw : P w) :
    P (M.after w t) := by
  induction t generalizing w with
  | nil => exact hw
  | cons e t ih =>
      obtain ⟨hguarantee, hrest⟩ := ht hrelied.1
      exact ih hrest hrelied.2 (hstep w e hguarantee)

end Monitor

/-- From a monitor state with the precondition every run is guaranteed, and
one that the monitor could rely on to a normal end leaves it in a state with
the postcondition. -/
structure Watched (M : Monitor I S) (A : S → Prop) (m : Prog I σ α)
    (B : α → S → Prop) : Prop where
  guaranteed : ∀ s w, A w → M.Guaranteed w (m s).trace
  ends : ∀ s w, A w → M.Relied w (m s).trace →
    ∀ a, (m s).outcome = .done a → B a (M.after w (m s).trace)

section Rules

variable {M : Monitor I S} {A : S → Prop}

theorem Watched.pure {a : α} {B : α → S → Prop} (h : ∀ w, A w → B a w) :
    Watched M A (Pure.pure a : Prog I σ α) B where
  guaranteed _ _ _ := trivial
  ends s w hw _ b hb := by
    cases hb
    exact h w hw

theorem Watched.halt {why : Halt} {B : α → S → Prop} :
    Watched M A (Program.halt why : Prog I σ α) B where
  guaranteed _ _ _ := trivial
  ends _ _ _ _ _ hb := by cases hb

theorem Watched.call [Surroundings I σ] {c : I.Call} {B : I.Resp c → S → Prop}
    (h : ∀ w r, A w → M.rely w (.call c r) →
      M.guarantee w (.call c r) ∧ B r (M.step w (.call c r))) :
    Watched M A (Program.call c : Prog I σ (I.Resp c)) B where
  guaranteed _ w hw hrely := ⟨(h w _ hw hrely).1, trivial⟩
  ends s w hw hrely r hr := by
    cases hr
    exact (h w _ hw hrely.1).2

theorem Watched.note {n : I.Note} {B : Unit → S → Prop}
    (h : ∀ w, A w → M.rely w (.note n) →
      M.guarantee w (.note n) ∧ B () (M.step w (.note n))) :
    Watched M A (Program.note n : Prog I σ Unit) B where
  guaranteed _ w hw hrely := ⟨(h w hw hrely).1, trivial⟩
  ends _ w hw hrely _ _ := (h w hw hrely.1).2

theorem Watched.bind {m : Prog I σ α} {f : α → Prog I σ β}
    {B : α → S → Prop} {Q : β → S → Prop} (hm : Watched M A m B)
    (hf : ∀ a, Watched M (B a) (f a) Q) : Watched M A (m >>= f) Q := by
  constructor
  · intro s w hw
    rw [bind_apply]
    cases houtcome : (m s).outcome with
    | done a =>
        rw [Run.andThen_of_done houtcome]
        refine Monitor.guaranteed_append.mpr ⟨hm.guaranteed s w hw, ?_⟩
        intro hrelied
        exact (hf a).guaranteed _ _ (hm.ends s w hw hrelied a houtcome)
    | halt why =>
        rw [Run.andThen_of_halt houtcome]
        exact hm.guaranteed s w hw
  · intro s w hw hrelied b hb
    rw [bind_apply] at hrelied hb ⊢
    cases houtcome : (m s).outcome with
    | done a =>
        rw [Run.andThen_of_done houtcome] at hrelied hb ⊢
        obtain ⟨hfirst, hrest⟩ := Monitor.relied_append.mp hrelied
        rw [Monitor.after_append]
        exact (hf a).ends _ _ (hm.ends s w hw hfirst a houtcome) hrest b hb
    | halt why =>
        rw [Run.andThen_of_halt houtcome] at hb
        cases hb

theorem Watched.mono {m : Prog I σ α} {A' : S → Prop} {B B' : α → S → Prop}
    (hm : Watched M A m B) (hA : ∀ w, A' w → A w)
    (hB : ∀ a w, B a w → B' a w) : Watched M A' m B' where
  guaranteed s w hw := hm.guaranteed s w (hA w hw)
  ends s w hw hrelied a ha := hB a _ (hm.ends s w (hA w hw) hrelied a ha)

theorem Watched.ite {m m' : Prog I σ α} {B : α → S → Prop} {c : Prop}
    [Decidable c] (hm : c → Watched M A m B) (hm' : ¬c → Watched M A m' B) :
    Watched M A (if c then m else m') B := by
  split
  · exact hm ‹_›
  · exact hm' ‹_›

theorem Watched.onlyIf {m : Prog I σ Unit} {c : Prop} [Decidable c]
    (hm : c → Watched M A m fun _ => A) :
    Watched M A (Program.onlyIf c m) fun _ => A :=
  Watched.ite hm fun _ => Watched.pure fun _ hw => hw

/-- A fact about the precondition that does not depend on the state. -/
theorem Watched.given {m : Prog I σ α} {B : α → S → Prop} {P : Prop}
    (hP : ∀ w, A w → P) (hm : P → Watched M A m B) : Watched M A m B where
  guaranteed s w hw := (hm (hP w hw)).guaranteed s w hw
  ends s w hw := (hm (hP w hw)).ends s w hw

/-- Events of a kind that keeps the precondition. -/
theorem Emits.watched {K : Event I → Prop} {m : Prog I σ α} (hm : Emits K m)
    (hK : ∀ w e, K e → A w → M.guarantee w e ∧ A (M.step w e)) :
    Watched M A m fun _ => A := by
  have hall : ∀ t : List (Event I),
      Along ⟨fun _ e => K e, fun _ => True⟩ [] t →
      ∀ w, A w → M.Guaranteed w t ∧ A (M.after w t) := by
    intro t
    generalize ([] : List (Event I)) = h
    induction t generalizing h with
    | nil => exact fun _ w hw => ⟨trivial, hw⟩
    | cons e t ih =>
        intro halong w hw
        obtain ⟨hguarantee, hstep⟩ := hK w e halong.1 hw
        obtain ⟨hrest, hend⟩ := ih _ halong.2 _ hstep
        exact ⟨fun _ => ⟨hguarantee, hrest⟩, hend⟩
  constructor
  · exact fun s w hw => (hall _ (hm [] s).1 w hw).1
  · exact fun s w hw _ _ _ => (hall _ (hm [] s).1 w hw).2

end Rules

/-! ## A monitor as a contract -/

/-- The guarantees of a monitor that started in this state. -/
def Monitor.contract (M : Monitor I S) (w : S) : Contract I where
  event h e := M.guarantee (M.after w h) e
  halt _ := True

theorem Monitor.Guaranteed.along {M : Monitor I S} (hrely : ∀ w e, M.rely w e)
    {w : S} {h t : List (Event I)} (ht : M.Guaranteed (M.after w h) t) :
    Along (M.contract w) h t := by
  induction t generalizing h with
  | nil => trivial
  | cons e t ih =>
      obtain ⟨hguarantee, hrest⟩ := ht (hrely _ e)
      refine ⟨hguarantee, ih ?_⟩
      rwa [Monitor.after_append]

theorem Monitor.relied_of_all {M : Monitor I S} (hrely : ∀ w e, M.rely w e)
    (w : S) (t : List (Event I)) : M.Relied w t := by
  induction t generalizing w with
  | nil => trivial
  | cons e t ih => exact ⟨hrely w e, ih _⟩

/-- What is watched keeps the contract, if the monitor relies on nothing. -/
theorem Watched.holds {M : Monitor I S} (hrely : ∀ w e, M.rely w e)
    {A : S → Prop} {m : Prog I σ α} {B : α → S → Prop} (hm : Watched M A m B)
    {w : S} {h : List (Event I)} (hw : A (M.after w h)) :
    Holds (M.contract w) h m fun a h' => B a (M.after w h') := by
  intro s
  refine ⟨(hm.guaranteed s _ hw).along hrely, ?_, fun _ _ => trivial⟩
  intro a ha
  rw [Monitor.after_append]
  exact hm.ends s _ hw (Monitor.relied_of_all hrely _ _) a ha

end EzspSpi.Program
