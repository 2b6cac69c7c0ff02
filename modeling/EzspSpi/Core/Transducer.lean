import EzspSpi.Core.History

/-!
# Transducers and the programs that keep pace with them

A transducer reads its inputs from left to right and puts out any number of
outputs for each.  A program keeps pace with a transducer that reads the
program's own trace if what it has written is at any time a prefix of what the
transducer has put out, and all of it whenever the program waits.
-/

namespace EzspSpi.Transducer

open Program

/-- A transducer with inputs in `ι`, outputs in `ω` and states in `S`. -/
structure Machine (ι ω S : Type*) where
  start : S
  step : S → ι → S × List ω

section Machines

variable {ι κ ω S T : Type*}

namespace Machine

/-- The state after these inputs. -/
def after (M : Machine ι ω S) (s : S) (xs : List ι) : S :=
  xs.foldl (fun s x => (M.step s x).1) s

/-- All it puts out for these inputs. -/
def output (M : Machine ι ω S) : S → List ι → List ω
  | _, [] => []
  | s, x :: xs => (M.step s x).2 ++ M.output (M.step s x).1 xs

variable (M : Machine ι ω S)

@[simp]
theorem after_nil (s : S) : M.after s [] = s := rfl

@[simp]
theorem after_cons (s : S) (x : ι) (xs : List ι) :
    M.after s (x :: xs) = M.after (M.step s x).1 xs := rfl

@[simp]
theorem output_nil (s : S) : M.output s [] = [] := rfl

@[simp]
theorem output_cons (s : S) (x : ι) (xs : List ι) :
    M.output s (x :: xs) = (M.step s x).2 ++ M.output (M.step s x).1 xs := rfl

theorem after_append (s : S) (xs ys : List ι) :
    M.after s (xs ++ ys) = M.after (M.after s xs) ys :=
  List.foldl_append

theorem output_append (s : S) (xs ys : List ι) :
    M.output s (xs ++ ys) = M.output s xs ++ M.output (M.after s xs) ys := by
  induction xs generalizing s with
  | nil => rfl
  | cons x xs ih =>
      rw [List.cons_append, output_cons, output_cons, after_cons, ih,
        List.append_assoc]

/-- Each output is put out at one of the inputs. -/
theorem exists_input_of_output {s : S} {t : List ι} {xs ys : List ω} {x : ω}
    (hout : M.output s t = xs ++ x :: ys) :
    ∃ t₁ e t₂ us vs, t = t₁ ++ e :: t₂ ∧ xs = M.output s t₁ ++ us ∧
      (M.step (M.after s t₁) e).2 = us ++ x :: vs := by
  induction t generalizing s xs with
  | nil =>
      rw [output_nil] at hout
      exact absurd hout.symm (List.append_ne_nil_of_right_ne_nil xs
        (List.cons_ne_nil x ys))
  | cons e t ih =>
      rw [output_cons] at hout
      rcases List.append_eq_append_iff.mp hout with
        ⟨us, hxs, hrest⟩ | ⟨vs, hstep, hrest⟩
      · obtain ⟨t₁, e', t₂, us', vs, rfl, hus, hout'⟩ := ih hrest
        refine ⟨e :: t₁, e', t₂, us', vs, rfl, ?_, hout'⟩
        rw [hxs, hus, output_cons, List.append_assoc]
      · cases vs with
        | nil =>
            have hlater : M.output (M.step s e).1 t = [] ++ x :: ys :=
              hrest.symm
            obtain ⟨t₁, e', t₂, us', vs, rfl, hus, hout'⟩ := ih hlater
            refine ⟨e :: t₁, e', t₂, us', vs, rfl, ?_, hout'⟩
            rw [output_cons, List.append_assoc, ← hus, List.append_nil, hstep,
              List.append_nil]
        | cons y vs =>
            obtain ⟨rfl, _⟩ := List.cons.inj hrest
            exact ⟨[], e, t, xs, vs, rfl, rfl, hstep⟩

/-- Two transducers in a row, the second reading what the first puts out. -/
def cascade (M : Machine ι κ S) (N : Machine κ ω T) :
    Machine ι ω (S × T) where
  start := (M.start, N.start)
  step s x :=
    (((M.step s.1 x).1, N.after s.2 (M.step s.1 x).2),
      N.output s.2 (M.step s.1 x).2)

theorem after_cascade (M : Machine ι κ S) (N : Machine κ ω T) (s : S) (t : T)
    (xs : List ι) :
    (M.cascade N).after (s, t) xs =
      (M.after s xs, N.after t (M.output s xs)) := by
  induction xs generalizing s t with
  | nil => rfl
  | cons x xs ih =>
      rw [after_cons, after_cons, output_cons, after_append]
      exact ih _ _

/-- The cascade computes the composition. -/
theorem output_cascade (M : Machine ι κ S) (N : Machine κ ω T) (s : S) (t : T)
    (xs : List ι) :
    (M.cascade N).output (s, t) xs = N.output t (M.output s xs) := by
  induction xs generalizing s t with
  | nil => rfl
  | cons x xs ih =>
      rw [output_cons, output_cons, output_append]
      exact congrArg _ (ih _ _)

end Machine

end Machines

/-! ## Keeping pace -/

variable {I : Interface} {ω S : Type*}

/-- A transducer over the events of a program, what the program writes at each
event, and the events at which it must have written all there is to write. -/
structure Pacing (I : Interface) (ω S : Type*) where
  machine : Machine (Event I) ω S
  written : Event I → List ω
  waits : Event I → Prop

namespace Pacing

variable (P : Pacing I ω S)

/-- What the transducer has put out over a history. -/
def output (h : List (Event I)) : List ω :=
  P.machine.output P.machine.start h

def state (h : List (Event I)) : S := P.machine.after P.machine.start h

/-- Over this history the program has written all but the last outputs. -/
def Owing (due : List ω) (h : List (Event I)) : Prop :=
  P.output h = h.flatMap P.written ++ due

/-- The program is never ahead, and up to date whenever it waits. -/
def contract : Contract I where
  event h e := ∃ due, P.Owing due (h ++ [e]) ∧ (P.waits e → due = [])
  halt _ := True

theorem state_concat (h : List (Event I)) (e : Event I) :
    P.state (h ++ [e]) = (P.machine.step (P.state h) e).1 := by
  rw [state, Machine.after_append]
  rfl

theorem output_concat (h : List (Event I)) (e : Event I) :
    P.output (h ++ [e]) = P.output h ++ (P.machine.step (P.state h) e).2 := by
  rw [output, Machine.output_append, Machine.output_cons, Machine.output_nil,
    List.append_nil]
  rfl

variable {P}

theorem owing_nil : P.Owing [] [] := rfl

/-- One event: what was due and what the transducer adds is written now or
still due. -/
theorem Owing.concat {due due' : List ω} {h : List (Event I)} {e : Event I}
    (hdue : P.Owing due h)
    (hstep : due ++ (P.machine.step (P.state h) e).2 = P.written e ++ due') :
    P.Owing due' (h ++ [e]) := by
  have hflat : (h ++ [e]).flatMap P.written =
      h.flatMap P.written ++ P.written e := by
    rw [List.flatMap_append, List.flatMap_singleton]
  calc P.output (h ++ [e])
      = h.flatMap P.written ++ (due ++ (P.machine.step (P.state h) e).2) := by
        rw [output_concat, hdue, List.append_assoc]
    _ = (h ++ [e]).flatMap P.written ++ due' := by
        rw [hstep, hflat, List.append_assoc]

/-- What a kept contract says of any point of a run. -/
theorem of_along {h t₁ t₂ : List (Event I)} {e : Event I}
    (halong : Along P.contract h (t₁ ++ e :: t₂)) :
    (h ++ (t₁ ++ [e])).flatMap P.written <+: P.output (h ++ (t₁ ++ [e])) ∧
      (P.waits e → (h ++ (t₁ ++ [e])).flatMap P.written =
        P.output (h ++ (t₁ ++ [e]))) := by
  obtain ⟨due, hdue, hwaits⟩ := halong.at_event
  rw [List.append_assoc] at hdue
  constructor
  · exact ⟨due, hdue.symm⟩
  · intro he
    rw [hdue, hwaits he, List.append_nil]

end Pacing

end EzspSpi.Transducer
