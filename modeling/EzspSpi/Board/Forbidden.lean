import EzspSpi.Board.Pins
import EzspSpi.Host.Playback

/-!
# The forbidden line

A board may declare a line that must never be driven.  The guard of
`pins_autodetect` looks at nSSEL_INT alone, so the line is still driven where
an option gives it to nRESET or nWAKE.
-/

namespace EzspSpi

open Program

variable {σ : Type} [Kernel σ]

/-- The line an event requests as an output, granted or not. -/
def outputOffset : HostEvent → Option (BitVec 32)
  | .call (.requestOutput offset _) _ => some offset
  | _ => none

/-- A line request of either kind. -/
def IsLineRequest : HostEvent → Prop
  | .call (.requestOutput _ _) _ => True
  | .call (.requestInputEdges _) _ => True
  | _ => False

theorem isLineRequest_of_offset {e : HostEvent} {offset : BitVec 32}
    (he : outputOffset e = some offset) : IsLineRequest e := by
  cases e with
  | note n => cases he
  | call c r => cases c <;> trivial

/-- Either the run exits with an error before it requests any line, or it
never requests this one as an output. -/
def Spares {α : Type} (forbid : BitVec 32) (r : Run host σ α) : Prop :=
  (r.outcome = .halt .exit ∧ ∀ e ∈ r.trace, ¬IsLineRequest e) ∨
    ∀ e ∈ r.trace, outputOffset e ≠ some forbid

/-- The lines that settled line settings make outputs. -/
def outputLines (cfg : LineCfg) : List (BitVec 32) :=
  [cfg.resetLine, cfg.wakeLine] ++
    (if cfg.nsselIntMode = ascii "input" then [] else [cfg.nsselIntLine]) ++
    (if cfg.csLine = 0 then [] else [cfg.csLine])

/-! ## What is requested -/

/-- At most the output lines are requested as outputs. -/
def OnlyOutputs (lines : List (BitVec 32)) (e : HostEvent) : Prop :=
  ∀ offset ∈ outputOffset e, offset ∈ lines

private theorem gpioRequestOutput_emits {lines : List (BitVec 32)}
    {offset : BitVec 32} (hoffset : offset ∈ lines) (value : Bool) :
    Emits (OnlyOutputs lines)
      (gpioRequestOutput offset value : Host σ Int) := by
  rw [gpioRequestOutput]
  apply Emits.bind
  · apply Emits.call
    intro fd offset' hoffset'
    exact Option.mem_some_iff.mp hoffset' ▸ hoffset
  · intro fd
    cases fd with
    | none => exact Emits.halt
    | some fd => exact Emits.pure

private theorem gpioTryOutput_emits {lines : List (BitVec 32)}
    {offset : BitVec 32} (hoffset : offset ∈ lines) (value : Bool) :
    Emits (OnlyOutputs lines) (gpioTryOutput offset value : Host σ Int) := by
  rw [gpioTryOutput]
  apply Emits.bind
  · apply Emits.call
    intro fd offset' hoffset'
    exact Option.mem_some_iff.mp hoffset' ▸ hoffset
  · exact fun _ => Emits.pure

theorem pinsRequest_emits (cfg : LineCfg) :
    Emits (OnlyOutputs (outputLines cfg))
      (pinsRequest cfg : Host σ (Pins × Bool)) := by
  have hnssel : Emits (OnlyOutputs (outputLines cfg))
      (nsselIntOpen cfg : Host σ (Int × Bool)) := by
    rw [nsselIntOpen]
    by_cases hmode : cfg.nsselIntMode = ascii "input"
    · rw [if_pos hmode]
      exact Emits.pure
    · rw [if_neg hmode]
      have hline : cfg.nsselIntLine ∈ outputLines cfg := by
        simp [outputLines, hmode]
      exact (gpioRequestOutput_emits hline _).bind fun _ => Emits.pure
  have hcs : Emits (OnlyOutputs (outputLines cfg))
      (csOpen cfg : Host σ Int) := by
    rw [csOpen]
    by_cases hnone : cfg.csLine = 0
    · rw [if_pos hnone]
      exact Emits.pure
    · rw [if_neg hnone]
      have hline : cfg.csLine ∈ outputLines cfg := by
        rw [outputLines, if_neg hnone]
        exact List.mem_append_right _ (List.mem_singleton_self _)
      exact gpioTryOutput_emits hline true
  have hhint : Emits (OnlyOutputs (outputLines cfg))
      (gpioRequestInputEdges cfg.intLine : Host σ Int) := by
    rw [gpioRequestInputEdges]
    apply Emits.bind
    · apply Emits.call
      intro fd offset hoffset
      cases hoffset
    · exact fun _ => Emits.pure
  rw [pinsRequest]
  apply (gpioRequestOutput_emits (by simp [outputLines]) true).bind
  intro reset
  apply (gpioRequestOutput_emits (by simp [outputLines]) true).bind
  intro wake
  apply hnssel.bind
  intro out
  apply hcs.bind
  exact fun _ => hhint.bind fun _ => Emits.pure

/-- With every line free, all of them are. -/
theorem pinsRequest_bench (cfg : LineCfg) (s : Bench) :
    (pinsRequest cfg s).trace.filterMap outputOffset = outputLines cfg := by
  rw [pinsRequest, nsselIntOpen, csOpen, outputLines]
  by_cases hmode : cfg.nsselIntMode = ascii "input" <;>
    by_cases hcs : cfg.csLine = 0 <;>
      simp only [hmode, hcs, if_true, if_false] <;> rfl

/-! ## When the forbidden line is spared -/

/-- The settings as `pins_autodetect` leaves them on a board. -/
theorem pinsAutodetect_eq {name : Option (List Byte)} {b : Board}
    (hb : boardDetect name = some b) (cfg : LineCfg) {s : σ}
    (hname : (Surroundings.answer (I := host) .boardName s).1 = name) :
    ∃ s' : σ, pinsOpen cfg s =
      (if Refused b (boardLines b cfg) then
        ⟨.halt .exit, [.call .boardName name], s'⟩
      else
        ⟨(pinsRequest (boardLines b cfg) s').outcome,
          .call .boardName name :: (pinsRequest (boardLines b cfg) s').trace,
          (pinsRequest (boardLines b cfg) s').world⟩) := by
  refine ⟨(Surroundings.answer (I := host) .boardName s).2, ?_⟩
  rw [pinsOpen, pinsAutodetect]
  subst hname
  simp only [bind_apply, call, Run.andThen, pinsSettle, hb]
  by_cases hrefused : Refused b (boardLines b cfg)
  · simp only [if_pos hrefused, die, halt_apply, List.append_nil]
  · simp only [if_neg hrefused, pure_apply, List.append_nil,
      List.singleton_append]

/-- No option names the chip select. -/
theorem parseSettings_csSet (settings : List Setting) :
    (parseSettings settings).csSet = false := by
  rw [parseSettings]
  induction settings using List.reverseRecOn with
  | nil => rfl
  | append_singleton settings setting ih =>
      rw [List.foldl_concat, ← ih]
      generalize settings.foldl applySetting defaultLines = cfg
      rw [applySetting]
      split <;> rfl

/-- The boards' own chip select is not the line they forbid. -/
theorem nssel_ne_forbid {name : Option (List Byte)} {b : Board}
    (hb : boardDetect name = some b) : b.nssel ≠ b.forbid := by
  have hall : ∀ b ∈ boards, b.nssel ≠ b.forbid := by decide
  obtain ⟨content, _, hfind⟩ := Option.bind_eq_some_iff.mp hb
  exact hall b (List.mem_of_find?_eq_some hfind)

/-- Past the guard, the forbidden line is an output exactly if nRESET or nWAKE
was given it. -/
theorem forbid_mem_outputLines {name : Option (List Byte)} {b : Board}
    (hb : boardDetect name = some b) (hforbid : b.forbid ≠ 0)
    (settings : List Setting)
    (hpassed : ¬Refused b (boardLines b (parseSettings settings))) :
    b.forbid ∈ outputLines (boardLines b (parseSettings settings)) ↔
      (boardLines b (parseSettings settings)).resetLine = b.forbid ∨
        (boardLines b (parseSettings settings)).wakeLine = b.forbid := by
  have hcs : (boardLines b (parseSettings settings)).csLine ≠ b.forbid := by
    rw [boardLines, parseSettings_csSet]
    exact nssel_ne_forbid hb
  generalize boardLines b (parseSettings settings) = cfg at hpassed hcs ⊢
  have hnssel : cfg.nsselIntMode = ascii "input" ∨
      cfg.nsselIntLine ≠ b.forbid := by
    by_contra hnone
    rw [not_or, not_not] at hnone
    exact hpassed ⟨hforbid, hnone.2, hnone.1⟩
  have houtput : b.forbid ∉
      (if cfg.nsselIntMode = ascii "input" then [] else [cfg.nsselIntLine]) := by
    split
    · exact List.not_mem_nil
    · exact fun hmem => (hnssel.resolve_left ‹_›) (List.mem_singleton.mp hmem).symm
  have hselect : b.forbid ∉ (if cfg.csLine = 0 then [] else [cfg.csLine]) := by
    split
    · exact List.not_mem_nil
    · exact fun hmem => hcs (List.mem_singleton.mp hmem).symm
  rw [outputLines, List.mem_append, List.mem_append, or_iff_left hselect,
    or_iff_left houtput, List.mem_pair, eq_comm, eq_comm (b := cfg.wakeLine)]

/-- On a board that forbids a line, `pins_open` spares the line in all
surroundings exactly if the guard refuses the nSSEL_INT line, or neither
nRESET nor nWAKE was given the forbidden one. -/
theorem pinsOpen_spares_forbidden_iff (settings : List Setting)
    (name : Option (List Byte)) (b : Board) (hb : boardDetect name = some b)
    (hforbid : b.forbid ≠ 0) :
    (∀ (σ : Type) [Kernel σ] (s : σ),
        (Surroundings.answer (I := host) .boardName s).1 = name →
          Spares b.forbid (pinsOpen (parseSettings settings) s)) ↔
      Refused b (boardLines b (parseSettings settings)) ∨
        (boardLines b (parseSettings settings)).resetLine ≠ b.forbid ∧
          (boardLines b (parseSettings settings)).wakeLine ≠ b.forbid := by
  by_cases hrefused : Refused b (boardLines b (parseSettings settings))
  · refine ⟨fun _ => Or.inl hrefused, fun _ σ _ s hs => Or.inl ?_⟩
    obtain ⟨s', heq⟩ := pinsAutodetect_eq hb (parseSettings settings) hs
    rw [heq, if_pos hrefused]
    refine ⟨rfl, fun e he => ?_⟩
    rw [List.mem_singleton.mp he]
    exact id
  · rw [or_iff_right hrefused, ← not_or,
      ← forbid_mem_outputLines hb hforbid settings hrefused]
    constructor
    · intro hspares hmem
      have hrun := hspares Bench ⟨name, 3⟩ rfl
      obtain ⟨s', heq⟩ := pinsAutodetect_eq (s := (⟨name, 3⟩ : Bench)) hb
        (parseSettings settings) rfl
      rw [← pinsRequest_bench _ s', List.mem_filterMap] at hmem
      obtain ⟨e, he, hoffset⟩ := hmem
      rw [heq, if_neg hrefused] at hrun
      have hin := List.mem_cons_of_mem (Event.call (I := host) .boardName name) he
      rcases hrun with ⟨_, hnone⟩ | hnever
      · exact hnone e hin (isLineRequest_of_offset hoffset)
      · exact hnever e hin hoffset
    · intro hnot σ _ s hs
      obtain ⟨s', heq⟩ := pinsAutodetect_eq hb (parseSettings settings) hs
      rw [heq, if_neg hrefused]
      right
      intro e he hoffset
      rcases List.mem_cons.mp he with rfl | he
      · cases hoffset
      · obtain ⟨t₁, t₂, htrace⟩ := List.append_of_mem he
        have halong := (pinsRequest_emits
          (boardLines b (parseSettings settings)) [] s').1
        rw [htrace] at halong
        exact hnot (halong.at_event b.forbid hoffset)

def velopV1 : Option (List Byte) := some (ascii "linksys,whw03\n")

theorem pinsOpen_spares_forbidden_iff_default :
    (∀ (σ : Type) [Kernel σ] (s : σ),
        (Surroundings.answer (I := host) .boardName s).1 = velopV1 →
          Spares 29 (pinsOpen (parseSettings []) s)) ↔
      Refused ⟨ascii "whw03", 49, 55, 50, 56, 45, 29⟩
          (boardLines ⟨ascii "whw03", 49, 55, 50, 56, 45, 29⟩ (parseSettings [])) ∨
        (49 : BitVec 32) ≠ 29 ∧ (55 : BitVec 32) ≠ 29 :=
  pinsOpen_spares_forbidden_iff [] velopV1
    ⟨ascii "whw03", 49, 55, 50, 56, 45, 29⟩ (by decide) (by decide)

/-- `--reset 29` on the V1 drives the eMMC line. -/
theorem pinsOpen_drives_forbidden :
    ¬∀ (settings : List Setting) (name : Option (List Byte)) (b : Board),
      boardDetect name = some b → b.forbid ≠ 0 →
      ∀ (σ : Type) [Kernel σ] (s : σ),
        (Surroundings.answer (I := host) .boardName s).1 = name →
          Spares b.forbid (pinsOpen (parseSettings settings) s) := by
  intro hall
  have hspares := hall [⟨"reset", ascii "29"⟩] velopV1
    ⟨ascii "whw03", 49, 55, 50, 56, 45, 29⟩ (by decide) (by decide) Bench
    ⟨velopV1, 3⟩ rfl
  have hdriven : some 29 ∈ (pinsOpen (parseSettings [⟨"reset", ascii "29"⟩])
      (⟨velopV1, 3⟩ : Bench)).trace.map outputOffset := by
    decide +kernel
  obtain ⟨e, he, hoffset⟩ := List.mem_map.mp hdriven
  rcases hspares with ⟨_, hnone⟩ | hnever
  · exact hnone e he (isLineRequest_of_offset hoffset)
  · exact hnever e he hoffset

end EzspSpi
