import EzspSpi.Router.ConductRun
import EzspSpi.Spi.Discipline

/-!
# The router on the bus

Every command of the router keeps the discipline on the bus from its first
event to its last, whatever it does in between.
-/

namespace EzspSpi

open Program

variable {σ : Type} [Kernel σ] {g : Globals} {p : Pins}

/-- The wires are at rest after this history. -/
def Resting (g : Globals) (p : Pins) (_ : Router) (h : List HostEvent) :
    Prop :=
  ((busMonitor g p).after Wires.init h).AtRest p

theorem IsStill.isMute {e : HostEvent} (he : IsStill e) : IsMute e := by
  cases e with
  | note n => trivial
  | call c got =>
      cases c with
      | spiTransfer tx keepRx keepCs => exact he.elim
      | gpioSetValue fd level => exact he.elim
      | _ => trivial

/-- Every command may be sent. -/
theorem conduct_discipline (hp : p.Apart) :
    Conduct σ g p ((busMonitor g p).contract Wires.init) (Resting g p)
      fun _ _ => True where
  halt _ := trivial
  still {r h e} hrest he := by
    obtain ⟨hpermits, hstep⟩ := he.isMute.permitted (g := g) (p := p)
      ((busMonitor g p).after Wires.init h)
    refine ⟨hpermits, ?_⟩
    rw [Resting, Monitor.after_append]
    change (Wires.step p _ e).AtRest p
    rwa [hstep]
  alike hrest _ := hrest
  xfer := by
    rintro r frameId params max - hparams h hrest
    have hfits : ¬params.length + 5 > 160 := by omega
    rw [ezspXfer, if_neg hfits]
    apply ((doCmd_orderly g hp _ 260 true).holds (fun _ _ => trivial)
      hrest).seq
    rintro ⟨cls, rx⟩ h' hrest'
    dsimp only
    split
    · exact Holds.pure hrest'
    · exact Holds.pure hrest'

theorem opens_discipline (hp : p.Apart) (c : RouterCfg) (r : Router) :
    Opens σ ((busMonitor g p).contract Wires.init) (Resting g p) g c p r := by
  have hI := conduct_discipline (σ := σ) (g := g) hp
  have hrest : Resting g p r [] := by
    refine ⟨rfl, rfl, ?_⟩
    rw [Monitor.after_nil, Wires.Deselected]
    split <;> rfl
  refine hI.opens (fun _ => trivial) (fun h _ => h) ?_ ?_
  · intro r h hrest
    apply Holds.bind
    apply Holds.note trivial
    have hnote : Resting g p r (h ++ [.note .reset]) := by
      rw [Resting, Monitor.after_append]
      exact hrest
    exact (ncpReset_orderly g hp).holds (fun _ _ => trivial) hnote
  · intro h hh
    induction h using List.reverseRecOn with
    | nil => exact hrest
    | append_singleton h e ih =>
        have hbefore := ih fun e' he' => hh e' (List.mem_append_left [e] he')
        exact (hI.still hbefore (hh e List.mem_concat_self)).2

/-- In every run of every command, to its end or to wherever it is cut short,
bytes are clocked only while the NCP is selected, out of reset and not being
woken, every command has a selection of its own, and nRESET and nWAKE move
between transactions only. -/
theorem RadioCommand.keeps_discipline (k : RadioCommand) (g : Globals)
    (c : RouterCfg) {p : Pins} (hp : p.Apart) (r : Router) (s : σ) :
    Along ((busMonitor g p).contract Wires.init) []
      (k.program g c p r s).trace := by
  have hI : Conduct σ g p ((busMonitor g p).contract Wires.init)
      (Resting g p) (Sends k.frameIds c) := by
    obtain ⟨hhalt, hstill, halike, hxfer⟩ := conduct_discipline (σ := σ)
      (g := g) hp
    exact ⟨hhalt, hstill, halike, fun r frameId params max _ hparams =>
      hxfer r frameId params max trivial hparams⟩
  exact (Conduct.program (opens_discipline hp c r) k hI s).1

/-- A reset, a version that is agreed on and a command that is granted. -/
def permitRun : Run host Responder ℕ :=
  (RadioCommand.flow (.permit none)).program ⟨⟨2, false⟩, true⟩ defaultCfg
    ⟨3, 4, 5, 7, 6⟩ routerInit (obligingNcp 0x00 fun _ => [ezspNoCallbacks])

theorem RadioCommand.keeps_discipline_run :
    Pins.Apart ⟨3, 4, 5, 7, 6⟩ ∧ permitRun.outcome = .done 0 ∧
      Along ((busMonitor ⟨⟨2, false⟩, true⟩ ⟨3, 4, 5, 7, 6⟩).contract Wires.init)
        [] permitRun.trace := by
  have hp : Pins.Apart ⟨3, 4, 5, 7, 6⟩ := by constructor <;> decide
  exact ⟨hp, by decide +kernel, RadioCommand.keeps_discipline _ _ _ hp _ _⟩

end EzspSpi
