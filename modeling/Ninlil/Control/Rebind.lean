import Ninlil.Control.Coupled

/-!
# Binding again

A disconnected logical session can be bound again, unless a malformed read disconnected it: then
the control session below stays bound.

* `disconnectsBound`: a step whose pump meets a malformed read while nothing is tracked;
* `rebindable_run`: without such a step, every disconnected session can be bound again;
* `malformed_read_strands`: after such a step it cannot.
-/

namespace Ninlil.Control

/-- The pump of a step meets a malformed read while no frame is tracked. -/
def disconnectsBound (s : LogicalSession) (io : StepIo) : Bool :=
  stepRuns s io && (prepareStep s io.now).2.trackedKind == .none
    && pumpMeetsMalformedRead (prepareStep s io.now).2.u3 io.pump

/-- A stream that can be bound to. -/
structure BindIo.Up (io : BindIo) : Prop where
  poll : io.pollStatus = .ok ∨ io.pollStatus = .wouldBlock
  link : io.link = .up
  generation : io.generation ≠ 0

/-- Nothing is left over from the last binding. -/
structure Rebindable (s : LogicalSession) : Prop where
  unbound : s.u3.state ≠ .bound
  phase : s.u3.trackedPhase = .none
  token : s.u3.trackedToken = 0
  /-- A bind succeeds, while there are epochs left. -/
  binds : ∀ io : BindIo, io.Up →
    (bindLogical s io).1 = if s.u3.epochNext = 0 then .epochExhausted else .ok

section Steps

variable {s : LogicalSession}

theorem state_fenceAndRehello (s : LogicalSession) :
    (fenceAndRehello s).state = .linkUpNoSession := by
  unfold fenceAndRehello
  dsimp only
  split_ifs <;> rfl

theorem state_onLinkLost_tracked (h : s.trackedKind ≠ .none) :
    (onLinkLost s).state = .linkUpNoSession := by
  rw [onLinkLost_tracked h]
  rfl

/-- A session that lost its link is disconnected with its control session fenced, or still waits
for a frame. -/
theorem unbound_of_lost {st : SessionStatus} (hst : st.lost = true) (hf : s.u3.state = .fenced)
    (hk : s.trackedKind = .none) (hd : (applyU3PumpStatus s st).2.state = .disconnected) :
    (applyU3PumpStatus s st).2.u3.state ≠ .bound := by
  rcases apply_lost hst s with heq | heq
  · rw [heq, onEpochLost, state_fenceAndRehello] at hd
    cases hd
  · rw [heq, onLinkLost_untracked hk]
    show s.u3.state ≠ .bound
    rw [hf]
    decide

theorem up_of_mild {st : SessionStatus} (hst : st.mild = true) (hup : s.state ≠ .disconnected) :
    (applyU3PumpStatus s st).2.state ≠ .disconnected := by
  rcases apply_mild hst s with heq | heq
  · rw [heq]; exact hup
  · rw [heq]; exact (local_continuityLoss s).up hup

/-- An allowed step disconnects only over a control session that is not bound. -/
theorem unbound_step (h : Coupled s) (io : StepIo)
    (hu : s.state = .disconnected → s.u3.state ≠ .bound) (hok : disconnectsBound s io = false)
    (hd : (step s io).2.state = .disconnected) : (step s io).2.u3.state ≠ .bound := by
  have hstep := h.stepped io
  generalize (step s io).2 = s' at hstep hd
  cases hstep with
  | refused => exact hu hd
  | @went r t st up runs outcome _ _ applied =>
    obtain ⟨hprep, hup'⟩ := h.prepare up io.now
    have hcoupled : Coupled t := applied ▸ hprep.apply hup' outcome
    have ht : t.state = .disconnected → t.u3.state ≠ .bound := by
      intro htd
      rw [applied] at htd ⊢
      cases outcome with
      | off _ state untracked =>
        have hst : (applyU3PumpStatus (prepareStep s io.now).2 .continuityLost).2.state =
            .linkUpNoSession := state_fenceAndRehello _
        exact absurd (hst.symm.trans htd) (by decide)
      | @malformed u claimed meets session same grown =>
        have htracked : (prepareStep s io.now).2.trackedKind ≠ .none := by
          intro hk
          rw [disconnectsBound, runs, hk, meets] at hok
          cases hok
        have hst : (applyU3PumpStatus { (prepareStep s io.now).2 with u3 := u }
            .ioError).2.state = .linkUpNoSession := state_onLinkLost_tracked htracked
        exact absurd (hst.symm.trans htd) (by decide)
      | kept _ _ _ status => exact absurd htd (up_of_mild status hup')
      | accepted _ _ _ status =>
        refine absurd htd (up_of_mild status ?_)
        exact (local_onRawAccepted _).up hup'
      | fenced _ _ sound state _ status grown settling untracked =>
        obtain ⟨-, -, hst⟩ := (hprep.tracked_pump sound grown).settling settling
        exact unbound_of_lost status (hst.trans state) untracked htd
    split_ifs at hd ⊢ with hdown
    · exact ht hdown
    · exact absurd hd ((local_drainRx hcoupled.rx).up hdown)

theorem unbound_bind (h : Coupled s) (io : BindIo)
    (hu : s.state = .disconnected → s.u3.state ≠ .bound)
    (hd : (bindLogical s io).2.state = .disconnected) : (bindLogical s io).2.u3.state ≠ .bound := by
  have hb := h.binding io
  generalize (bindLogical s io).2 = s' at hb hd
  cases hb with
  | refused => exact hu hd
  | exhausted _ _ _ state =>
    show _ ≠ _
    rw [state]
    decide
  | bound =>
    dsimp only at hd
    split at hd <;> cases hd

theorem unbound_unbind (h : Coupled s) (hu : s.state = .disconnected → s.u3.state ≠ .bound) :
    (unbindLogical s).2.u3.state ≠ .bound := by
  by_cases hup : s.state = .disconnected
  · rw [unbindLogical, if_pos hup]
    exact hu hup
  · obtain ⟨u, -, -, hstate, -, -, heq⟩ := h.unbinding hup
    rw [heq]
    show u.state ≠ .bound
    rw [hstate]
    decide

/-- A coupled session whose control session let go can be bound again. -/
theorem Coupled.rebindable (h : Coupled s) (hd : s.state = .disconnected)
    (hu : s.u3.state ≠ .bound) : Rebindable s := by
  have hphase := h.tracked.1 (h.down hd).1
  have htoken := h.sound.free_iff.1 hphase
  refine ⟨hu, hphase, htoken, fun io hio => ?_⟩
  have hbind : Control.bind s.u3 io = (.ok, attached s.u3 io) := by
    unfold Control.bind
    rw [if_neg hu, if_neg (by rcases hio.poll with hp | hp <;> rw [hp] <;> decide),
      if_neg (by rcases hio.poll with hp | hp <;> rw [hp] <;> decide),
      if_neg (by rw [hio.link]; simpa using hio.generation)]
    rfl
  rw [bindLogical, if_neg (not_not.2 hd), hbind]
  dsimp only
  rw [logicalEpochBegin_attached hphase htoken]
  by_cases hnext : s.u3.epochNext = 0
  · rw [if_pos hnext, if_pos hnext]
    rfl
  · rw [if_neg hnext, if_neg hnext]

end Steps

/-- **A disconnected session can be bound again**, in every run without a malformed read while no
frame is tracked. -/
theorem rebindable_run (config : LogicalConfig) (calls : List LogicalCall)
    (hcautious : Cautious (fun s io => !disconnectsBound s io) (.init config) calls)
    (hd : (LogicalSession.run config calls).state = .disconnected) :
    Rebindable (.run config calls) := by
  have hu : (LogicalSession.run config calls).state = .disconnected →
      (LogicalSession.run config calls).u3.state ≠ .bound := by
    refine cautious_rule (P := fun s => s.state = .disconnected → s.u3.state ≠ .bound)
      (fun s io hc hs => unbound_bind hc io hs) (fun s hc hs _ => unbound_unbind hc hs)
      (fun s io hc hs hok => unbound_step hc io hs (by simpa using hok)) (fun _ => nofun)
      hcautious
  exact (coupled_run config calls).rebindable hd (hu hd)

/-- A Cell is bound, makes a step and is unbound: it can be bound again. -/
theorem unbound_cell_rebindable :
    Rebindable (.run (sampleConfig .cell)
      [.bind upIo, .step { now := 0, pump := quietIo blockedWrite }, .unbind]) :=
  rebindable_run (sampleConfig .cell) _ ⟨by decide, trivial⟩ (by decide)

/-! ### A malformed read -/

/-- A read that reports `WOULD_BLOCK` together with bytes. -/
def malformedReadIo : PumpIo :=
  { quietIo blockedWrite with
    reads := fun _ =>
      { status := .wouldBlock, length := 1, chunk := fun _ => 0, ticket := steadyTicket } }

/-- A Cell meets a malformed read with nothing to send. -/
def strandedRun : List LogicalCall := [.bind upIo, .step { now := 0, pump := malformedReadIo }]

/-- The malformed read disconnects the session over a bound control session: it can neither be bound
again, nor does an unbind help. -/
theorem malformed_read_strands :
    (LogicalSession.run (sampleConfig .cell) strandedRun).state = .disconnected ∧
      (LogicalSession.run (sampleConfig .cell) strandedRun).u3.state = .bound ∧
      (bindLogical (.run (sampleConfig .cell) strandedRun) upIo).1 = .ioError ∧
      (bindLogical (.run (sampleConfig .cell) (strandedRun ++ [.unbind])) upIo).1 = .ioError := by
  decide

end Ninlil.Control
