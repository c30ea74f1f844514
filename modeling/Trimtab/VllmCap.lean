import Trimtab.VllmScheduler
import Trimtab.DrainGate

set_option autoImplicit false

/-!
# The cap on running requests in vLLM

The engine core is one thread: it serves utility calls between two calls of `schedule`.
Of the stock scheduler the model has what admits: one request at a time, while the number
of running requests is not the cap.
-/
namespace Trimtab.VllmCap
open VllmScheduler Runs

structure Core where
  sched : Sched
  scheduling : Bool

inductive Event where
  | setKnobs (knobs : Fields)
  | beginSchedule
  | enter
  | finish
  | endSchedule

namespace Core

def setKnobs (c : Core) (knobs : Fields) : Core :=
  if c.scheduling then c else { c with sched := (handled knobs c.sched).sched }

def beginSchedule (c : Core) : Core :=
  if c.scheduling then c else ⟨schedulePrologue c.sched, true⟩

def enter (c : Core) : Core :=
  if c.scheduling ∧ (c.sched.running : Int) ≠ c.sched.maxNumRunningReqs then
    { c with sched := { c.sched with running := c.sched.running + 1 } }
  else c

def finish (c : Core) : Core :=
  { c with sched := { c.sched with running := c.sched.running - 1 } }

def endSchedule (c : Core) : Core := { c with scheduling := false }

end Core

def step (c : Core) : Event → Core
  | .setKnobs knobs => c.setKnobs knobs
  | .beginSchedule => c.beginSchedule
  | .enter => c.enter
  | .finish => c.finish
  | .endSchedule => c.endSchedule

def accepted (c : Core) : Event → Option Int
  | .setKnobs knobs => if c.scheduling then none else (handled knobs c.sched).target
  | _ => none

structure Boot (s : Sched) : Prop where
  running_le : (s.running : Int) ≤ s.maxNumRunningReqs
  not_pending : s.pendingMaxNumSeqs = none
  not_recorded : s.ceilings = none

def Core.boot (s : Sched) : Core := ⟨s, false⟩

def lastAccepted (boot : Sched) (es : List Event) : Int :=
  (run (withGhost step fun c t e => (accepted c e).getD t) (.boot boot, boot.maxNumRunningReqs) es).2

/-! ## The scheduler is a drain gate -/

def Core.gate (c : Core) : DrainGate :=
  ⟨c.sched.running, c.sched.maxNumRunningReqs,
    c.sched.pendingMaxNumSeqs.getD c.sched.maxNumRunningReqs, c.scheduling⟩

def gateEvents (c : Core) : Event → List DrainGate.Event
  | .setKnobs knobs => ((accepted c (.setKnobs knobs)).map .retarget).toList
  | .beginSchedule => [.opens]
  | .enter => [.enter]
  | .finish => [.leave]
  | .endSchedule => [.shut]

theorem gate_setKnobs {c : Core} (hidle : c.scheduling = false) (knobs : Fields) :
    (c.setKnobs knobs).gate = run DrainGate.step c.gate (gateEvents c (.setKnobs knobs)) := by
  have hh := capHandled_handled knobs c.sched
  have hrun := hh.running
  simp only [Core.setKnobs, hidle, Bool.false_eq_true, if_false, Core.gate, gateEvents, accepted]
  cases ht : (handled knobs c.sched).target with
  | none =>
    obtain ⟨hcap, hpend⟩ := hh.untouched ht
    rw [hrun, hcap, hpend]
    rfl
  | some t =>
    obtain ⟨-, hcap, hpend⟩ := hh.retargeted t ht
    rw [hrun, hcap, hpend]
    rfl

theorem gate_beginSchedule {c : Core} (hs : c.gate.Safe) (hidle : c.scheduling = false) :
    c.beginSchedule.gate = c.gate.opens := by
  have ho : (c.sched.running : Int) ≤ c.sched.maxNumRunningReqs := hs.occupancy_le
  simp only [Core.beginSchedule, hidle, Bool.false_eq_true, if_false, Core.gate, DrainGate.opens,
    schedulePrologue]
  cases hp : c.sched.pendingMaxNumSeqs with
  | none =>
    -- no target is pending: the cap is the target already, and opening keeps it
    simp [hp, max_eq_left ho]
  | some pending =>
    dsimp only
    by_cases hle : (c.sched.running : Int) ≤ pending
    · simp [hle]
    · simp [hle]

theorem gate_enter {c : Core} (hs : c.gate.Safe) : c.enter.gate = c.gate.enter := by
  have ho : (c.sched.running : Int) ≤ c.sched.maxNumRunningReqs := hs.occupancy_le
  have hne : (c.sched.running : Int) ≠ c.sched.maxNumRunningReqs ↔
      (c.sched.running : Int) < c.sched.maxNumRunningReqs := by omega
  simp only [Core.enter, DrainGate.enter, Core.gate, hne]
  by_cases h : c.scheduling = true ∧ (c.sched.running : Int) < c.sched.maxNumRunningReqs
  · simp only [h, and_self, if_true]
  · simp only [h, if_false]

theorem gate_step {c : Core} (hs : c.gate.Safe) (e : Event) :
    (step c e).gate = run DrainGate.step c.gate (gateEvents c e) := by
  cases e with
  | setKnobs knobs =>
    cases hidle : c.scheduling with
    | true => simp [step, Core.setKnobs, gateEvents, accepted, hidle]
    | false => exact gate_setKnobs hidle knobs
  | beginSchedule =>
    cases hidle : c.scheduling with
    | true =>
      change c.beginSchedule.gate = c.gate.opens
      simp [Core.beginSchedule, hidle, DrainGate.opens, Core.gate]
    | false => exact gate_beginSchedule hs hidle
  | enter => exact gate_enter hs
  | finish => rfl
  | endSchedule => rfl

theorem safe_step {c : Core} (hs : c.gate.Safe) (e : Event) : (step c e).gate.Safe := by
  rw [gate_step hs e]
  exact run_invariant (I := DrainGate.Safe) (fun _ e h => DrainGate.safe_step h e) _ hs

theorem gate_run {c : Core} (hs : c.gate.Safe) (es : List Event) :
    (run step c es).gate = run DrainGate.step c.gate (trace step gateEvents c es) :=
  run_refines (I := fun c : Core => c.gate.Safe) (fun _ e h => safe_step h e)
    (fun _ e h => gate_step h e) hs es

theorem safe_run {c : Core} (hs : c.gate.Safe) (es : List Event) : (run step c es).gate.Safe :=
  run_invariant (I := fun c : Core => c.gate.Safe) (fun _ e h => safe_step h e) es hs

theorem safe_boot {s : Sched} (h : Boot s) : (Core.boot s).gate.Safe :=
  ⟨h.running_le, by simp [Core.boot, Core.gate, h.not_pending]⟩

/-! ## The ceiling is the boot value -/

/-- The ceiling on record, or the one the next request records, is `boot`. -/
structure Recorded (boot : Int) (s : Sched) : Prop where
  ceiling : (ceilingsOf s).maxNumSeqs = boot
  not_pending : s.ceilings = none → s.pendingMaxNumSeqs = none

theorem recorded_of_eq {boot : Int} {s t : Sched} (h : Recorded boot s)
    (hc : t.ceilings = some (ceilingsOf s)) : Recorded boot t := by
  refine ⟨?_, fun hn => ?_⟩
  · rw [ceilingsOf, hc]
    exact h.ceiling
  · rw [hn] at hc
    cases hc

theorem recorded_prologue {boot : Int} {s : Sched} (h : Recorded boot s) :
    Recorded boot (schedulePrologue s) := by
  unfold schedulePrologue
  cases hp : s.pendingMaxNumSeqs with
  | none => exact h
  | some pending =>
    cases hc : s.ceilings with
    | none => rw [h.not_pending hc] at hp; cases hp
    | some ceilings =>
      refine recorded_of_eq h ?_
      simp [ceilingsOf, hc]

theorem recorded_step {boot : Int} {c : Core} (h : Recorded boot c.sched) (e : Event) :
    Recorded boot (step c e).sched := by
  cases e with
  | setKnobs knobs =>
    change Recorded boot (c.setKnobs knobs).sched
    unfold Core.setKnobs
    split_ifs
    · exact h
    · exact recorded_of_eq h (capHandled_handled knobs c.sched).ceilings
  | beginSchedule =>
    change Recorded boot c.beginSchedule.sched
    unfold Core.beginSchedule
    split_ifs
    · exact h
    · exact recorded_prologue h
  | enter =>
    change Recorded boot c.enter.sched
    unfold Core.enter
    split_ifs
    · exact ⟨h.ceiling, h.not_pending⟩
    · exact h
  | finish => exact ⟨h.ceiling, h.not_pending⟩
  | endSchedule => exact h

theorem recorded_boot {s : Sched} (h : Boot s) : Recorded s.maxNumRunningReqs s := by
  refine ⟨?_, fun _ => h.not_pending⟩
  rw [ceilingsOf, h.not_recorded]
  rfl

theorem accepted_le {boot : Int} {c : Core} (h : Recorded boot c.sched) {e : Event} {t : Int}
    (ht : accepted c e = some t) : t ≤ boot := by
  cases e with
  | setKnobs knobs =>
    unfold accepted at ht
    split_ifs at ht
    have hrange := ((capHandled_handled knobs c.sched).retargeted t ht).1
    rw [h.ceiling] at hrange
    exact hrange.2
  | _ => cases ht

theorem cap_step {boot : Int} {c : Core} (hs : c.gate.Safe) (hr : Recorded boot c.sched)
    (hcap : c.gate.cap ≤ boot) (e : Event) : (step c e).gate.cap ≤ boot := by
  rw [gate_step hs e]
  refine (run_invariant_along (I := fun g => DrainGate.Safe g ∧ g.cap ≤ boot)
    (P := fun _ d => ∀ t, d = .retarget t → t ≤ boot) ?_ (along_of_mem ?_) ⟨hs, hcap⟩).2
  · intro g d hg hd
    exact ⟨DrainGate.safe_step hg.1 d, DrainGate.cap_step_le hg.1 hg.2 hd⟩
  · rintro d hd t rfl
    cases e with
    | setKnobs knobs =>
      rw [gateEvents, Option.mem_toList, Option.map_eq_some_iff] at hd
      obtain ⟨t', ht', heq⟩ := hd
      cases heq
      exact accepted_le hr ht'
    | _ => simp [gateEvents] at hd

theorem target_step (c : Core) (hs : c.gate.Safe) (e : Event) :
    (step c e).gate.target = (accepted c e).getD c.gate.target := by
  rw [gate_step hs e]
  cases e with
  | setKnobs knobs =>
    rw [gateEvents]
    cases ht : accepted c (.setKnobs knobs) with
    | none => rfl
    | some t =>
      have hidle : c.gate.isOpen = false := by
        unfold accepted at ht
        split_ifs at ht with hs
        simpa [Core.gate] using hs
      change (c.gate.retarget t).target = t
      rw [DrainGate.retarget, hidle]
      rfl
  | beginSchedule => exact DrainGate.target_step (e := .opens) fun t h => by cases h
  | enter => exact DrainGate.target_step (e := .enter) fun t h => by cases h
  | finish => rfl
  | endSchedule => rfl

/-! ## Cap safety -/

structure CapSafe (boot : Sched) (c : Core) (target : Int) : Prop where
  running_le : (c.sched.running : Int) ≤ c.sched.maxNumRunningReqs
  cap_le : c.sched.maxNumRunningReqs ≤ boot.maxNumRunningReqs
  ceiling : ∀ ceilings, c.sched.ceilings = some ceilings →
    ceilings.maxNumSeqs = boot.maxNumRunningReqs
  readout : (trimtabGetKnobs c.sched).maxNumSeqs = target

/-- Whatever requests come and go, the occupancy stays under the cap, the cap under the
ceiling, and the readout names the last target. -/
theorem cap_safe (boot : Sched) (hb : Boot boot) (es : List Event) :
    CapSafe boot (run step (.boot boot) es) (lastAccepted boot es) := by
  have hinv := @run_invariant _ _ (withGhost step fun c t e => (accepted c e).getD t)
    (fun p => p.1.gate.Safe ∧ Recorded boot.maxNumRunningReqs p.1.sched ∧
      p.1.gate.cap ≤ boot.maxNumRunningReqs ∧ p.1.gate.target = p.2)
    (fun p e h => ⟨safe_step h.1 e, recorded_step h.2.1 e, cap_step h.1 h.2.1 h.2.2.1 e,
      by rw [withGhost, target_step p.1 h.1 e, h.2.2.2]⟩)
    (.boot boot, boot.maxNumRunningReqs) es
    ⟨safe_boot hb, recorded_boot hb, le_rfl, by simp [Core.boot, Core.gate, hb.not_pending]⟩
  rw [run_withGhost_fst] at hinv
  obtain ⟨hs, hr, hcap, ht⟩ := hinv
  refine ⟨hs.occupancy_le, hcap, fun ceilings hc => ?_, ht⟩
  have hceil := hr.ceiling
  rwa [ceilingsOf, hc] at hceil

theorem cap_safe_four : CapSafe ⟨3, 4, 2048, 0, none, none, none⟩
    (run step (.boot ⟨3, 4, 2048, 0, none, none, none⟩)
      [.setKnobs (Dict.ofList [("max_num_seqs", .int 2)]), .beginSchedule, .enter]) 2 :=
  cap_safe _ ⟨by decide, rfl, rfl⟩ _

/-! ## Draining -/

/-- The event gets no target for `max_num_seqs` accepted. -/
def Quiet (c : Core) (e : Event) : Prop := accepted c e = none

theorem gateEvents_quiet {c : Core} {e : Event} (h : Quiet c e) :
    ∀ d ∈ gateEvents c e, ∀ t, d ≠ .retarget t := by
  rintro d hd t rfl
  cases e with
  | setKnobs knobs =>
    rw [gateEvents, h] at hd
    cases hd
  | _ => simp [gateEvents] at hd

theorem trace_quiet {c : Core} {es : List Event} (h : Along step Quiet c es) :
    ∀ d ∈ trace step gateEvents c es, ∀ t, d ≠ .retarget t :=
  forall_mem_trace (P := fun d => ∀ t, d ≠ DrainGate.Event.retarget t)
    (along_mono (fun _ _ h => gateEvents_quiet h) h)

/-- How the engine goes on from `c`, in which target `t` has just been accepted, until the
next one is. An idle moment is one at which a step may begin. -/
structure Drains (t : Int) (c : Core) : Prop where
  never_rises : ∀ before after, Along step Quiet c (before ++ after) →
    (run step c before).scheduling = false →
    ((run step c (before ++ after)).sched.running : Int) ≤ max t (run step c before).sched.running
  then_holds : ∀ before after, Along step Quiet c (before ++ .beginSchedule :: after) →
    (run step c before).scheduling = false → ((run step c before).sched.running : Int) ≤ t →
    (run step c (before ++ .beginSchedule :: after)).sched.maxNumRunningReqs = t ∧
      ((run step c (before ++ .beginSchedule :: after)).sched.running : Int) ≤ t

theorem target_run_quiet {c : Core} (hs : c.gate.Safe) {es : List Event}
    (hq : Along step Quiet c es) : (run step c es).gate.target = c.gate.target := by
  rw [gate_run hs]
  exact DrainGate.target_run (trace_quiet hq)

theorem drains_of_target {c : Core} (hs : c.gate.Safe) : Drains c.gate.target c where
  never_rises before after hq hidle := by
    obtain ⟨hq, hq'⟩ := along_append.mp hq
    have hs' := safe_run hs before
    have hshut : (run step c before).gate.isOpen = false := hidle
    have hb := DrainGate.bounded_run (trace_quiet hq') (DrainGate.bounded_of_shut hshut)
    rw [← gate_run hs', target_run_quiet hs hq, ← run_append] at hb
    exact hb.occupancy_le
  then_holds before after hq hidle hle := by
    obtain ⟨hq, -, hq'⟩ := along_append.mp hq
    have hs' := safe_run hs before
    have ht := target_run_quiet hs hq
    have hopens : (step (run step c before) .beginSchedule).gate = (run step c before).gate.opens :=
      gate_step hs' .beginSchedule
    have hheld : DrainGate.Held c.gate.target (step (run step c before) .beginSchedule).gate := by
      rw [hopens, ← ht]
      exact DrainGate.held_of_opens hidle (ht ▸ hle)
    have hend := DrainGate.held_run (trace_quiet hq') hheld
    rw [← gate_run (safe_step hs' .beginSchedule), ← run_cons, ← run_append] at hend
    exact ⟨hend.cap_eq, hend.occupancy_le⟩

/-- After a lowering is accepted, occupancy counted between steps does not rise above the
target, and once a step begins at the target or below, the target is the cap. -/
theorem lowered_cap_drains (boot : Sched) (hb : Boot boot) (before : List Event) (knobs : Fields)
    (t : Int) (ht : accepted (run step (.boot boot) before) (.setKnobs knobs) = some t) :
    Drains t (run step (.boot boot) (before ++ [.setKnobs knobs])) := by
  have hs := safe_run (safe_boot hb) before
  have htarget := target_step _ hs (.setKnobs knobs)
  rw [ht, Option.getD_some] at htarget
  rw [run_concat, ← htarget]
  exact drains_of_target (safe_step hs _)

theorem lowered_cap_drains_two : Drains 2
    (run step (.boot ⟨3, 4, 2048, 0, none, none, none⟩)
      ([.beginSchedule, .enter, .endSchedule] ++
        [.setKnobs (Dict.ofList [("max_num_seqs", .int 2)])])) :=
  lowered_cap_drains _ ⟨by decide, rfl, rfl⟩ _ _ _ (by decide +kernel)

end Trimtab.VllmCap
