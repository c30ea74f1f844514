import Trimtab.ControlPlane
import Trimtab.SupervisorCalls
import Trimtab.Runs
import Trimtab.SupervisorRefusal

set_option autoImplicit false

/-!
# Starts and reinits under one target

A supervisor whose target stays the same starts the engine at most once and tries at most one
warm reinit, unless the call for the reinit raises and leaves the engine up.
-/
namespace Trimtab.SupervisorLoops
open Effects Runs SupervisorCalls SupervisorCalls.Keeper

variable {ω π : Type}

structure Calls where
  starts : Nat := 0
  reinits : Nat := 0
  /-- The last warm reinit raised, and no engine has been started since. -/
  unanswered : Bool := false

namespace Calls

def started (c : Calls) : Calls := { c with starts := c.starts + 1, unanswered := false }

def asked (c : Calls) : Calls := { c with reinits := c.reinits + 1 }

def ignored (c : Calls) : Calls := { c with reinits := c.reinits + 1, unanswered := true }

end Calls

def counted (W : Outside ω π) : Outside (ω × Calls) π where
  running w := W.running w.1
  popen cmd coldFields := do
    let p ← zoom (·.1) (fun world w => (world, w.2)) (W.popen cmd coldFields)
    modify fun w => (w.1, w.2.started)
    return p
  wait p w := ((W.wait p w.1).1, ((W.wait p w.1).2, w.2))
  terminate p w := (W.terminate p w.1, w.2)
  reinitWarm fields w := match (W.reinitWarm fields).run w.1 with
    | .ok answer world => .ok answer (world, w.2.asked)
    | .error e world => .error e (world, w.2.ignored)
  setHot changes := zoom (·.1) (fun world w => (world, w.2)) (W.setHot changes)
  exited_down p w returncode w' h := by
    obtain ⟨hexited, rfl⟩ := Prod.mk.inj h
    exact W.exited_down p w.1 returncode _ (Prod.ext hexited rfl)

inductive Event (ω : Type) where
  | plane (op : PlaneOp)
  | outside (change : ω → ω)
  | tick

variable (K : Keeper) (W : Outside ω π)

def step (t : Tended (ω × Calls) π) : Event ω → Tended (ω × Calls) π
  | .plane op => { t with store := op.apply t.store }
  | .outside change => { t with world := (change t.world.1, t.world.2) }
  | .tick => final (K.tick (counted W)) t

/-- A tick finds `d` as its target, and an engine that has been started stays up. -/
def Steady (d : ConfigVersion) (t : Tended (ω × Calls) π) (e : Event ω) : Prop :=
  (∀ _ : e = .tick, t.store.target K.replicaId K.group = some d) ∧
    (0 < (step K W t e).world.2.starts → alive (counted W) (step K W t e) = true)

/-- A tick does not find an engine up that a warm reinit has been asked of without an answer. -/
def Answered (t : Tended (ω × Calls) π) (e : Event ω) : Prop :=
  e = .tick → t.world.2.unanswered = true → alive (counted W) t = false

inductive Launched (t : Tended (ω × Calls) π) (coldFields : Fields) :
    Option Rat → Tended (ω × Calls) π → Prop where
  | up (seconds : Rat) (u : Tended (ω × Calls) π) (calls : u.world.2 = t.world.2.started)
      (cold : u.coldApplied = some coldFields) : Launched t coldFields (some seconds) u
  | dead (u : Tended (ω × Calls) π) (calls : u.world.2 = t.world.2.started)
      (down : alive (counted W) u = false) : Launched t coldFields none u
  | unstarted (world : ω) : Launched t coldFields none { t with world := (world, t.world.2) }

theorem alive_of_proc_none {V : Outside ω π} {t : Tended ω π} (h : t.proc = none) :
    alive V t = false := by
  rw [alive, h]
  rfl

/-- The engine is stopped, whether or not it was up. -/
theorem stop_run (t : Tended (ω × Calls) π) : ∃ world,
    (stop (counted W)).run t = .ok () { t with proc := none, world := (world, t.world.2) } := by
  obtain ⟨store, ⟨world, calls⟩, proc, coldApplied, applied, seconds, kind⟩ := t
  cases proc with
  | none => exact ⟨world, rfl⟩
  | some p =>
    refine ⟨if W.running world p then W.terminate p world else world, ?_⟩
    refine congrArg (EStateM.Result.ok ()) (congrArg (fun w => Tended.mk store w none _ _ _ _) ?_)
    exact (apply_ite (·, calls) _ _ _).symm

/-- The launch of a process that has been started. -/
theorem conclude_launched {t : Tended (ω × Calls) π} (p : π) (world : ω) (cmd : List String)
    (coldFields : Fields) {u : Tended (ω × Calls) π}
    (hu : u = { t with world := ((W.wait p world).2, t.world.2.started), proc := some p }) :
    Launched W t coldFields (value? (conclude (counted W) cmd coldFields (W.wait p world).1) u)
      (final (conclude (counted W) cmd coldFields (W.wait p world).1) u) := by
  subst hu
  cases hw : (W.wait p world).1 with
  | healthy seconds => exact .up seconds _ rfl rfl
  | exited returncode => exact .dead _ rfl (W.exited_down p world returncode _ (Prod.ext hw rfl))
  | late =>
    obtain ⟨world', hstop⟩ := stop_run W
      { t with world := ((W.wait p world).2, t.world.2.started), proc := some p }
    rw [value?, final, conclude, EStateM.run_bind, hstop]
    exact .dead _ rfl (alive_of_proc_none rfl)

theorem launch_launched (t : Tended (ω × Calls) π) (coldFields : Fields) :
    Launched W t coldFields (value? (K.launch (counted W) coldFields) t)
      (final (K.launch (counted W) coldFields) t) := by
  have hrun : (K.launch (counted W) coldFields).run t =
      match K.command.buildCommand coldFields with
      | .error e => .error e t
      | .ok cmd => match (W.popen cmd coldFields).run t.world.1 with
        | .error e world => .error e { t with world := (world, t.world.2) }
        | .ok p world => (conclude (counted W) cmd coldFields (W.wait p world).1).run
            { t with world := ((W.wait p world).2, t.world.2.started), proc := some p } := by
    rw [launch, EStateM.run_bind, ofExcept_run]
    cases K.command.buildCommand coldFields with
    | error e => rfl
    | ok cmd =>
      simp only [EStateM.run_bind, outside, counted, zoom_run]
      cases (W.popen cmd coldFields).run t.world.1 <;> rfl
  rw [value?, final, hrun]
  cases K.command.buildCommand coldFields with
  | error e => exact .unstarted t.world.1
  | ok cmd =>
    dsimp only
    cases (W.popen cmd coldFields).run t.world.1 with
    | error e world => exact .unstarted world
    | ok p world => exact conclude_launched W p world cmd coldFields rfl

/-- How a relaunch turns out: it stops the engine before it starts another. -/
inductive Relaunched (t : Tended (ω × Calls) π) (coldFields : Fields) :
    Option Unit → Tended (ω × Calls) π → Prop where
  | up (u : Tended (ω × Calls) π) (calls : u.world.2 = t.world.2.started)
      (cold : u.coldApplied = some coldFields) : Relaunched t coldFields (some ()) u
  | dead (u : Tended (ω × Calls) π) (calls : u.world.2 = t.world.2.started)
      (down : alive (counted W) u = false) : Relaunched t coldFields none u
  | unstarted (u : Tended (ω × Calls) π) (calls : u.world.2 = t.world.2) (gone : u.proc = none)
      (cold : u.coldApplied = t.coldApplied) (applied : u.appliedVersionId = t.appliedVersionId) :
      Relaunched t coldFields none u

theorem relaunch_relaunched (t : Tended (ω × Calls) π) (coldFields : Fields) :
    Relaunched W t coldFields (value? (K.relaunch (counted W) coldFields) t)
      (final (K.relaunch (counted W) coldFields) t) := by
  obtain ⟨told, htold⟩ : ∃ store, (K.report "reinit" ("relaunch for " ++
      Supervisor.sortedKeys coldFields)).run t = .ok () { t with store := store } := ⟨_, rfl⟩
  obtain ⟨world, hstop⟩ := stop_run W { t with store := told }
  have hlaunch := launch_launched K W
    { t with store := told, proc := none, world := (world, t.world.2) } coldFields
  unfold value? final at hlaunch ⊢
  simp only [relaunch, EStateM.run_bind, htold, hstop]
  cases hr : (K.launch (counted W) coldFields).run
    { t with store := told, proc := none, world := (world, t.world.2) } with
  | ok seconds u =>
    rw [hr] at hlaunch
    cases hlaunch with
    | up seconds u calls cold => exact .up _ calls cold
  | error e u =>
    rw [hr] at hlaunch
    cases hlaunch with
    | dead u calls down => exact .dead _ calls down
    | unstarted world' => exact .unstarted _ rfl rfl rfl rfl

inductive Warmed (t : Tended (ω × Calls) π) (coldFields : Fields) :
    Option Unit → Tended (ω × Calls) π → Prop where
  | accepted (u : Tended (ω × Calls) π) (calls : u.world.2 = t.world.2.asked)
      (cold : u.coldApplied = some coldFields) : Warmed t coldFields (some ()) u
  | refused (u : Tended (ω × Calls) π) (calls : u.world.2 = t.world.2.asked)
      (cold : u.coldApplied = t.coldApplied) : Warmed t coldFields (some ()) u
  | unanswered (u : Tended (ω × Calls) π) (calls : u.world.2 = t.world.2.ignored)
      (cold : u.coldApplied = t.coldApplied) (applied : u.appliedVersionId = t.appliedVersionId) :
      Warmed t coldFields none u

theorem reinitWarm_run (t : Tended (ω × Calls) π) (fields : Fields) :
    (outside ((counted W).reinitWarm fields)).run t =
      match (W.reinitWarm fields).run t.world.1 with
      | .ok answer world => .ok answer { t with world := (world, t.world.2.asked) }
      | .error e world => .error e { t with world := (world, t.world.2.ignored) } := by
  rw [outside, zoom_run]
  dsimp only [counted, EStateM.run]
  cases W.reinitWarm fields t.world.1 <;> rfl

theorem tryWarm_warmed (t : Tended (ω × Calls) π) (coldFields : Fields) :
    Warmed t coldFields (value? (K.tryWarm (counted W) coldFields) t)
      (final (K.tryWarm (counted W) coldFields) t) := by
  obtain ⟨told, htold⟩ : ∃ store, (K.report "reinit" ("warm reinit " ++
      Supervisor.sortedKeys (changedFrom (cold t) coldFields))).run t =
        .ok () { t with store := store } := ⟨_, rfl⟩
  unfold value? final
  simp only [tryWarm, EStateM.run_bind, EStateM.run_get, htold, reinitWarm_run]
  cases (W.reinitWarm _).run t.world.1 with
  | error e world => exact .unanswered _ rfl rfl rfl
  | ok answer world =>
    obtain ⟨⟨ok, applied, rejected⟩, seconds⟩ := answer
    cases ok with
    | true => exact .accepted _ rfl rfl
    | false => exact .refused _ rfl rfl

/-- Whether a tick has tried a warm reinit before it relaunches from `t`. -/
inductive Tried (t : Tended (ω × Calls) π) (coldFields : Fields) : Calls → Prop where
  | yes (up : alive (counted W) t = true) (able : K.warmable (cold t) coldFields = true) :
      Tried t coldFields t.world.2.asked
  | no (unable : (alive (counted W) t && K.warmable (cold t) coldFields) = false) :
      Tried t coldFields t.world.2

inductive Reshaped (t : Tended (ω × Calls) π) (coldFields : Fields) :
    Option Unit → Tended (ω × Calls) π → Prop where
  | same (settled : needsReshape (counted W) t coldFields = false) :
      Reshaped t coldFields (some ()) t
  | warmed (u : Tended (ω × Calls) π) (needs : needsReshape (counted W) t coldFields = true)
      (up : alive (counted W) t = true) (calls : u.world.2 = t.world.2.asked)
      (cold : u.coldApplied = some coldFields) : Reshaped t coldFields (some ()) u
  | unanswered (u : Tended (ω × Calls) π) (needs : needsReshape (counted W) t coldFields = true)
      (up : alive (counted W) t = true) (able : K.warmable (cold t) coldFields = true)
      (calls : u.world.2 = t.world.2.ignored) (kept : u.coldApplied = t.coldApplied)
      (applied : u.appliedVersionId = t.appliedVersionId) : Reshaped t coldFields none u
  | relaunched (u : Tended (ω × Calls) π) (needs : needsReshape (counted W) t coldFields = true)
      (c : Calls) (tried : Tried K W t coldFields c) (calls : u.world.2 = c.started)
      (cold : u.coldApplied = some coldFields) : Reshaped t coldFields (some ()) u
  | dead (u : Tended (ω × Calls) π) (needs : needsReshape (counted W) t coldFields = true)
      (c : Calls) (tried : Tried K W t coldFields c) (calls : u.world.2 = c.started)
      (down : alive (counted W) u = false) : Reshaped t coldFields none u
  | unstarted (u : Tended (ω × Calls) π) (needs : needsReshape (counted W) t coldFields = true)
      (unable : (alive (counted W) t && K.warmable (Keeper.cold t) coldFields) = false)
      (calls : u.world.2 = t.world.2) (gone : u.proc = none)
      (kept : u.coldApplied = t.coldApplied) (applied : u.appliedVersionId = t.appliedVersionId) :
      Reshaped t coldFields none u
  | lost (u : Tended (ω × Calls) π) (needs : needsReshape (counted W) t coldFields = true)
      (up : alive (counted W) t = true) (calls : u.world.2 = t.world.2.asked)
      (gone : u.proc = none) : Reshaped t coldFields none u

variable {K W}

theorem reshaped_of_relaunched {t u : Tended (ω × Calls) π} {coldFields : Fields}
    {result : Option Unit} (hneeds : needsReshape (counted W) t coldFields = true)
    (hunable : (alive (counted W) t && K.warmable (cold t) coldFields) = false)
    (h : Relaunched W t coldFields result u) : Reshaped K W t coldFields result u := by
  cases h with
  | up u calls cold => exact .relaunched u hneeds _ (.no hunable) calls cold
  | dead u calls down => exact .dead u hneeds _ (.no hunable) calls down
  | unstarted u calls gone cold applied => exact .unstarted u hneeds hunable calls gone cold applied

/-- A relaunch from the state `v` that a warm reinit has left. -/
theorem reshaped_of_tried {t u v : Tended (ω × Calls) π} {coldFields : Fields}
    {result : Option Unit} (hneeds : needsReshape (counted W) t coldFields = true)
    (hup : alive (counted W) t = true) (hable : K.warmable (cold t) coldFields = true)
    (hv : v.world.2 = t.world.2.asked) (h : Relaunched W v coldFields result u) :
    Reshaped K W t coldFields result u := by
  cases h with
  | up u calls cold =>
    rw [hv] at calls
    exact .relaunched u hneeds _ (.yes hup hable) calls cold
  | dead u calls down =>
    rw [hv] at calls
    exact .dead u hneeds _ (.yes hup hable) calls down
  | unstarted u calls gone cold applied => exact .lost u hneeds hup (calls.trans hv) gone

variable (K W)

theorem reshape_reshaped (t : Tended (ω × Calls) π) (coldFields : Fields) :
    Reshaped K W t coldFields (value? (K.reshape (counted W) coldFields) t)
      (final (K.reshape (counted W) coldFields) t) := by
  cases hneeds : needsReshape (counted W) t coldFields with
  | false =>
    have hrun : (K.reshape (counted W) coldFields).run t = .ok () t := by
      simp only [reshape, EStateM.run_bind, EStateM.run_get, hneeds, Bool.false_eq_true, if_false,
        EStateM.run_pure]
    rw [value?, hrun, final_of_ok hrun]
    exact .same hneeds
  | true =>
    cases hwarm : alive (counted W) t && K.warmable (cold t) coldFields with
    | false =>
      have hrun : (K.reshape (counted W) coldFields).run t =
          (K.relaunch (counted W) coldFields).run t := by
        simp only [reshape, EStateM.run_bind, EStateM.run_get, hneeds, hwarm, Bool.false_eq_true,
          if_false, if_true]
      rw [value?, final, hrun]
      exact reshaped_of_relaunched hneeds hwarm (relaunch_relaunched K W t coldFields)
    | true =>
      obtain ⟨hup, hable⟩ := Bool.and_eq_true_iff.mp hwarm
      have hwarmed := tryWarm_warmed K W t coldFields
      unfold value? final at hwarmed ⊢
      cases hr : (K.tryWarm (counted W) coldFields).run t with
      | error e v =>
        have hrun : (K.reshape (counted W) coldFields).run t = .error e v := by
          simp only [reshape, EStateM.run_bind, EStateM.run_get, hneeds, hwarm, if_true, hr]
        rw [hrun]
        rw [hr] at hwarmed
        cases hwarmed with
        | unanswered v calls kept applied => exact .unanswered _ hneeds hup hable calls kept applied
      | ok _ v =>
        have hrun : (K.reshape (counted W) coldFields).run t =
            (if needsReshape (counted W) v coldFields then K.relaunch (counted W) coldFields
              else pure ()).run v := by
          simp only [reshape, EStateM.run_bind, EStateM.run_get, hneeds, hwarm, if_true, hr]
        rw [hrun]
        rw [hr] at hwarmed
        dsimp only at hwarmed ⊢
        cases hstill : needsReshape (counted W) v coldFields with
        | true =>
          rw [if_pos rfl]
          have hasked : v.world.2 = t.world.2.asked := by
            cases hwarmed with
            | accepted v calls cold => exact calls
            | refused v calls cold => exact calls
          exact reshaped_of_tried hneeds hup hable hasked (relaunch_relaunched K W v coldFields)
        | false =>
          rw [if_neg (by decide)]
          cases hwarmed with
          | accepted v calls cold => exact .warmed _ hneeds hup calls cold
          | refused v calls same =>
            -- the fields that asked for the reinit still do
            rw [needsReshape, hup, Bool.not_true, Bool.false_or, cold] at hneeds
            rw [needsReshape, cold, same, hneeds, Bool.or_true] at hstill
            cases hstill

/-- The hot part calls for no start and no reinit. -/
structure Kept (t u : Tended (ω × Calls) π) : Prop where
  calls : u.world.2 = t.world.2
  proc : u.proc = t.proc
  cold : u.coldApplied = t.coldApplied

theorem kept_trans ⦃s t u : Tended (ω × Calls) π⦄ (h : Kept s t) (h' : Kept t u) : Kept s u :=
  ⟨h'.calls.trans h.calls, h'.proc.trans h.proc, h'.cold.trans h.cold⟩

theorem setHot_kept (changes : Fields) :
    Respects Kept (outside ((counted W).setHot changes) : TendM _ π _) := by
  intro t
  rw [final, outside, zoom_run, counted, zoom_run]
  cases (W.setHot changes).run t.world.1 <;> exact ⟨rfl, rfl, rfl⟩

theorem finish_kept (d : ConfigVersion) :
    Respects Kept (K.finish d : TendM (ω × Calls) π String) := fun _ => ⟨rfl, rfl, rfl⟩

theorem fail_kept (detail : String) :
    Respects Kept (K.fail detail : TendM (ω × Calls) π String) := fun _ => ⟨rfl, rfl, rfl⟩

theorem applyHot_kept (d : ConfigVersion) (hot : Fields) :
    Respects Kept (K.applyHot (counted W) d hot) := by
  unfold applyHot
  split_ifs
  · exact finish_kept K d
  · dsimp only
    split_ifs
    · exact fail_kept K _
    · refine respects_bind kept_trans (setHot_kept W _) fun result => ?_
      split_ifs
      · exact fail_kept K _
      · exact finish_kept K d

inductive Ticked (t : Tended (ω × Calls) π) (d : ConfigVersion) :
    Tended (ω × Calls) π → Prop where
  | exits (u : Tended (ω × Calls) π) (exit : Exits (counted W) t d) (kept : Kept t u) :
      Ticked t d u
  | raised (new : ¬Exits (counted W) t d) (u : Tended (ω × Calls) π)
      (reshaped : Reshaped K W t (K.split d.fields).2 none u) : Ticked t d u
  | converged (new : ¬Exits (counted W) t d) (u : Tended (ω × Calls) π)
      (reshaped : Reshaped K W t (K.split d.fields).2 (some ()) u) (v : Tended (ω × Calls) π)
      (kept : Kept u v) : Ticked t d v

theorem tick_ticked {t : Tended (ω × Calls) π} {d : ConfigVersion}
    (htarget : t.store.target K.replicaId K.group = some d) :
    Ticked K W t d (final (K.tick (counted W)) t) := by
  have hread : (onStore (Store.desiredFor K.replicaId K.group) : TendM (ω × Calls) π _).run t =
      .ok (some d) t := by
    rw [onStore, zoom_run, Store.target_eq_some.mp htarget]
  by_cases hexit : Exits (counted W) t d
  · refine .exits _ hexit ?_
    have hrun : (K.tick (counted W)).run t = (do
        K.record (some d.id) HEALTHY ""
        return HEALTHY : TendM (ω × Calls) π String).run t := by
      simp only [tick, EStateM.run_bind, hread, EStateM.run_get, if_pos hexit]
    rw [final, hrun]
    exact ⟨rfl, rfl, rfl⟩
  · have hreshaped := reshape_reshaped K W t (K.split d.fields).2
    unfold value? final at hreshaped
    rw [final]
    cases hr : (K.reshape (counted W) (K.split d.fields).2).run t with
    | error e u =>
      have hrun : (K.tick (counted W)).run t = .error e u := by
        simp only [tick, converge, EStateM.run_bind, hread, EStateM.run_get, if_neg hexit, hr]
      rw [hrun]
      rw [hr] at hreshaped
      exact .raised hexit u hreshaped
    | ok _ u =>
      have hrun : (K.tick (counted W)).run t =
          (K.applyHot (counted W) d (K.split d.fields).1).run u := by
        simp only [tick, converge, EStateM.run_bind, hread, EStateM.run_get, if_neg hexit, hr]
      rw [hrun]
      rw [hr] at hreshaped
      exact .converged hexit u hreshaped _ (applyHot_kept K W d _ u)

/-! ## One target -/

def Settled (d : ConfigVersion) (t : Tended (ω × Calls) π) : Prop :=
  (K.split d.fields).2.eqv Json.same (cold t) = true

/-- Where a supervisor stands whose target has been `d` since it began to count. -/
structure Bounded (d : ConfigVersion) (t : Tended (ω × Calls) π) : Prop where
  starts : t.world.2.starts ≤ 1
  reinits : t.world.2.reinits ≤ 1
  started : 0 < t.world.2.starts → alive (counted W) t = true ∧ Settled K d t
  spent : 0 < t.world.2.reinits →
    0 < t.world.2.starts ∨ Settled K d t ∨ t.world.2.unanswered = true ∨ t.proc = none
  owed : t.world.2.unanswered = true → 0 < t.world.2.reinits ∧ t.world.2.starts = 0 ∧
    ¬Settled K d t ∧ K.warmable (cold t) (K.split d.fields).2 = true ∧
      some d.id ≠ t.appliedVersionId

variable {K W} {d : ConfigVersion}

theorem settled_of_cold {t : Tended (ω × Calls) π} (h : t.coldApplied = some (K.split d.fields).2) :
    Settled K d t := by
  rw [Settled, cold, h]
  exact Supervisor.same_refl _

theorem settled_congr {t u : Tended (ω × Calls) π} (h : u.coldApplied = t.coldApplied) :
    Settled K d u ↔ Settled K d t := by
  rw [Settled, Settled, cold, cold, h]

theorem needs_iff {t : Tended (ω × Calls) π} :
    needsReshape (counted W) t (K.split d.fields).2 = true ↔
      alive (counted W) t = false ∨ ¬Settled K d t := by
  rw [needsReshape, Settled, Bool.or_eq_true, Bool.not_eq_true', Bool.not_eq_true',
    Bool.not_eq_true]

/-- A step that calls nothing. -/
theorem bounded_of_same {t u : Tended (ω × Calls) π} (h : Bounded K W d t)
    (hcalls : u.world.2 = t.world.2) (hproc : t.proc = none → u.proc = none)
    (hcold : u.coldApplied = t.coldApplied)
    (happlied : t.world.2.unanswered = true → u.appliedVersionId = t.appliedVersionId)
    (hup : 0 < u.world.2.starts → alive (counted W) u = true) : Bounded K W d u where
  starts := hcalls ▸ h.starts
  reinits := hcalls ▸ h.reinits
  started hs := ⟨hup hs, (settled_congr hcold).mpr (h.started (hcalls ▸ hs)).2⟩
  spent hr := by
    rw [hcalls, settled_congr hcold]
    rcases h.spent (hcalls ▸ hr) with hs | hs | hs | hs
    · exact .inl hs
    · exact .inr (.inl hs)
    · exact .inr (.inr (.inl hs))
    · exact .inr (.inr (.inr (hproc hs)))
  owed hu := by
    rw [hcalls] at hu ⊢
    rw [settled_congr hcold, cold, hcold, happlied hu]
    exact h.owed hu

/-- An engine that is up with other cold fields has been up since the target was set. -/
theorem fresh_of_stale {t : Tended (ω × Calls) π} (h : Bounded K W d t)
    (hanswered : t.world.2.unanswered = true → alive (counted W) t = false)
    (hup : alive (counted W) t = true) (hstale : ¬Settled K d t) :
    t.world.2 = { starts := 0, reinits := 0, unanswered := false } := by
  have hunanswered : t.world.2.unanswered = false := by
    cases hu : t.world.2.unanswered with
    | false => rfl
    | true => rw [hanswered hu] at hup; cases hup
  have hstarts : t.world.2.starts = 0 :=
    Nat.eq_zero_of_not_pos fun hs => hstale (h.started hs).2
  have hreinits : t.world.2.reinits = 0 := by
    refine Nat.eq_zero_of_not_pos fun hr => ?_
    rcases h.spent hr with hs | hs | hs | hs
    · rw [hstarts] at hs; cases hs
    · exact hstale hs
    · rw [hunanswered] at hs; cases hs
    · rw [alive_of_proc_none hs] at hup; cases hup
  calc t.world.2 = ⟨t.world.2.starts, t.world.2.reinits, t.world.2.unanswered⟩ := rfl
    _ = ⟨0, 0, false⟩ := by rw [hstarts, hreinits, hunanswered]

theorem bounded_of_warmed {t u : Tended (ω × Calls) π}
    (hfresh : t.world.2 = { starts := 0, reinits := 0, unanswered := false })
    (hcalls : u.world.2 = t.world.2.asked) (hdone : Settled K d u ∨ u.proc = none) :
    Bounded K W d u := by
  rw [hfresh] at hcalls
  have hstarts : ¬0 < u.world.2.starts := by rw [hcalls]; decide
  have hunanswered : u.world.2.unanswered ≠ true := by rw [hcalls]; decide
  refine ⟨by rw [hcalls]; decide, by rw [hcalls]; decide, fun hs => absurd hs hstarts,
    fun _ => ?_, fun hu => absurd hu hunanswered⟩
  exact .inr (hdone.imp_right .inr)

theorem bounded_of_started {t u : Tended (ω × Calls) π} {c : Calls} (h : Bounded K W d t)
    (hanswered : t.world.2.unanswered = true → alive (counted W) t = false)
    (hneeds : needsReshape (counted W) t (K.split d.fields).2 = true)
    (htried : Tried K W t (K.split d.fields).2 c) (hcalls : u.world.2 = c.started)
    (hup : alive (counted W) u = true) (hsettled : Settled K d u) : Bounded K W d u := by
  have hstarts : t.world.2.starts = 0 := by
    refine Nat.eq_zero_of_not_pos fun hs => ?_
    obtain ⟨hup, hsettled⟩ := h.started hs
    rcases needs_iff.mp hneeds with hdown | hstale
    · rw [hdown] at hup; cases hup
    · exact hstale hsettled
  have hc : c.starts = 0 ∧ c.reinits ≤ 1 := by
    cases htried with
    | no unable => exact ⟨hstarts, h.reinits⟩
    | yes up able =>
      have hstale : ¬Settled K d t := (needs_iff.mp hneeds).resolve_left (by rw [up]; decide)
      rw [fresh_of_stale h hanswered up hstale]
      decide
  have hu : u.world.2.starts = 1 := by rw [hcalls, Calls.started, hc.1]
  refine ⟨hu.le, by rw [hcalls]; exact hc.2, fun _ => ⟨hup, hsettled⟩,
    fun _ => .inl (by rw [hu]; decide), fun hun => ?_⟩
  rw [hcalls] at hun
  cases hun

theorem bounded_of_ticked {t u : Tended (ω × Calls) π} (h : Bounded K W d t)
    (hanswered : t.world.2.unanswered = true → alive (counted W) t = false)
    (hu : 0 < u.world.2.starts → alive (counted W) u = true) (ht : Ticked K W t d u) :
    Bounded K W d u := by
  cases ht with
  | exits u exit kept =>
    refine bounded_of_same h kept.calls (fun hp => kept.proc.trans hp) kept.cold (fun hun => ?_) hu
    have hdown := hanswered hun
    rw [exit.2] at hdown
    cases hdown
  | raised new u reshaped =>
    cases reshaped with
    | unanswered u needs up able calls kept applied =>
      have hstale : ¬Settled K d t := (needs_iff.mp needs).resolve_left (by rw [up]; decide)
      have hfresh := fresh_of_stale h hanswered up hstale
      rw [hfresh] at calls
      have hstarts : ¬0 < u.world.2.starts := by rw [calls]; decide
      refine ⟨by rw [calls]; decide, by rw [calls]; decide, fun hs => absurd hs hstarts,
        fun _ => .inr (.inr (.inl (by rw [calls]; rfl))), fun _ => ?_⟩
      refine ⟨by rw [calls]; decide, by rw [calls]; rfl, ?_, ?_, ?_⟩
      · rwa [settled_congr kept]
      · rwa [cold, kept]
      · rw [applied]
        exact fun he => new ⟨he, up⟩
    | dead u needs c tried calls down =>
      have hstarts : 0 < u.world.2.starts := by rw [calls]; exact Nat.succ_pos _
      rw [hu hstarts] at down
      cases down
    | unstarted u needs unable calls gone kept applied =>
      exact bounded_of_same h calls (fun _ => gone) kept (fun _ => applied) hu
    | lost u needs up calls gone =>
      have hstale : ¬Settled K d t := (needs_iff.mp needs).resolve_left (by rw [up]; decide)
      exact bounded_of_warmed (fresh_of_stale h hanswered up hstale) calls (.inr gone)
  | converged new v reshaped u kept =>
    cases reshaped with
    | same settled =>
      refine bounded_of_same h kept.calls (fun hp => kept.proc.trans hp) kept.cold
        (fun hun => ?_) hu
      have hneeds := (needs_iff (W := W)).mpr (Or.inr (h.owed hun).2.2.1)
      rw [settled] at hneeds
      cases hneeds
    | warmed v needs up calls cold =>
      have hstale : ¬Settled K d t := (needs_iff.mp needs).resolve_left (by rw [up]; decide)
      exact bounded_of_warmed (fresh_of_stale h hanswered up hstale) (kept.calls.trans calls)
        (.inl (settled_of_cold (kept.cold.trans cold)))
    | relaunched v needs c tried calls cold =>
      have hstarts : 0 < u.world.2.starts := by
        rw [kept.calls, calls]
        exact Nat.succ_pos _
      exact bounded_of_started h hanswered needs tried (kept.calls.trans calls) (hu hstarts)
        (settled_of_cold (kept.cold.trans cold))

theorem bounded_step {t : Tended (ω × Calls) π} {e : Event ω} (h : Bounded K W d t)
    (hsteady : Steady K W d t e) (hanswered : Answered W t e) : Bounded K W d (step K W t e) := by
  cases e with
  | plane op => exact bounded_of_same h rfl id rfl (fun _ => rfl) hsteady.2
  | outside change => exact bounded_of_same h rfl id rfl (fun _ => rfl) hsteady.2
  | tick =>
    exact bounded_of_ticked h (hanswered rfl) hsteady.2 (tick_ticked K W (hsteady.1 rfl))

/-- A tick that finds an engine up after an unanswered reinit asks for another one. -/
theorem reinits_of_unanswered {t u : Tended (ω × Calls) π} (h : Bounded K W d t)
    (hunanswered : t.world.2.unanswered = true) (hup : alive (counted W) t = true)
    (ht : Ticked K W t d u) : 1 < u.world.2.reinits := by
  obtain ⟨hreinits, -, hstale, hable, hnew⟩ := h.owed hunanswered
  have hneeds := (needs_iff (W := W)).mpr (Or.inr hstale)
  have htried : (alive (counted W) t && K.warmable (cold t) (K.split d.fields).2) = true := by
    rw [hup, hable]
    rfl
  have htwo : ∀ c, Tried K W t (K.split d.fields).2 c → 1 < c.reinits := fun c hc => by
    cases hc with
    | yes up able => exact Nat.succ_lt_succ hreinits
    | no unable => rw [htried] at unable; cases unable
  cases ht with
  | exits u exit kept => exact absurd exit.1 hnew
  | raised new u reshaped =>
    cases reshaped with
    | unanswered u needs up able calls kept applied =>
      rw [calls]
      exact Nat.succ_lt_succ hreinits
    | dead u needs c tried calls down =>
      rw [calls]
      exact htwo c tried
    | unstarted u needs unable calls gone kept applied => rw [htried] at unable; cases unable
    | lost u needs up calls gone =>
      rw [calls]
      exact Nat.succ_lt_succ hreinits
  | converged new v reshaped u kept =>
    rw [kept.calls]
    cases reshaped with
    | same settled => rw [hneeds] at settled; cases settled
    | warmed v needs up calls cold =>
      rw [calls]
      exact Nat.succ_lt_succ hreinits
    | relaunched v needs c tried calls cold =>
      rw [calls]
      exact htwo c tried

theorem answered_of_once {t : Tended (ω × Calls) π} {e : Event ω} (h : Bounded K W d t)
    (hsteady : Steady K W d t e) (honce : (step K W t e).world.2.reinits ≤ 1) : Answered W t e := by
  rintro rfl hunanswered
  cases hup : alive (counted W) t with
  | false => rfl
  | true =>
    have htwo := reinits_of_unanswered h hunanswered hup (tick_ticked K W (hsteady.1 rfl))
    exact absurd honce (Nat.not_le_of_lt htwo)

variable (K W)

/-- Under one target, and with every started engine staying up, there is at most one start and at
most one warm reinit, exactly when no tick finds an engine up that a reinit has been asked of
without an answer. -/
theorem no_restart_loops_iff (d : ConfigVersion) (t : Tended (ω × Calls) π) (es : List (Event ω))
    (hcalls : t.world.2 = {}) (hsteady : Along (step K W) (Steady K W d) t es) :
    (∀ before after, es = before ++ after →
      (run (step K W) t before).world.2.starts ≤ 1 ∧
        (run (step K W) t before).world.2.reinits ≤ 1) ↔
      Along (step K W) (Answered W) t es := by
  have hstart : Bounded K W d t := by
    have hstarts : ¬0 < t.world.2.starts := by rw [hcalls]; decide
    have hreinits : ¬0 < t.world.2.reinits := by rw [hcalls]; decide
    have hunanswered : t.world.2.unanswered ≠ true := by rw [hcalls]; decide
    exact ⟨by rw [hcalls]; decide, by rw [hcalls]; decide, fun h => absurd h hstarts,
      fun h => absurd h hreinits, fun h => absurd h hunanswered⟩
  exact always_iff_along_along (I := Bounded K W d)
    (P := fun t => t.world.2.starts ≤ 1 ∧ t.world.2.reinits ≤ 1)
    (fun _ h => ⟨h.starts, h.reinits⟩) (fun _ _ h hl hc => bounded_step h hl hc)
    (fun _ _ h hl hp => answered_of_once h hl hp.2) hsteady hstart

/-! ## `VLLMAdapter.reinit_warm` -/

/-- What a server answers to a request: a JSON body, or some other text. -/
inductive Response where
  | json (body : Json)
  | text (body : String)

/-- `_post` reads the body of an error as it reads any other. -/
def post (send : Fields → EStateM PyErr ω Response) (payload : Fields) : EStateM PyErr ω Json := do
  match ← send payload with
  | .json body => return body
  | .text _ => throw (.valueError "Expecting value: line 1 column 1 (char 0)")

def bodyGet (key : String) : Json → Except PyErr (Option Json)
  | .dict kvs => .ok (kvs.lookup key)
  | v => .error (.attributeError ("'" ++ v.typeName ++ "' object has no attribute 'get'"))

def saysBusy (error : Option Json) : Bool :=
  PyText.isIn "busy" (error.elim "" Json.pyStr)

/-- The requests, of which `retries` more than one are made while the engine is busy. -/
def drainAndRetry (send : Fields → EStateM PyErr ω Response) (fields : Fields) :
    Nat → EStateM PyErr ω Json
  | 0 => post send fields
  | retries + 1 => do
    let body ← post send fields
    let ok := ((← ofExcept (bodyGet "ok" body)).getD .null).truthy
    if ok || !saysBusy (← ofExcept (bodyGet "error" body)) then return body
    else drainAndRetry send fields retries

def reinitWarm (warm : List String) (send : Fields → EStateM PyErr ω Response) (seconds : Rat)
    (fields : Fields) : EStateM PyErr ω (ApplyResult × Rat) := do
  let bad := fields.filter fun k _ => !warm.contains k
  if !bad.entries.isEmpty then
    return (⟨false, ∅, bad.filterMap fun _ _ => some "not warm-reinitable"⟩, 0)
  let body ← drainAndRetry send fields 19
  let ok := ((← ofExcept (bodyGet "ok" body)).getD .null).truthy
  if ok then return (⟨true, .ofList [("last_reinit", body)], ∅⟩, seconds)
  let error := ((← ofExcept (bodyGet "error" body)).getD (.str "engine refused")).pyStr
  return (⟨false, ∅, fields.filterMap fun _ _ => some error⟩, seconds)

/-- A machine that starts engines, which answer every reinit with `response`. -/
def engines (response : Response) : Outside Bool Unit where
  running up _ := up
  popen _ _ := set true
  wait _ up := (.healthy 30, up)
  terminate _ _ := false
  reinitWarm := reinitWarm ["gpu_memory_utilization", "max_num_seqs", "max_num_batched_tokens"]
    (fun _ => return response) 5
  setHot changes := return ⟨true, changes, ∅⟩
  exited_down _ _ _ _ h := by cases h

def vllmKeeper : Keeper := keeper SupervisorRefusal.vllmSupervisor

def first (fields : List (String × Json)) : Tended (Bool × Calls) Unit where
  store := SupervisorRefusal.promoted fields
  world := (true, {})
  proc := some ()
  coldApplied := some ∅

def sglangKeeper : Keeper where
  manifest := sglangManifest
  warm := ["mem_fraction_static", "max_total_tokens", "kv_cache_dtype", "max_running_requests"]
  command := ⟨"sglang", "m", 30000, [], "sglang", "python3"⟩
  replicaId := "r0"
  group := "g"

def refusing : Outside Bool Unit where
  __ := engines (.text "")
  reinitWarm fields := return (⟨false, ∅, fields.filterMap fun _ _ =>
    some "engine refused, see server log"⟩, 5)

def typo : List (String × Json) :=
  [("max_running_requests", .str "eight"), ("mem_fraction_static", .float (.fin (3 / 5)))]

/-- The reinit is refused, the engine is relaunched, and the typo fails this tick and the next two,
which neither ask nor relaunch again. -/
theorem typo_relaunches_once :
    (∀ before after, [.tick, .tick, .tick] = before ++ after →
      (run (step sglangKeeper refusing) (first typo) before).world.2.starts ≤ 1 ∧
        (run (step sglangKeeper refusing) (first typo) before).world.2.reinits ≤ 1) ↔
      Along (step sglangKeeper refusing) (Answered refusing) (first typo) [.tick, .tick, .tick] :=
  no_restart_loops_iff sglangKeeper refusing (SupervisorRefusal.firstVersion typo) (first typo)
    [.tick, .tick, .tick] rfl
    ⟨⟨fun _ => by decide +kernel, by decide +kernel⟩,
      ⟨fun _ => by decide +kernel, by decide +kernel⟩,
      ⟨fun _ => by decide +kernel, by decide +kernel⟩, trivial⟩

example : (run (step sglangKeeper refusing) (first typo) [.tick, .tick, .tick]).world.2.starts = 1 ∧
    (run (step sglangKeeper refusing) (first typo) [.tick]).world.2.reinits = 1 := by
  decide +kernel

/-- An engine that answers the reinit with the text of an internal error is asked again on the
next tick. -/
theorem internal_error_asked_again :
    ¬∀ (K : Keeper) (W : Outside Bool Unit) (d : ConfigVersion) (t : Tended (Bool × Calls) Unit)
      (es : List (Event Bool)), t.world.2 = {} → Along (step K W) (Steady K W d) t es →
        (run (step K W) t es).world.2.starts ≤ 1 ∧ (run (step K W) t es).world.2.reinits ≤ 1 := by
  intro h
  have honce := h vllmKeeper (engines (.text "Internal Server Error"))
    (SupervisorRefusal.firstVersion [("gpu_memory_utilization", .float (.fin (4 / 5)))])
    (first [("gpu_memory_utilization", .float (.fin (4 / 5)))]) [.tick, .tick] rfl
    ⟨⟨fun _ => by decide +kernel, by decide +kernel⟩,
      ⟨fun _ => by decide +kernel, by decide +kernel⟩, trivial⟩
  exact absurd honce.2 (by decide +kernel)

end Trimtab.SupervisorLoops
