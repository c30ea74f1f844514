import Trimtab.SupervisorCalls
import Trimtab.VllmEngine

set_option autoImplicit false

/-!
# Cold fields without a launch flag

The launch command refuses such a field, but a relaunch has stopped the engine by then.
-/
namespace Trimtab.SupervisorRefusal
open Effects SupervisorCalls SupervisorCalls.Keeper

variable {ω π : Type}

/-- The cold configuration of each process. A hot request neither ends a process nor touches it,
whether it is answered or not. -/
structure Engines (W : Outside ω π) where
  config : ω → π → Fields
  hot_keeps : ∀ changes w p, W.running w p = true →
    W.running (final (W.setHot changes) w) p = true ∧
      config (final (W.setHot changes) w) p = config w p

variable (K : Keeper) (W : Outside ω π) (E : Engines W)

/-- The process of `t` still runs in `u`, with the configuration it had. -/
def Runs (t u : Tended ω π) : Prop :=
  ∃ p, t.proc = some p ∧ u.proc = some p ∧ W.running u.world p = true ∧
    E.config u.world p = E.config t.world p

/-- The tick returns, and the process that ran still does, with the configuration it had. -/
def Unharmed (t : Tended ω π) : Prop :=
  (value? (K.tick W) t).isSome = true ∧ Runs W E t (final (K.tick W) t)

def Unflagged (coldFields : Fields) : Prop :=
  ∃ k ∈ coldFields.keys, K.command.flag? k = none

/-- The warm reinit is not applicable, or is tried and refused. -/
def NotWarmed (t : Tended ω π) (coldFields : Fields) : Prop :=
  K.warmable (cold t) coldFields = true →
    ((value? (W.reinitWarm (Supervisor.engineNames (changedFrom (cold t) coldFields)))
      t.world).map fun answer => answer.1.ok) = some false

/-- The hot request of a tick, if the manifest lets it make one, is answered. -/
def Answered (t : Tended ω π) (hot : Fields) : Prop :=
  hot.entries ≠ [] → (K.manifest.validate hot).2.entries = [] →
    (value? (W.setHot (K.manifest.validate hot).1) t.world).isSome = true

/-! ## A tick with nothing to reshape -/

variable {K W E} {t : Tended ω π} {d : ConfigVersion}

theorem running_of_alive (halive : alive W t = true) :
    ∃ p, t.proc = some p ∧ W.running t.world p = true := by
  unfold alive at halive
  cases hp : t.proc with
  | none =>
    rw [hp] at halive
    cases halive
  | some p =>
    rw [hp] at halive
    exact ⟨p, rfl, halive⟩

theorem runs_of_alive {u : Tended ω π} (halive : alive W t = true) (hproc : u.proc = t.proc)
    (hworld : u.world = t.world) : Runs W E t u := by
  obtain ⟨p, hp, hrunning⟩ := running_of_alive halive
  exact ⟨p, hp, hproc.trans hp, by rw [hworld]; exact hrunning, by rw [hworld]⟩

theorem tick_exits (htarget : t.store.target K.replicaId K.group = some d)
    (hexit : Exits W t d) : ∃ store, (K.tick W).run t = .ok HEALTHY { t with store := store } := by
  have hread : (onStore (Store.desiredFor K.replicaId K.group) : TendM ω π _).run t =
      .ok (some d) t := by
    rw [onStore, zoom_run, Store.target_eq_some.mp htarget]
  refine ⟨t.store.recorded K.replicaId K.group (some d.id) HEALTHY "", ?_⟩
  simp only [tick, EStateM.run_bind, hread, EStateM.run_get, if_pos hexit]
  rfl

theorem tick_converges (htarget : t.store.target K.replicaId K.group = some d)
    (hnew : ¬Exits W t d) : (K.tick W).run t = (K.converge W d).run t := by
  have hread : (onStore (Store.desiredFor K.replicaId K.group) : TendM ω π _).run t =
      .ok (some d) t := by
    rw [onStore, zoom_run, Store.target_eq_some.mp htarget]
  simp only [tick, EStateM.run_bind, hread, EStateM.run_get, if_neg hnew]

theorem reshape_settled {coldFields : Fields} (h : needsReshape W t coldFields = false) :
    (K.reshape W coldFields).run t = .ok () t := by
  simp only [reshape, EStateM.run_bind, EStateM.run_get, h, Bool.false_eq_true, if_false,
    EStateM.run_pure]

theorem setHot_runs (halive : alive W t = true) (changes : Fields) :
    Runs W E t (final (outside (W.setHot changes) : TendM ω π _) t) := by
  obtain ⟨p, hp, hrunning⟩ := running_of_alive halive
  have hkeeps := E.hot_keeps changes t.world p hrunning
  unfold final at hkeeps ⊢
  rw [outside, zoom_run]
  cases hr : (W.setHot changes).run t.world with
  | ok result w =>
    rw [hr] at hkeeps
    exact ⟨p, hp, hp, hkeeps.1, hkeeps.2⟩
  | error e w =>
    rw [hr] at hkeeps
    exact ⟨p, hp, hp, hkeeps.1, hkeeps.2⟩

theorem runs_of_same {u v : Tended ω π} (h : Runs W E t u) (hproc : v.proc = u.proc)
    (hworld : v.world = u.world) : Runs W E t v := by
  obtain ⟨p, hp, hu, hrunning, hconfig⟩ := h
  exact ⟨p, hp, hproc.trans hu, by rwa [hworld], by rwa [hworld]⟩

/-- The hot part of a tick leaves the engine as it was, and raises exactly when its request does. -/
theorem applyHot_answered (halive : alive W t = true) (hot : Fields) :
    ((value? (K.applyHot W d hot) t).isSome = true ↔ Answered K W t hot) ∧
      Runs W E t (final (K.applyHot W d hot) t) := by
  unfold Keeper.applyHot Answered
  by_cases hnone : hot.entries = []
  · simp only [hnone, List.isEmpty_nil, if_true]
    exact ⟨⟨fun _ h => absurd rfl h, fun _ => rfl⟩, runs_of_alive halive rfl rfl⟩
  rw [if_neg (by simpa using hnone)]
  dsimp only
  by_cases hrejected : (K.manifest.validate hot).2.entries = []
  · have hruns := setHot_runs (E := E) halive (K.manifest.validate hot).1
    simp only [hrejected, List.isEmpty_nil, Bool.not_true, Bool.false_eq_true, if_false, hnone,
      ne_eq, not_false_eq_true, forall_const]
    unfold value? final at hruns ⊢
    simp only [EStateM.run_bind, outside, zoom_run] at hruns ⊢
    cases hr : (W.setHot (K.manifest.validate hot).1).run t.world with
    | error e w =>
      rw [hr] at hruns
      exact ⟨Iff.rfl, hruns⟩
    | ok result w =>
      rw [hr] at hruns
      cases hok : result.ok with
      | true =>
        simp only [hok, Bool.not_true, Bool.false_eq_true, if_false]
        exact ⟨⟨fun _ => rfl, fun _ => rfl⟩, runs_of_same hruns rfl rfl⟩
      | false =>
        simp only [hok, Bool.not_false, if_true]
        exact ⟨⟨fun _ => rfl, fun _ => rfl⟩, runs_of_same hruns rfl rfl⟩
  · rw [if_pos (by simpa using hrejected)]
    exact ⟨⟨fun _ _ h => absurd h hrejected, fun _ => rfl⟩, runs_of_alive halive rfl rfl⟩

/-! ## A tick with a refused field to reshape -/

theorem relaunch_raises {coldFields : Fields} (hflag : Unflagged K coldFields) (u : Tended ω π) :
    value? (K.relaunch W coldFields) u = none := by
  obtain ⟨k, hk, hnone⟩ := hflag
  obtain ⟨e, he⟩ := K.command.buildCommand_refuses hk hnone
  obtain ⟨told, htold⟩ : ∃ store, (K.report "reinit" ("relaunch for " ++
      Supervisor.sortedKeys coldFields)).run u = .ok () { u with store := store } := ⟨_, rfl⟩
  obtain ⟨stopped, hstop⟩ : ∃ v, (stop W : TendM ω π Unit).run { u with store := told } =
      .ok () v := ⟨_, rfl⟩
  unfold value?
  simp only [relaunch, EStateM.run_bind, htold, hstop, launch, ofExcept_run, he]

theorem tryWarm_refused {coldFields : Fields} (hable : K.warmable (cold t) coldFields = true)
    (hcool : NotWarmed K W t coldFields) :
    ∃ u, (K.tryWarm W coldFields).run t = .ok () u ∧ cold u = cold t := by
  have hanswer := hcool hable
  unfold value? at hanswer
  simp only [tryWarm, EStateM.run_bind, EStateM.run_get]
  obtain ⟨told, htold⟩ : ∃ store, (K.report "reinit" ("warm reinit " ++
      Supervisor.sortedKeys (changedFrom (cold t) coldFields))).run t =
        .ok () { t with store := store } := ⟨_, rfl⟩
  simp only [htold, outside, zoom_run]
  cases hr : (W.reinitWarm (Supervisor.engineNames (changedFrom (cold t) coldFields))).run
      t.world with
  | error e w =>
    rw [hr] at hanswer
    cases hanswer
  | ok answer w =>
    rw [hr] at hanswer
    obtain ⟨⟨ok, applied, rejected⟩, seconds⟩ := answer
    cases Option.some.inj hanswer
    exact ⟨_, rfl, rfl⟩

theorem reshape_raises {coldFields : Fields} (halive : alive W t = true)
    (hflag : Unflagged K coldFields) (hcool : NotWarmed K W t coldFields)
    (hneeds : needsReshape W t coldFields = true) :
    value? (K.reshape W coldFields) t = none := by
  have hstale : coldFields.eqv Json.same (cold t) = false := by
    simpa only [needsReshape, halive, Bool.not_true, Bool.false_or, Bool.not_eq_true'] using hneeds
  have hraises := relaunch_raises (W := W) hflag
  unfold value? at hraises ⊢
  simp only [reshape, EStateM.run_bind, EStateM.run_get, hneeds, if_true, halive, Bool.true_and]
  cases hable : K.warmable (cold t) coldFields with
  | false =>
    simp only [Bool.false_eq_true, if_false, EStateM.run_bind, EStateM.run_get, hneeds, if_true]
    exact hraises t
  | true =>
    obtain ⟨u, hu, hsame⟩ := tryWarm_refused hable hcool
    have hstill : needsReshape W u coldFields = true := by
      rw [needsReshape, hsame, hstale, Bool.not_false, Bool.or_true]
    simp only [if_true, EStateM.run_bind, hu, EStateM.run_get, hstill]
    exact hraises u

/-- A version with an unflagged cold field spares the engine exactly when it asks for no cold
change at all, and its hot request is answered if it makes one. -/
theorem unflagged_unharmed_iff (K : Keeper) {W : Outside ω π} (E : Engines W) (t : Tended ω π)
    (d : ConfigVersion) (halive : alive W t = true)
    (htarget : t.store.target K.replicaId K.group = some d)
    (hflag : Unflagged K (K.split d.fields).2) (hcool : NotWarmed K W t (K.split d.fields).2) :
    Unharmed K W E t ↔ some d.id = t.appliedVersionId ∨
      (K.split d.fields).2.eqv Json.same (cold t) = true ∧ Answered K W t (K.split d.fields).1 := by
  have hneeds : needsReshape W t (K.split d.fields).2 =
      !(K.split d.fields).2.eqv Json.same (cold t) := by
    rw [needsReshape, halive, Bool.not_true, Bool.false_or]
  by_cases hexit : Exits W t d
  · obtain ⟨store, hrun⟩ := tick_exits htarget hexit
    unfold Unharmed value?
    rw [hrun, final_of_ok hrun]
    exact ⟨fun _ => .inl hexit.1, fun _ => ⟨rfl, runs_of_alive halive rfl rfl⟩⟩
  have hnew : some d.id ≠ t.appliedVersionId := fun h => hexit ⟨h, halive⟩
  rw [or_iff_right hnew]
  unfold Unharmed value?
  rw [final, tick_converges htarget hexit]
  change _ ∧ Runs W E t (final (K.converge W d) t) ↔ _
  cases hsame : (K.split d.fields).2.eqv Json.same (cold t) with
  | true =>
    rw [hsame] at hneeds
    have hrun : (K.converge W d).run t = (K.applyHot W d (K.split d.fields).1).run t := by
      rw [converge, EStateM.run_bind, reshape_settled hneeds]
    have hhot := applyHot_answered (K := K) (E := E) (d := d) halive (K.split d.fields).1
    unfold value? final at hhot
    rw [final, hrun]
    exact ⟨fun h => ⟨rfl, hhot.1.mp h.1⟩, fun h => ⟨hhot.1.mpr h.2, hhot.2⟩⟩
  | false =>
    rw [hsame] at hneeds
    have hraises := reshape_raises halive hflag hcool hneeds
    unfold value? at hraises
    rw [converge, EStateM.run_bind]
    cases hr : (K.reshape W (K.split d.fields).2).run t with
    | ok _ u =>
      rw [hr] at hraises
      cases hraises
    | error e u => exact ⟨fun h => (by cases h.1), fun h => (by cases h.1)⟩

def vllmSupervisor : Supervisor VllmScheduler.Sched VllmEngine.Own where
  manifest := vllmManifest
  adapter := VllmEngine.vllm
  warm := ["gpu_memory_utilization", "max_num_seqs", "max_num_batched_tokens"]
  command := ⟨"vllm", "m", 8000, [], "vllm", "python3"⟩
  replicaId := "r0"
  group := "g"

instance (K : Keeper) (coldFields : Fields) : Decidable (Unflagged K coldFields) :=
  inferInstanceAs (Decidable (∃ k ∈ coldFields.keys, K.command.flag? k = none))

instance (K : Keeper) (W : Outside ω π) (t : Tended ω π) (coldFields : Fields) :
    Decidable (NotWarmed K W t coldFields) :=
  inferInstanceAs (Decidable (K.warmable (cold t) coldFields = true → _ = some false))

def promoted (fields : List (String × Json)) : Store :=
  final (do Store.promote "g" (← Store.propose "g" (Dict.ofList fields) "t" "").id) Store.empty

def firstVersion (fields : List (String × Json)) : ConfigVersion :=
  ⟨⟨"g", none, Dict.ofList fields, "t", ""⟩, 1⟩

def bootEngine : VllmScheduler.Sched := ⟨0, 32, 2048, 0, none, none, none⟩

/-- The engine is busy and refuses a reinit, but a launch would succeed. -/
def busy : Meets VllmScheduler.Sched where
  warm := ⟨false, Dict.ofList [("gpu_memory_utilization", "busy")], bootEngine, 10⟩
  boot := .healthy 2 bootEngine 30

def tending (fields : List (String × Json)) (p : Process VllmScheduler.Sched)
    (appliedVersionId : Option Int) : Tended (Popen VllmScheduler.Sched) Unit where
  store := promoted fields
  world := .serving p
  proc := some ()
  coldApplied := some p.config
  appliedVersionId := appliedVersionId

def engines (σ ι : Type) (S : Supervisor σ ι) (meets : Meets σ) : Engines (outsideOf S meets) where
  config world _ := match world with
    | .serving p => p.config
    | .exited => ∅
  hot_keeps changes world _ hrunning := by
    cases world with
    | exited => cases hrunning
    | serving p =>
      simp only [final, outsideOf, EStateM.run_bind, EStateM.run_get, zoom_run]
      cases (S.adapter.setHot changes).run p.engine <;> exact ⟨rfl, rfl⟩

def serving : Process VllmScheduler.Sched :=
  ⟨1, Dict.ofList [("gpu_memory_utilization", .float (.fin (4 / 5)))], bootEngine⟩

/-- A new version keeps the utilization that a reinit has set before, and lowers a cap. -/
def lowered : List (String × Json) :=
  [("gpu_memory_utilization", .float (.fin (4 / 5))), ("max_num_seqs", .int 8)]

theorem utilization_kept :
    Unharmed (keeper vllmSupervisor) (outsideOf vllmSupervisor busy) (engines _ _ vllmSupervisor busy)
        (tending lowered serving (some 7)) ↔
      some 1 = some (7 : Int) ∨
        (vllmSupervisor.split (Dict.ofList lowered)).2.eqv Json.same serving.config = true ∧
          Answered (keeper vllmSupervisor) (outsideOf vllmSupervisor busy)
            (tending lowered serving (some 7)) (vllmSupervisor.split (Dict.ofList lowered)).1 :=
  unflagged_unharmed_iff (keeper vllmSupervisor) (engines _ _ vllmSupervisor busy)
    (tending lowered serving (some 7)) (firstVersion lowered) rfl (by decide +kernel)
    (by decide +kernel) (by decide +kernel)

/-- The manifest calls `num_speculative_tokens` cold, and vLLM has no flag for it. -/
theorem unflagged_takes_engine_down :
    ¬∀ (t : Tended (Popen VllmScheduler.Sched) Unit) (meets : Meets VllmScheduler.Sched)
      (d : ConfigVersion), alive (outsideOf vllmSupervisor meets) t = true →
        t.store.target "r0" "g" = some d →
        Unflagged (keeper vllmSupervisor) (vllmSupervisor.split d.fields).2 →
        NotWarmed (keeper vllmSupervisor) (outsideOf vllmSupervisor meets) t
          (vllmSupervisor.split d.fields).2 →
        Unharmed (keeper vllmSupervisor) (outsideOf vllmSupervisor meets)
          (engines _ _ vllmSupervisor meets) t := by
  intro h
  have hunharmed := h (tending [("num_speculative_tokens", .int 5)] ⟨1, ∅, bootEngine⟩ none) busy
    (firstVersion [("num_speculative_tokens", .int 5)]) rfl (by decide +kernel)
    (by decide +kernel) (by decide +kernel)
  exact absurd hunharmed.1 (by decide +kernel)

end Trimtab.SupervisorRefusal
