import Trimtab.ControlPlane
import Trimtab.SupervisorCalls
import Trimtab.SupervisorRefusal

set_option autoImplicit false

/-!
# One engine at a time

Two engines cannot share a port and a set of devices, so a supervisor must not start one while
another runs, and must leave none behind.
-/
namespace Trimtab.SupervisorProcesses
open Effects SupervisorCalls SupervisorCalls.Keeper

variable {ω π : Type}

/-- What the operating system promises: only `popen` starts a process, one for a call, and a
process that was made to stop has stopped. -/
structure Processes (W : Outside ω π) : Prop where
  started : ∀ cmd fields w p w', (W.popen cmd fields).run w = .ok p w' →
    ∀ q, W.running w' q = true → q = p ∨ W.running w q = true
  unstarted : ∀ cmd fields w e w', (W.popen cmd fields).run w = .error e w' →
    ∀ q, W.running w' q = true → W.running w q = true
  waited : ∀ p w q, W.running (W.wait p w).2 q = true → W.running w q = true
  ended : ∀ p w q, W.running (W.terminate p w) q = true → W.running w q = true ∧ q ≠ p
  warmed : ∀ fields w q, W.running (final (W.reinitWarm fields) w) q = true →
    W.running w q = true
  changed : ∀ fields w q, W.running (final (W.setHot fields) w) q = true → W.running w q = true

open Classical in
/-- The same calls, where no process is started while another runs. -/
noncomputable def alone (W : Outside ω π) : Outside ω π := { W with
  popen := fun cmd fields => do
    if ∃ q, W.running (← get) q = true then throw (.runtimeError "another engine is running")
    else W.popen cmd fields }

/-- What happens outside between two ticks. A sleep may be interrupted. -/
structure Round (ω : Type) where
  ops : List PlaneOp
  change : ω → ω
  sleep : Except PyErr Unit

/-- The body of `run`, as often as `stop` is found unset. -/
def loop (K : Keeper) (W : Outside ω π) : List (Round ω) → TendM ω π Unit
  | [] => pure ()
  | round :: rounds => do
    let _ ← K.tick W
    modify fun t => { t with
      store := Runs.run PlaneOp.apply t.store round.ops
      world := round.change t.world }
    ofExcept round.sleep
    loop K W rounds

def run (K : Keeper) (W : Outside ω π) (rounds : List (Round ω)) : TendM ω π Unit :=
  ensure (loop K W rounds) (stop W)

/-- Nothing starts a process between two ticks. -/
def Quiet (W : Outside ω π) (round : Round ω) : Prop :=
  ∀ w q, W.running (round.change w) q = true → W.running w q = true

/-! ## The handle -/

section Handle

variable (W : Outside ω π)

/-- A process that runs is the one the supervisor has the handle of. -/
def Held (t : Tended ω π) : Prop := ∀ q, W.running t.world q = true → t.proc = some q

def Empty (t : Tended ω π) : Prop := ∀ q, W.running t.world q = false

def Only (p : π) (t : Tended ω π) : Prop := ∀ q, W.running t.world q = true → q = p

variable {W}

theorem held_of_empty {t : Tended ω π} (h : Empty W t) : Held W t := by
  intro q hq
  rw [h q] at hq
  cases hq

theorem empty_of_held {t : Tended ω π} (h : Held W t) (hdown : alive W t = false) : Empty W t := by
  intro q
  cases hq : W.running t.world q with
  | false => rfl
  | true =>
    rw [alive, h q hq, Option.any_some, hq] at hdown
    cases hdown

/-- Another state of the same process table. -/
theorem held_of_fewer {t u : Tended ω π} (h : Held W t) (hproc : u.proc = t.proc)
    (hfewer : ∀ q, W.running u.world q = true → W.running t.world q = true) : Held W u :=
  fun q hq => hproc.trans (h q (hfewer q hq))

end Handle

/-! ## The calls -/

section Calls

variable (K : Keeper) {W : Outside ω π}

/-- The two do the same from a state where every running process is held, and leave such a one. -/
abbrev Safe {α : Type} (x y : TendM ω π α) : Prop := Agree (Held W) (fun _ => Held W) (Held W) x y

theorem onStore_safe {α : Type} (x : StoreM α) :
    Safe (W := W) (Keeper.onStore x : TendM ω π α) (Keeper.onStore x) := by
  refine agree_keeps fun t ht => ?_
  rw [final, Keeper.onStore, zoom_run]
  cases x.run t.store <;> exact ht

theorem report_safe (state detail : String) :
    Safe (W := W) (K.report state detail : TendM ω π Unit) (K.report state detail) :=
  agree_get_bind fun _ ht => agree_of_imp (fun _ hu => hu ▸ ht) (onStore_safe _)

theorem stop_empty {t : Tended ω π} (hW : Processes W) (ht : Held W t) :
    Empty W (final (stop W) t) ∧ (final (stop W) t).proc = none := by
  obtain ⟨store, w, proc⟩ := t
  refine ⟨fun q => Bool.eq_false_iff.mpr fun hq => ?_, rfl⟩
  cases proc with
  | none => cases ht q hq
  | some p =>
    have hworld : W.running (if W.running w p then W.terminate p w else w) q = true := hq
    split_ifs at hworld with hp
    · obtain ⟨hq, hne⟩ := hW.ended p w q hworld
      exact hne (Option.some.inj (ht q hq)).symm
    · have hsame : p = q := Option.some.inj (ht q hworld)
      exact hp (hsame ▸ hworld)

theorem popen_only (hW : Processes W) (cmd : List String) (fields : Fields) :
    Agree (Empty W) (Only W) (Held W) (outside (W.popen cmd fields) : TendM ω π π)
      (outside ((alone W).popen cmd fields)) := by
  intro t ht
  have hnone : ¬∃ q, W.running t.world q = true := by
    rintro ⟨q, hq⟩
    rw [ht q] at hq
    cases hq
  have hsame : ((alone W).popen cmd fields).run t.world = (W.popen cmd fields).run t.world := by
    simp only [alone, EStateM.run_bind, EStateM.run_get, if_neg hnone]
  rw [outside, outside, zoom_run, zoom_run, hsame]
  refine ⟨rfl, ?_⟩
  cases hp : (W.popen cmd fields).run t.world with
  | ok p w' =>
    intro q hq
    rcases hW.started cmd fields t.world p w' hp q hq with h | h
    · exact h
    · rw [ht q] at h
      cases h
  | error e w' =>
    intro q hq
    have h := hW.unstarted cmd fields t.world e w' hp q hq
    rw [ht q] at h
    cases h

theorem await_safe (hW : Processes W) (p : π) :
    Safe (W := W) (await W p) (await (alone W) p) :=
  agree_keeps fun t ht => held_of_fewer ht rfl fun q hq => hW.waited p t.world q hq

theorem conclude_safe (hW : Processes W) (cmd : List String) (coldFields : Fields) (wait : Wait) :
    Safe (W := W) (Keeper.conclude W cmd coldFields wait)
      (Keeper.conclude (alone W) cmd coldFields wait) := by
  cases wait with
  | healthy seconds =>
    exact agree_bind (agree_modify fun t ht => ht) fun _ => agree_pure _ fun t ht => ht
  | exited returncode => exact agree_throw _ fun t ht => ht
  | late =>
    refine agree_bind (M := fun _ => Held W) ?_ fun _ => agree_throw _ fun t ht => ht
    exact agree_keeps fun t ht => held_of_empty (stop_empty hW ht).1

/-- A launch finds nothing running. -/
theorem launch_safe (hW : Processes W) (coldFields : Fields) :
    Agree (Empty W) (fun _ => Held W) (Held W) (K.launch W coldFields)
      (K.launch (alone W) coldFields) := by
  refine agree_bind (M := fun _ => Empty W)
    (agree_ofExcept _ (fun _ _ h => h) fun _ h => held_of_empty h) fun cmd => ?_
  refine agree_bind (popen_only hW cmd coldFields) fun p => ?_
  refine agree_bind (M := fun _ => Held W) (agree_modify fun t ht q hq => ?_) fun _ => ?_
  · exact congrArg some (ht q hq).symm
  · exact agree_bind (await_safe hW p) fun wait => conclude_safe hW cmd coldFields wait

/-- A call to the engine. -/
theorem outside_safe {α : Type} (x : EStateM PyErr ω α)
    (hx : ∀ w q, W.running (final x w) q = true → W.running w q = true) :
    Safe (W := W) (outside x : TendM ω π α) (outside x) := by
  refine agree_keeps fun t ht => ?_
  have hw := hx t.world
  rw [final] at hw
  rw [final, outside, zoom_run]
  cases hr : x.run t.world with
  | ok a w' =>
    rw [hr] at hw
    exact held_of_fewer ht rfl hw
  | error e w' =>
    rw [hr] at hw
    exact held_of_fewer ht rfl hw

theorem tryWarm_safe (hW : Processes W) (coldFields : Fields) :
    Safe (W := W) (K.tryWarm W coldFields) (K.tryWarm (alone W) coldFields) := by
  refine agree_get_bind fun t ht => agree_of_imp (fun _ hu => hu ▸ ht) ?_
  refine agree_bind (report_safe K _ _) fun _ => ?_
  refine agree_bind (outside_safe _ (hW.warmed _)) fun answer => ?_
  dsimp only
  split
  · exact agree_modify fun u hu => hu
  · exact report_safe K _ _

theorem relaunch_safe (hW : Processes W) (coldFields : Fields) :
    Safe (W := W) (K.relaunch W coldFields) (K.relaunch (alone W) coldFields) := by
  refine agree_bind (report_safe K _ _) fun _ => ?_
  have hstop : Agree (Held W) (fun _ => Empty W) (Held W) (stop W : TendM ω π Unit) (stop W) :=
    agree_modify fun t ht => (stop_empty hW ht).1
  refine agree_bind hstop fun _ => agree_bind (launch_safe K hW coldFields) fun seconds => ?_
  exact agree_modify fun u hu => hu

theorem reshape_safe (hW : Processes W) (coldFields : Fields) :
    Safe (W := W) (K.reshape W coldFields) (K.reshape (alone W) coldFields) := by
  have hrest : Safe (W := W)
      (do if needsReshape W (← get) coldFields then K.relaunch W coldFields)
      (do if needsReshape W (← get) coldFields then K.relaunch (alone W) coldFields) := by
    refine agree_get_bind fun t ht => agree_of_imp (fun _ hu => hu ▸ ht) ?_
    split
    · exact relaunch_safe K hW coldFields
    · exact agree_pure _ fun _ h => h
  refine agree_get_bind fun t ht => agree_of_imp (fun _ hu => hu ▸ ht) ?_
  change Safe (W := W) (if needsReshape W t coldFields then _ else _)
    (if needsReshape W t coldFields then _ else _)
  split
  · refine agree_get_bind fun u hu => agree_of_imp (fun _ hv => hv ▸ hu) ?_
    change Safe (W := W) (if alive W u && K.warmable (cold u) coldFields then _ else _)
      (if alive W u && K.warmable (cold u) coldFields then _ else _)
    split
    · exact agree_bind (tryWarm_safe K hW coldFields) fun _ => hrest
    · exact hrest
  · exact agree_pure _ fun _ h => h

theorem finish_safe (desired : ConfigVersion) :
    Safe (W := W) (K.finish desired : TendM ω π String) (K.finish desired) := by
  refine agree_bind (M := fun _ => Held W) (agree_modify fun t ht => ht) fun _ => ?_
  refine agree_get_bind fun t ht => agree_of_imp (fun _ hu => hu ▸ ht) ?_
  exact agree_bind (onStore_safe _) fun _ => agree_pure _ fun _ h => h

theorem fail_safe (detail : String) :
    Safe (W := W) (K.fail detail : TendM ω π String) (K.fail detail) :=
  agree_bind (report_safe K _ _) fun _ => agree_pure _ fun _ h => h

theorem applyHot_safe (hW : Processes W) (desired : ConfigVersion) (hot : Fields) :
    Safe (W := W) (K.applyHot W desired hot) (K.applyHot (alone W) desired hot) := by
  unfold Keeper.applyHot
  split
  · exact finish_safe K desired
  · dsimp only
    split
    · exact fail_safe K _
    · refine agree_bind (outside_safe _ (hW.changed _)) fun result => ?_
      split
      · exact fail_safe K _
      · exact finish_safe K desired

theorem idle_safe (hW : Processes W) : Safe (W := W) (K.idle W) (K.idle (alone W)) := by
  refine agree_get_bind fun t ht => ?_
  have hlast : Safe (W := W) (do
      K.record none HEALTHY ""
      return HEALTHY : TendM ω π String) (do
      K.record none HEALTHY ""
      return HEALTHY) := agree_bind (onStore_safe _) fun _ => agree_pure _ fun _ h => h
  change Agree (· = t) (fun _ => Held W) (Held W) (if !alive W t then _ else _)
    (if !alive W t then _ else _)
  cases hup : alive W t with
  | true => exact agree_of_imp (fun _ hu => hu ▸ ht) hlast
  | false =>
    have hempty := empty_of_held ht hup
    exact agree_of_imp (fun _ hu => hu ▸ hempty)
      (agree_bind (launch_safe K hW (cold t)) fun _ => hlast)

theorem tick_safe (hW : Processes W) : Safe (W := W) (K.tick W) (K.tick (alone W)) := by
  refine agree_bind (onStore_safe _) fun desired => ?_
  cases desired with
  | none => exact idle_safe K hW
  | some desired =>
    refine agree_get_bind fun t ht => agree_of_imp (fun _ hu => hu ▸ ht) ?_
    change Safe (W := W) (if Exits W t desired then _ else _) (if Exits W t desired then _ else _)
    split
    · exact agree_bind (onStore_safe _) fun _ => agree_pure _ fun _ h => h
    · exact agree_bind (reshape_safe K hW _) fun _ => applyHot_safe K hW desired _

theorem loop_safe (hW : Processes W) {rounds : List (Round ω)}
    (hquiet : ∀ round ∈ rounds, Quiet W round) :
    Safe (W := W) (loop K W rounds) (loop K (alone W) rounds) := by
  induction rounds with
  | nil => exact agree_pure _ fun _ h => h
  | cons round rounds ih =>
    refine agree_bind (tick_safe K hW) fun _ => ?_
    refine agree_bind (M := fun _ => Held W) (agree_modify fun t ht => ?_) fun _ => ?_
    · exact held_of_fewer ht rfl (hquiet round List.mem_cons_self t.world)
    · refine agree_bind (agree_ofExcept _ (fun _ _ h => h) fun _ h => h) fun _ => ?_
      exact ih fun later hlater => hquiet later (List.mem_cons_of_mem round hlater)

end Calls

/-- A supervisor that finds no engine running never starts one beside another, and leaves none
when its loop ends, however it ends. Until then it has the handle of the one that runs. -/
theorem one_engine (K : Keeper) {W : Outside ω π} (hW : Processes W) (t : Tended ω π)
    (ht : Empty W t) (rounds : List (Round ω)) (hquiet : ∀ round ∈ rounds, Quiet W round) :
    Held W (final (loop K W rounds) t) ∧
      (run K (alone W) rounds).run t = (run K W rounds).run t ∧
      Empty W (final (run K W rounds) t) := by
  have hloop := loop_safe K hW hquiet
  have hrun : Agree (Held W) (fun _ => Empty W) (Empty W) (run K W rounds)
      (run K (alone W) rounds) :=
    agree_ensure hloop fun u hu => (stop_empty hW hu).1
  exact ⟨final_of_agree hloop (held_of_empty ht), (hrun t (held_of_empty ht)).1,
    final_of_agree hrun (held_of_empty ht)⟩

def machine : Outside (Nat × List Nat) Nat where
  running w p := decide (p ∈ w.2)
  popen _ _ := do
    let w ← get
    set (w.1 + 1, w.1 :: w.2)
    return w.1
  wait _ w := (.healthy 30, w)
  terminate p w := (w.1, w.2.filter (· ≠ p))
  reinitWarm _ := return (⟨true, ∅, ∅⟩, 5)
  setHot changes := return ⟨true, changes, ∅⟩
  exited_down _ _ _ _ h := by cases h

theorem processes_machine : Processes machine where
  started cmd fields w p w' h q hq := by
    cases h
    simpa [machine] using hq
  unstarted cmd fields w e w' h := by cases h
  waited p w q h := h
  ended p w q h := by simpa [machine] using h
  warmed fields w q h := h
  changed fields w q h := h

/-- A cold field is promoted, the engine dies, and the third sleep is interrupted. -/
def interrupted : List (Round (Nat × List Nat)) :=
  [⟨[.client (.propose "g" (Dict.ofList [("max_model_len", .int 4096)]) "t" ""),
      .client (.promote "g" 1)], id, .ok ()⟩,
    ⟨[], fun w => (w.1, []), .ok ()⟩, ⟨[], id, .error (.runtimeError "interrupted")⟩]

theorem one_engine_interrupted :
    (run (keeper SupervisorRefusal.vllmSupervisor) (alone machine) interrupted).run
        { store := Store.empty, world := (1, []) } =
      (run (keeper SupervisorRefusal.vllmSupervisor) machine interrupted).run
        { store := Store.empty, world := (1, []) } ∧
    (final (loop (keeper SupervisorRefusal.vllmSupervisor) machine interrupted)
        { store := Store.empty, world := (1, []) }).world = (4, [3]) ∧
    Empty machine (final (run (keeper SupervisorRefusal.vllmSupervisor) machine interrupted)
      { store := Store.empty, world := (1, []) }) := by
  have h := one_engine (keeper SupervisorRefusal.vllmSupervisor) processes_machine
    { store := Store.empty, world := (1, []) } (fun q => rfl) interrupted fun round hround => by
      simp only [interrupted, List.mem_cons, List.not_mem_nil, or_false] at hround
      rcases hround with rfl | rfl | rfl
      · exact fun w q hq => hq
      · exact fun w q hq => by simp [machine] at hq
      · exact fun w q hq => hq
  exact ⟨h.2.1, by decide +kernel, h.2.2⟩

end Trimtab.SupervisorProcesses
