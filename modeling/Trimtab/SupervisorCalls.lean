import Trimtab.SupervisorTick

set_option autoImplicit false

/-!
# The supervisor over what it calls

The process, its health and the adapter's answers are whatever these calls find outside; a
call to start the process or to the adapter may also raise. `Supervisor` is this code over one
engine.
-/
namespace Trimtab.SupervisorCalls
open PyText Effects

inductive Wait where
  | healthy (seconds : Rat)
  | exited (returncode : Int)
  | late

/-- What a supervisor calls, with handles `π` of processes. -/
structure Outside (ω π : Type) where
  /-- `proc.poll() is None` -/
  running : ω → π → Bool
  /-- The command line, and the cold fields it carries. -/
  popen : List String → Fields → EStateM PyErr ω π
  wait : π → ω → Wait × ω
  /-- `terminate`, and the sleep of a drain before it, which comes to its end. -/
  terminate : π → ω → ω
  /-- The answer of `adapter.reinit_warm`, and the seconds it took. -/
  reinitWarm : Fields → EStateM PyErr ω (ApplyResult × Rat)
  setHot : Fields → EStateM PyErr ω ApplyResult
  exited_down : ∀ p w returncode w', wait p w = (.exited returncode, w') → running w' p = false

structure Keeper where
  manifest : Manifest
  /-- `adapter.WARM` -/
  warm : List String
  command : LaunchCommand
  replicaId : String
  group : String

structure Tended (ω π : Type) where
  store : Store
  world : ω
  proc : Option π := none
  coldApplied : Option Fields := none
  appliedVersionId : Option Int := none
  lastReinitS : Option Rat := none
  lastReinitKind : Option String := none

/-- `{k: v for k, v in cold.items() if old.get(k) != v}` -/
def changedFrom (old cold : Fields) : Fields :=
  cold.filter fun k v => !Json.pyEq ((old.get? k).getD .null) v

namespace Keeper

abbrev TendM (ω π : Type) := EStateM PyErr (Tended ω π)

variable {ω π α : Type} (K : Keeper) (W : Outside ω π)

def cold (t : Tended ω π) : Fields := t.coldApplied.getD ∅

def alive (t : Tended ω π) : Bool := t.proc.any (W.running t.world)

def onStore (x : StoreM α) : TendM ω π α :=
  zoom (·.store) (fun store t => { t with store := store }) x

def outside (x : EStateM PyErr ω α) : TendM ω π α :=
  zoom (·.world) (fun world t => { t with world := world }) x

def record (appliedVersionId : Option Int) (state detail : String) : TendM ω π Unit :=
  onStore (Store.recordStatus K.replicaId K.group appliedVersionId state detail)

def report (state detail : String) : TendM ω π Unit := do
  K.record (← get).appliedVersionId state detail

def split (fields : Fields) : Fields × Fields :=
  (fields.filter fun k _ => !K.manifest.coldOrWarm k, fields.filter fun k _ => K.manifest.coldOrWarm k)

def stop : TendM ω π Unit := modify fun t => { t with
  proc := none
  world := match t.proc with
    | some p => if W.running t.world p then W.terminate p t.world else t.world
    | none => t.world }

/-- `launch`, once the wait for the process is over. -/
def conclude (cmd : List String) (coldFields : Fields) : Wait → TendM ω π Rat
  | .exited returncode =>
    throw (.runtimeError ("engine exited with " ++ toString returncode ++ " during boot, cmd=" ++
      reprList cmd))
  | .late => do
    stop W
    throw (.runtimeError "engine did not become healthy in time")
  | .healthy seconds => do
    modify fun t => { t with coldApplied := some coldFields }
    return seconds

def await (p : π) : TendM ω π Wait := do
  let t ← get
  set { t with world := (W.wait p t.world).2 }
  return (W.wait p t.world).1

def launch (coldFields : Fields) : TendM ω π Rat := do
  let cmd ← ofExcept (K.command.buildCommand coldFields)
  let p ← outside (W.popen cmd coldFields)
  modify fun t => { t with proc := some p }
  conclude W cmd coldFields (← await W p)

def needsReshape (t : Tended ω π) (coldFields : Fields) : Bool :=
  !alive W t || !coldFields.eqv Json.same (cold t)

/-- The cold fields that differ can be changed by a warm reinit, if the engine is alive. -/
def warmable (old coldFields : Fields) : Bool :=
  !(changedFrom old coldFields).entries.isEmpty && old.keys.all coldFields.contains &&
    (Supervisor.engineNames (changedFrom old coldFields)).keys.all K.warm.contains

def tryWarm (coldFields : Fields) : TendM ω π Unit := do
  let changed := changedFrom (cold (← get)) coldFields
  K.report "reinit" ("warm reinit " ++ Supervisor.sortedKeys changed)
  let (r, seconds) ← outside (W.reinitWarm (Supervisor.engineNames changed))
  if r.ok then
    modify fun t => { t with
      coldApplied := some coldFields, lastReinitS := some seconds, lastReinitKind := some "warm" }
  else K.report "reinit" ("warm refused " ++ reprDict r.rejected.entries ++ ", relaunching")

def relaunch (coldFields : Fields) : TendM ω π Unit := do
  K.report "reinit" ("relaunch for " ++ Supervisor.sortedKeys coldFields)
  stop W
  let seconds ← K.launch W coldFields
  modify fun t => { t with lastReinitS := some seconds, lastReinitKind := some "relaunch" }

def reshape (coldFields : Fields) : TendM ω π Unit := do
  if needsReshape W (← get) coldFields then
    let t ← get
    if alive W t && K.warmable (cold t) coldFields then K.tryWarm W coldFields
    if needsReshape W (← get) coldFields then K.relaunch W coldFields

def fail (detail : String) : TendM ω π String := do
  K.report FAILED detail
  return FAILED

def finish (desired : ConfigVersion) : TendM ω π String := do
  modify fun t => { t with appliedVersionId := some desired.id }
  let t ← get
  K.record (some desired.id) HEALTHY (match t.lastReinitS with
    | some seconds => "reinit_s=" ++ format3f seconds ++ " kind=" ++ t.lastReinitKind.getD "None"
    | none => "")
  return HEALTHY

def applyHot (desired : ConfigVersion) (hot : Fields) : TendM ω π String := do
  if hot.entries.isEmpty then K.finish desired
  else
    let (accepted, rejected) := K.manifest.validate hot
    if !rejected.entries.isEmpty then K.fail ("manifest rejected " ++ reprDict rejected.entries)
    else
      let result ← outside (W.setHot accepted)
      if !result.ok then K.fail ("engine rejected " ++ reprDict result.rejected.entries)
      else K.finish desired

def converge (desired : ConfigVersion) : TendM ω π String := do
  let (hot, coldFields) := K.split desired.fields
  K.reshape W coldFields
  K.applyHot W desired hot

def idle : TendM ω π String := do
  let t ← get
  if !alive W t then
    let _ ← K.launch W (cold t)
  K.record none HEALTHY ""
  return HEALTHY

def Exits (t : Tended ω π) (desired : ConfigVersion) : Prop :=
  some desired.id = t.appliedVersionId ∧ alive W t = true

instance (t : Tended ω π) (desired : ConfigVersion) : Decidable (Exits W t desired) :=
  instDecidableAnd

def tick : TendM ω π String := do
  match ← onStore (Store.desiredFor K.replicaId K.group) with
  | none => K.idle W
  | some desired =>
    if Exits W (← get) desired then
      K.record (some desired.id) HEALTHY ""
      return HEALTHY
    else K.converge W desired

end Keeper

/-! ## The supervisor of one engine -/

section Engine

variable {σ ι : Type} (S : Supervisor σ ι) (meets : Meets σ)

def keeper : Keeper := ⟨S.manifest, S.warm, S.command, S.replicaId, S.group⟩

/-- What a tick meets, as calls on the one process it can have a handle of. -/
def outsideOf : Outside (Popen σ) Unit where
  running world _ := match world with
    | .serving _ => true
    | .exited => false
  popen _ coldFields := match meets.boot with
    | .unstartable text => throw (.osError text)
    | .healthy pid engine _ => set (Popen.serving ⟨pid, Supervisor.engineNames coldFields, engine⟩)
    | .exits _ | .hangs => set (Popen.exited : Popen σ)
  wait _ world := match meets.boot with
    | .healthy _ _ seconds => (.healthy seconds, world)
    | .exits returncode => (.exited returncode, .exited)
    | .hangs | .unstartable _ => (.late, world)
  terminate _ _ := .exited
  reinitWarm fields := do
    modify fun
      | .serving p => .serving { p with
          config := if meets.warm.ok then p.config.update fields else p.config
          engine := meets.warm.engine }
      | .exited => .exited
    return (⟨meets.warm.ok, ∅, meets.warm.rejected⟩, meets.warm.seconds)
  setHot changes := do
    match ← get with
    | .serving p =>
      zoom (fun _ => p.engine) (fun engine _ => .serving { p with engine := engine })
        (S.adapter.setHot changes)
    | .exited => throw (.osError "<urlopen error [Errno 111] Connection refused>")
  exited_down p w returncode w' h := by
    split at h <;> cases h
    rfl

def view (t : Tended (Popen σ) Unit) : Supervising σ where
  store := t.store
  proc := t.proc.map fun _ => t.world
  coldApplied := t.coldApplied
  appliedVersionId := t.appliedVersionId
  lastReinitS := t.lastReinitS
  lastReinitKind := t.lastReinitKind

open Keeper

theorem alive_view (t : Tended (Popen σ) Unit) : (view t).alive = alive (outsideOf S meets) t := by
  obtain ⟨store, world, proc, _⟩ := t
  cases proc with
  | none => rfl
  | some p => cases world <;> rfl

/-- Without a handle there is no process. -/
def Handled (t : Tended (Popen σ) Unit) : Prop := t.proc = none → t.world = .exited

/-- The calls on `t` are those of the supervisor that sees one process. -/
abbrev Follows {α : Type} (x : TendM (Popen σ) Unit α) (y : Supervisor.SuperviseM σ α) : Prop :=
  Simulates Handled view x y

theorem follows_onStore {α : Type} (x : StoreM α) :
    Follows (σ := σ) (Keeper.onStore x) (Supervisor.onStore x) := by
  intro t ht
  rw [final, Keeper.onStore, Supervisor.onStore, zoom_run, zoom_run,
    show (view t).store = t.store from rfl]
  cases x.run t.store <;> exact ⟨ht, rfl⟩

theorem follows_report (state detail : String) :
    Follows (σ := σ) ((keeper S).report state detail) (S.report state detail) :=
  simulates_get_bind fun _ => follows_onStore _

theorem follows_launch (coldFields : Fields) :
    Follows ((keeper S).launch (outsideOf S meets) coldFields) (S.launch coldFields meets.boot) := by
  obtain ⟨warm, boot⟩ := meets
  refine simulates_bind (simulates_ofExcept _) fun cmd t ht => ?_
  cases boot with
  | healthy pid engine seconds => exact ⟨fun h => (by cases h), rfl⟩
  | exits returncode => exact ⟨fun h => (by cases h), rfl⟩
  | hangs => exact ⟨fun _ => rfl, rfl⟩
  | unstartable text => exact ⟨ht, rfl⟩

theorem follows_setHot (changes : Fields) :
    Follows (outside ((outsideOf S meets).setHot changes))
      (Supervisor.onEngine (S.adapter.setHot changes)) := by
  intro t ht
  obtain ⟨store, world, proc, coldApplied, applied, seconds, kind⟩ := t
  cases world with
  | exited =>
    refine ⟨fun _ => rfl, ?_⟩
    cases proc <;> rfl
  | serving p =>
    cases proc with
    | none => cases ht rfl
    | some handle =>
      simp only [final, Keeper.outside, zoom_run, outsideOf, EStateM.run_bind, EStateM.run_get,
        Supervisor.onEngine, Supervising.serving?, view, Option.map_some]
      cases (S.adapter.setHot changes).run p.engine with
      | ok a engine => exact ⟨fun h => (by cases h), rfl⟩
      | error e engine => exact ⟨fun h => (by cases h), rfl⟩

theorem follows_tryWarm (coldFields : Fields) :
    Follows ((keeper S).tryWarm (outsideOf S meets) coldFields)
      (S.tryWarm coldFields meets.warm) := by
  obtain ⟨⟨ok, rejected, engine, seconds⟩, boot⟩ := meets
  refine simulates_get_bind fun t => simulates_bind (follows_report S _ _) fun _ => ?_
  intro u hu
  obtain ⟨store, world, proc, coldApplied, applied, seconds', kind⟩ := u
  cases world with
  | exited =>
    cases ok with
    | true => cases proc <;> exact ⟨fun _ => rfl, rfl⟩
    | false => cases proc <;> exact ⟨fun _ => rfl, rfl⟩
  | serving p =>
    cases proc with
    | none => cases hu rfl
    | some handle => cases ok <;> exact ⟨fun h => (by cases h), rfl⟩

theorem follows_stop : Follows (stop (outsideOf S meets)) Supervisor.stop := by
  refine simulates_modify (fun t ht _ => ?_) fun _ => rfl
  obtain ⟨store, world, proc, coldApplied, applied, seconds, kind⟩ := t
  cases proc with
  | none => exact ht rfl
  | some handle => cases world <;> rfl

theorem follows_relaunch (coldFields : Fields) :
    Follows ((keeper S).relaunch (outsideOf S meets) coldFields)
      (S.relaunch coldFields meets.boot) :=
  simulates_bind (follows_report S _ _) fun _ => simulates_bind (follows_stop S meets) fun _ =>
    simulates_bind (follows_launch S meets coldFields) fun _ =>
      simulates_modify (fun _ ht => ht) fun _ => rfl

theorem follows_finish (d : ConfigVersion) :
    Follows (σ := σ) ((keeper S).finish d) (S.finish d) :=
  simulates_bind (simulates_modify (fun _ ht => ht) fun _ => rfl) fun _ => simulates_get_bind fun _ =>
    simulates_bind (follows_onStore _) fun _ => simulates_pure _

theorem follows_fail (detail : String) :
    Follows (σ := σ) ((keeper S).fail detail) (S.fail detail) :=
  simulates_bind (follows_report S _ _) fun _ => simulates_pure _

theorem follows_applyHot (d : ConfigVersion) (hot : Fields) :
    Follows ((keeper S).applyHot (outsideOf S meets) d hot) (S.applyHot d hot) :=
  simulates_ite (follows_finish S d) (simulates_ite (follows_fail S _)
    (simulates_bind (follows_setHot S meets _) fun _ =>
      simulates_ite (follows_fail S _) (follows_finish S d)))

theorem follows_reshape (coldFields : Fields) :
    Follows ((keeper S).reshape (outsideOf S meets) coldFields) (S.reshape coldFields meets) := by
  have hneeds : ∀ t : Tended (Popen σ) Unit, Supervisor.needsReshape (view t) coldFields =
      needsReshape (outsideOf S meets) t coldFields := fun t => by
    rw [Supervisor.needsReshape, alive_view S meets]
    rfl
  have hwarm : ∀ t : Tended (Popen σ) Unit, S.warmable (view t) coldFields =
      (alive (outsideOf S meets) t && (keeper S).warmable (cold t) coldFields) := fun t => by
    simp only [Supervisor.warmable, Keeper.warmable, alive_view S meets, Bool.and_assoc]
    rfl
  have hrest : ∀ _ : Unit, Follows
      (get >>= fun t => if needsReshape (outsideOf S meets) t coldFields then
        (keeper S).relaunch (outsideOf S meets) coldFields else pure ())
      (get >>= fun s => if Supervisor.needsReshape s coldFields then
        S.relaunch coldFields meets.boot else pure ()) := fun _ =>
    simulates_get_bind fun t => by
      rw [hneeds]
      exact simulates_ite (follows_relaunch S meets coldFields) (simulates_pure ())
  refine simulates_get_bind fun t => ?_
  rw [hneeds]
  refine simulates_ite (simulates_get_bind fun u => ?_) (simulates_pure ())
  rw [hwarm]
  exact simulates_ite (simulates_bind (follows_tryWarm S meets coldFields) hrest) (hrest ())

theorem follows_converge (d : ConfigVersion) :
    Follows ((keeper S).converge (outsideOf S meets) d) (S.converge d meets) :=
  simulates_bind (follows_reshape S meets _) fun _ => follows_applyHot S meets d _

theorem follows_idle : Follows ((keeper S).idle (outsideOf S meets)) (S.idle meets) := by
  have hrest : ∀ _ : Rat, Follows (σ := σ)
      ((keeper S).record none HEALTHY "" >>= fun _ => pure HEALTHY)
      (S.record none HEALTHY "" >>= fun _ => pure HEALTHY) := fun _ =>
    simulates_bind (follows_onStore _) fun _ => simulates_pure _
  refine simulates_get_bind fun t => ?_
  rw [alive_view S meets]
  exact simulates_ite (simulates_bind (follows_launch S meets _) hrest) (hrest 0)

/-- A tick is the tick of the supervisor of one engine. -/
theorem follows_tick : Follows ((keeper S).tick (outsideOf S meets)) (S.tick meets) := by
  refine simulates_bind (follows_onStore _) fun target => ?_
  cases target with
  | none => exact follows_idle S meets
  | some d =>
    refine simulates_get_bind fun t => ?_
    have hexits : Supervisor.Exits (view t) d ↔ Exits (outsideOf S meets) t d := by
      rw [Supervisor.Exits, alive_view S meets]
      exact Iff.rfl
    simp only [hexits]
    exact simulates_ite (simulates_bind (follows_onStore _) fun _ => simulates_pure _)
      (follows_converge S meets d)

end Engine
end Trimtab.SupervisorCalls
