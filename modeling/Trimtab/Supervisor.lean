import Trimtab.HotEngine
import Trimtab.LaunchCommand
import Trimtab.Reconciler

set_option autoImplicit false

/-!
# The supervisor

It owns one engine process. Hot fields go through the adapter while the engine runs, cold
fields change the launch command, and some of them can be changed by a warm reinit. The engine
keeps the laws of `HotEngine`, and what a tick meets is known when it begins: an instance of the
supervisor over whatever it calls (`SupervisorCalls.follows_tick`).
-/
namespace Trimtab
open PyText Effects

/-- A serving engine: its cold and warm configuration (the launch flags overlaid by the accepted
reinits, under the engine's own names), and its hot state. -/
structure Process (σ : Type) where
  pid : Nat
  config : Fields
  engine : σ

inductive Popen (σ : Type) where
  | exited
  | serving (p : Process σ)

inductive Boot (σ : Type) where
  | healthy (pid : Nat) (engine : σ) (seconds : Rat)
  | exits (returncode : Int)
  | hangs
  | unstartable (text : String)

structure WarmReply (σ : Type) where
  ok : Bool
  rejected : Dict String String
  engine : σ
  seconds : Rat

/-- What a tick meets outside the control plane. -/
structure Meets (σ : Type) where
  warm : WarmReply σ
  boot : Boot σ

structure Supervisor (σ ι : Type) where
  manifest : Manifest
  adapter : HotEngine manifest σ ι
  /-- `adapter.WARM` -/
  warm : List String
  command : LaunchCommand
  replicaId : String
  group : String

structure Supervising (σ : Type) where
  store : Store
  proc : Option (Popen σ) := none
  coldApplied : Option Fields := none
  appliedVersionId : Option Int := none
  lastReinitS : Option Rat := none
  lastReinitKind : Option String := none

namespace Supervising

variable {σ : Type}

def serving? (s : Supervising σ) : Option (Process σ) :=
  match s.proc with
  | some (.serving p) => some p
  | _ => none

def alive (s : Supervising σ) : Bool := s.serving?.isSome

/-- `cold_applied or {}` -/
def cold (s : Supervising σ) : Fields := s.coldApplied.getD ∅

def crash (s : Supervising σ) : Supervising σ := { s with proc := s.proc.map fun _ => .exited }

end Supervising

namespace Supervisor

variable {σ ι : Type} (S : Supervisor σ ι)

abbrev SuperviseM (σ : Type) := EStateM PyErr (Supervising σ)

def onStore {α : Type} (x : StoreM α) : SuperviseM σ α :=
  zoom (·.store) (fun store s => { s with store := store }) x

/-- A call to the engine, which nobody answers when it is down. -/
def onEngine {α : Type} (x : EStateM PyErr σ α) : SuperviseM σ α := do
  match (← get).serving? with
  | none => throw (.osError "<urlopen error [Errno 111] Connection refused>")
  | some p =>
    zoom (fun _ => p.engine)
      (fun engine s => { s with proc := some (.serving { p with engine := engine }) }) x

def record (appliedVersionId : Option Int) (state detail : String) : SuperviseM σ Unit :=
  onStore (Store.recordStatus S.replicaId S.group appliedVersionId state detail)

def report (state detail : String) : SuperviseM σ Unit := do
  S.record (← get).appliedVersionId state detail

def split (fields : Fields) : Fields × Fields :=
  (fields.filter fun k _ => !S.manifest.coldOrWarm k, fields.filter fun k _ => S.manifest.coldOrWarm k)

def engineName (k : String) : String :=
  if k = "max_total_num_tokens" then "max_total_tokens" else k

def engineNames (fields : Fields) : Fields := fields.rename engineName

def stop : SuperviseM σ Unit := modify fun s => { s with proc := none }

def launch (coldFields : Fields) (boot : Boot σ) : SuperviseM σ Rat := do
  let cmd ← ofExcept (S.command.buildCommand coldFields)
  match boot with
  | .unstartable text => throw (.osError text)
  | .exits returncode =>
    modify fun s => { s with proc := some .exited }
    throw (.runtimeError ("engine exited with " ++ toString returncode ++ " during boot, cmd=" ++
      reprList cmd))
  | .hangs =>
    stop
    throw (.runtimeError "engine did not become healthy in time")
  | .healthy pid engine seconds =>
    modify fun s => { s with
      proc := some (.serving ⟨pid, engineNames coldFields, engine⟩), coldApplied := some coldFields }
    return seconds

/-- The test that opens the cold part of a tick, and is made once more after a warm reinit. -/
def needsReshape (s : Supervising σ) (cold : Fields) : Bool :=
  !s.alive || !cold.eqv Json.same s.cold

def changed (s : Supervising σ) (cold : Fields) : Fields :=
  cold.filter fun k v => !Json.pyEq ((s.cold.get? k).getD .null) v

def warmable (s : Supervising σ) (cold : Fields) : Bool :=
  s.alive && !(changed s cold).entries.isEmpty && s.cold.keys.all cold.contains &&
    (engineNames (changed s cold)).keys.all S.warm.contains

def sortedKeys (fields : Fields) : String := reprList (fields.keys.insertionSort (· ≤ ·))

/-- The reinit itself, as the engine goes through it. -/
def reinitWarm (fields : Fields) (reply : WarmReply σ) : SuperviseM σ Unit :=
  modify fun s => match s.serving? with
    | none => s
    | some p => { s with
        proc := some (.serving { p with
          config := if reply.ok then p.config.update fields else p.config
          engine := reply.engine }) }

def tryWarm (cold : Fields) (reply : WarmReply σ) : SuperviseM σ Unit := do
  let changed := changed (← get) cold
  S.report "reinit" ("warm reinit " ++ sortedKeys changed)
  reinitWarm (engineNames changed) reply
  if reply.ok then
    modify fun s => { s with
      coldApplied := some cold, lastReinitS := some reply.seconds, lastReinitKind := some "warm" }
  else S.report "reinit" ("warm refused " ++ reprDict reply.rejected.entries ++ ", relaunching")

def relaunch (cold : Fields) (boot : Boot σ) : SuperviseM σ Unit := do
  S.report "reinit" ("relaunch for " ++ sortedKeys cold)
  stop
  let seconds ← S.launch cold boot
  modify fun s => { s with lastReinitS := some seconds, lastReinitKind := some "relaunch" }

def reshape (cold : Fields) (meets : Meets σ) : SuperviseM σ Unit := do
  if needsReshape (← get) cold then
    if S.warmable (← get) cold then S.tryWarm cold meets.warm
    if needsReshape (← get) cold then S.relaunch cold meets.boot

def fail (detail : String) : SuperviseM σ String := do
  S.report FAILED detail
  return FAILED

def finish (desired : ConfigVersion) : SuperviseM σ String := do
  modify fun s => { s with appliedVersionId := some desired.id }
  let s ← get
  S.record (some desired.id) HEALTHY (match s.lastReinitS with
    | some seconds =>
      "reinit_s=" ++ format3f seconds ++ " kind=" ++ s.lastReinitKind.getD "None"
    | none => "")
  return HEALTHY

def applyHot (desired : ConfigVersion) (hot : Fields) : SuperviseM σ String := do
  if hot.entries.isEmpty then S.finish desired
  else
    let (accepted, rejected) := S.manifest.validate hot
    if !rejected.entries.isEmpty then
      S.fail ("manifest rejected " ++ reprDict rejected.entries)
    else
      let result ← onEngine (S.adapter.setHot accepted)
      if !result.ok then S.fail ("engine rejected " ++ reprDict result.rejected.entries)
      else S.finish desired

def converge (desired : ConfigVersion) (meets : Meets σ) : SuperviseM σ String := do
  let (hot, cold) := S.split desired.fields
  S.reshape cold meets
  S.applyHot desired hot

/-- A tick without a target keeps an engine up, with the cold fields of the last one. -/
def idle (meets : Meets σ) : SuperviseM σ String := do
  let s ← get
  if !s.alive then
    let _ ← S.launch s.cold meets.boot
  S.record none HEALTHY ""
  return HEALTHY

def Exits (s : Supervising σ) (desired : ConfigVersion) : Prop :=
  some desired.id = s.appliedVersionId ∧ s.alive = true

instance (s : Supervising σ) (desired : ConfigVersion) : Decidable (Exits s desired) :=
  instDecidableAnd

def tick (meets : Meets σ) : SuperviseM σ String := do
  match ← onStore (Store.desiredFor S.replicaId S.group) with
  | none => S.idle meets
  | some desired =>
    if Exits (← get) desired then
      S.record (some desired.id) HEALTHY ""
      return HEALTHY
    else S.converge desired meets

end Supervisor
end Trimtab
