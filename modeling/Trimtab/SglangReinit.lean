import Trimtab.PyNumbers
import Trimtab.SglangAnswer

set_option autoImplicit false

/-! The warm reinit that the patch puts into SGLang's scheduler, and the engine that it leaves when
it fails. -/
namespace Trimtab.SglangReinit
open PyText Effects SglangScheduler

/-- A worker's `model_runner`: its fraction of the memory, and whether its KV pools, attention
backends and CUDA graphs exist. -/
structure Runner where
  memFractionStatic : PyFloat
  pools : Bool
  backends : Bool
  graphs : Bool
  deriving DecidableEq

inductive Stage where
  | pools
  | backends
  | graphs
  deriving DecidableEq

structure WorkerInfo where
  maxTotalNumTokens : Int
  maxPrefillTokens : Int
  maxRunningRequests : Int
  maxQueuedRequests : Option Int
  deriving DecidableEq

/-- `idle`: no request runs, waits or has a result to come. `context`: what `get_context` has for
the sizing. `caches`: the scheduler has its tree cache and its pools. -/
structure Engine where
  idle : Bool
  memorySaver : Bool
  context : Fields
  target : Runner
  draft : Option Runner
  info : WorkerInfo
  caches : Bool
  generation : Nat
  sched : Sched
  deriving DecidableEq

/-- What the stock code makes of an attempt to size the engine by a context and the fractions of
the workers. -/
abbrev Attempt := Fields → List PyFloat → Except (Stage × PyErr) WorkerInfo

/-- `info` is the dict that the call returns, without its timings, the memory freed and the names
of what was released and rewired. -/
structure Reply where
  ok : Bool
  info : Json
  deriving DecidableEq

namespace Runner

def tornDown (r : Runner) : Runner := { r with pools := false, backends := false, graphs := false }

def sized (x : Option PyFloat) (r : Runner) : Runner :=
  { r with memFractionStatic := x.getD r.memFractionStatic }

def built (r : Runner) : Runner := { r with pools := true, backends := true, graphs := true }

/-- The stages before `stage` have built their part. -/
def brokenAt (stage : Stage) (r : Runner) : Runner :=
  match stage with
  | .pools => r
  | .backends => { r with pools := true }
  | .graphs => { r with pools := true, backends := true }

end Runner

namespace Engine

def workers (e : Engine) : List Runner := e.target :: e.draft.toList

def mapWorkers (f : Runner → Runner) (e : Engine) : Engine :=
  { e with target := f e.target, draft := e.draft.map f }

def fractions (e : Engine) : List PyFloat := e.workers.map Runner.memFractionStatic

end Engine

def allowed : List String :=
  ["mem_fraction_static", "max_total_tokens", "kv_cache_dtype", "max_running_requests"]

/-- `sorted(set(fields) - allowed)` -/
def notAllowed (fields : Fields) : List String :=
  (fields.keys.filter fun k => !allowed.contains k).insertionSort (· ≤ ·)

/-- `previous`, which has no `kv_cache_dtype`. -/
def previous (e : Engine) : Fields :=
  ⟨[("mem_fraction_static", .float e.target.memFractionStatic),
    ("max_total_tokens", .int e.sched.maxTotalNumTokens),
    ("max_running_requests", .int e.sched.maxRunningRequests)], by simp⟩

def fraction (values : Fields) : Except PyErr (Option PyFloat) :=
  match values.get? "mem_fraction_static" with
  | none => .ok none
  | some v => do return some (← v.asFloat)

/-- The teardown, worker by worker: the value that does not convert raises at the first one. -/
def release (fields : Fields) : EStateM PyErr Engine Unit := do
  modify fun e => { e with target := e.target.tornDown }
  let x ← ofExcept (fraction fields)
  modify fun e => { e with
    target := e.target.sized x
    draft := e.draft.map fun r => r.tornDown.sized x
    caches := false
    generation := e.generation + 1 }

def ask (values : Fields) : EStateM PyErr Engine Unit := do
  modify fun e => { e with context := e.context.update values }
  let x ← ofExcept (fraction values)
  modify (Engine.mapWorkers (Runner.sized x))

/-- `init_memory_pools`, `init_all_attention_backends` and `init_all_cuda_graphs`. -/
def build (attempt : Attempt) : EStateM PyErr Engine Unit := do
  match attempt (← get).context (← get).fractions with
  | .ok info => modify fun e => { e.mapWorkers Runner.built with info := info }
  | .error (stage, err) =>
    modify (Engine.mapWorkers (Runner.brokenAt stage))
    throw err

def rebuild (attempt : Attempt) (values : Fields) : EStateM PyErr Engine Unit := do
  ask values
  build attempt

/-- `{k: previous[k] for k in previous if k in fields or k == "mem_fraction_static"}` -/
def back (old fields : Fields) : Fields :=
  old.filter fun k _ => fields.contains k || k = "mem_fraction_static"

def failure (err : PyErr) (old : Fields) : Fields :=
  ⟨[("error", .str err.str), ("restored", .dict old.entries)], by simp⟩

def restore (again : Attempt) (old fields : Fields) (err : PyErr) : EStateM PyErr Engine Fields := do
  rebuild again (back old fields)
  return failure err old

def report (fields : Fields) (info : WorkerInfo) : Json := .dict [
  ("ok", .bool !fields.contains "error"), ("fields", .dict fields.entries),
  ("memory_saver", .bool true), ("max_total_num_tokens", .int info.maxTotalNumTokens),
  ("max_running_requests", .int info.maxRunningRequests)]

/-- The scheduler takes the sizing in force, its caches are built, and the ceiling is the new cap. -/
def takeSizing (e : Engine) (report : Json) : Engine := { e with
  caches := true
  sched := { e.sched with
    maxTotalNumTokens := e.info.maxTotalNumTokens
    maxPrefillTokens := e.info.maxPrefillTokens
    maxRunningRequests := e.info.maxRunningRequests
    maxQueuedRequests := e.info.maxQueuedRequests
    newTokenRatioTracker :=
      { e.sched.newTokenRatioTracker with current := e.sched.newTokenRatioTracker.init }
    ceilings := some e.info.maxRunningRequests
    lastReinit := report } }

def finish (fields : Fields) : EStateM PyErr Engine Reply := do
  let info := report fields (← get).info
  modify fun e => takeSizing e info
  return ⟨!fields.contains "error", info⟩

def resize (first again : Attempt) (fields : Fields) : EStateM PyErr Engine Reply := do
  let old := previous (← get)
  release fields
  let fields ← rescue (do rebuild first fields; return fields) (restore again old fields)
  finish fields

def refusal (text : String) : Reply := ⟨false, .dict [("ok", .bool false), ("error", .str text)]⟩

def refuse (text : String) : EStateM PyErr Engine Reply := do
  modify fun e => { e with sched := { e.sched with lastReinit := (refusal text).info } }
  return refusal text

def trimtabReinit (first again : Attempt) (fields : Fields) : EStateM PyErr Engine Reply := do
  let e ← get
  if notAllowed fields ≠ [] then
    return refusal ("not warm-reinitable: " ++ reprList (notAllowed fields))
  else if !e.memorySaver then
    refuse "warm reinit needs the server launched with --enable-memory-saver"
  else if !e.idle then refuse "scheduler busy, drain before a warm reinit"
  else resize first again fields

/-! ## One attempt -/

section Attempts

variable {e : Engine} {fields values : Fields} {x : Option PyFloat} {attempt : Attempt}

def released (x : Option PyFloat) (e : Engine) : Engine :=
  { e with
    target := e.target.tornDown.sized x
    draft := e.draft.map fun r => r.tornDown.sized x
    caches := false
    generation := e.generation + 1 }

def asked (values : Fields) (x : Option PyFloat) (e : Engine) : Engine :=
  { e with context := e.context.update values }.mapWorkers (Runner.sized x)

theorem release_ok (hx : fraction fields = .ok x) :
    (release fields).run e = .ok () (released x e) := by
  unfold release
  simp only [EStateM.run_bind, EStateM.run_modify, ofExcept_run, hx]
  rfl

theorem release_raises {err : PyErr} (hx : fraction fields = .error err) :
    (release fields).run e = .error err { e with target := e.target.tornDown } := by
  unfold release
  simp only [EStateM.run_bind, EStateM.run_modify, ofExcept_run, hx]

theorem ask_ok (hx : fraction values = .ok x) :
    (ask values).run e = .ok () (asked values x e) := by
  unfold ask
  simp only [EStateM.run_bind, EStateM.run_modify, ofExcept_run, hx]
  rfl

theorem build_ok {info : WorkerInfo} (h : attempt e.context e.fractions = .ok info) :
    (build attempt).run e = .ok () { e.mapWorkers Runner.built with info := info } := by
  unfold build
  simp only [EStateM.run_bind, EStateM.run_get, h]
  rfl

theorem build_error {stage : Stage} {err : PyErr}
    (h : attempt e.context e.fractions = .error (stage, err)) :
    (build attempt).run e = .error err (e.mapWorkers (Runner.brokenAt stage)) := by
  unfold build
  simp only [EStateM.run_bind, EStateM.run_get, h, EStateM.run_modify]
  rfl

theorem rebuild_run (hx : fraction values = .ok x) :
    (rebuild attempt values).run e = (build attempt).run (asked values x e) := by
  rw [rebuild, EStateM.run_bind, ask_ok hx]

theorem back_get? (old fields : Fields) (k : String) : (back old fields).get? k =
    if fields.contains k || k = "mem_fraction_static" then old.get? k else none :=
  Dict.get?_filter_key old (fun k => fields.contains k || decide (k = "mem_fraction_static")) k

theorem fraction_back (e : Engine) (fields : Fields) :
    fraction (back (previous e) fields) = .ok (some e.target.memFractionStatic) := by
  have hget : (back (previous e) fields).get? "mem_fraction_static" =
      some (.float e.target.memFractionStatic) := by
    rw [back_get?, decide_eq_true rfl, Bool.or_true, if_pos rfl]
    rfl
  rw [fraction, hget]
  rfl

theorem resize_raises (first again : Attempt) {err : PyErr} (hx : fraction fields = .error err) :
    (resize first again fields).run e =
      .error err { e with target := e.target.tornDown } := by
  rw [resize, EStateM.run_bind, EStateM.run_get]
  dsimp only
  rw [EStateM.run_bind, release_raises hx]

theorem resize_run (first again : Attempt) (hx : fraction fields = .ok x) :
    (resize first again fields).run e =
      (rescue (do rebuild first fields; return fields) (restore again (previous e) fields) >>=
        finish).run (released x e) := by
  rw [resize, EStateM.run_bind, EStateM.run_get]
  dsimp only
  rw [EStateM.run_bind, release_ok hx]

theorem resize_ok {first : Attempt} (again : Attempt) (hx : fraction fields = .ok x) {t : Engine}
    (h : (build first).run (asked fields x (released x e)) = .ok () t) :
    (resize first again fields).run e = (finish fields).run t := by
  have hfirst : (do rebuild first fields; return fields : EStateM PyErr Engine Fields).run
      (released x e) = .ok fields t := by
    rw [EStateM.run_bind, rebuild_run hx, h]
    rfl
  rw [resize_run first again hx, EStateM.run_bind, rescue_of_ok hfirst]

theorem resize_failed {first : Attempt} (again : Attempt) (hx : fraction fields = .ok x)
    {err : PyErr} {t : Engine}
    (h : (build first).run (asked fields x (released x e)) = .error err t) :
    (resize first again fields).run e =
      (restore again (previous e) fields err >>= finish).run t := by
  have hfirst : (do rebuild first fields; return fields : EStateM PyErr Engine Fields).run
      (released x e) = .error err t := by
    rw [EStateM.run_bind, rebuild_run hx, h]
  rw [resize_run first again hx, EStateM.run_bind, rescue_of_error hfirst, EStateM.run_bind]

/-- The engine on which the previous sizing is built again, after a first attempt that left `t`. -/
def askedBack (e t : Engine) (fields : Fields) : Engine :=
  asked (back (previous e) fields) (some e.target.memFractionStatic) t

theorem rebuild_back (again : Attempt) (e t : Engine) (fields : Fields) :
    (rebuild again (back (previous e) fields)).run t =
      (build again).run (askedBack e t fields) := rebuild_run (fraction_back e fields)

theorem restore_ok {again : Attempt} {err : PyErr} {t : Engine} {info : WorkerInfo}
    (h : again (askedBack e t fields).context (askedBack e t fields).fractions = .ok info) :
    (restore again (previous e) fields err).run t = .ok (failure err (previous e))
      { (askedBack e t fields).mapWorkers Runner.built with info := info } := by
  rw [restore, EStateM.run_bind, rebuild_back, build_ok h]
  rfl

theorem restore_error {again : Attempt} (err : PyErr) {t : Engine} {stage : Stage} {err' : PyErr}
    (h : again (askedBack e t fields).context (askedBack e t fields).fractions =
      .error (stage, err')) :
    (restore again (previous e) fields err).run t =
      .error err' ((askedBack e t fields).mapWorkers (Runner.brokenAt stage)) := by
  rw [restore, EStateM.run_bind, rebuild_back, build_error h]

theorem finish_run (fields : Fields) (e : Engine) : (finish fields).run e =
    .ok ⟨!fields.contains "error", report fields e.info⟩ (takeSizing e (report fields e.info)) := rfl

/-! ## The sizing that is put back -/

def inForce (e : Engine) (key : String) : Option Json :=
  if key = "mem_fraction_static" then some (.list (e.fractions.map Json.float))
  else if key = "max_total_tokens" then some (.int e.sched.maxTotalNumTokens)
  else if key = "max_running_requests" then some (.int e.sched.maxRunningRequests)
  else e.context.get? key

/-- The cap that a rebuild under the context puts in force, on an engine whose own is the one that
`get_worker_info` reports. -/
def runningOf (e : Engine) (context : Fields) : Int :=
  match context.get? "max_running_requests" with
  | some (.int n) => n
  | _ => e.info.maxRunningRequests

/-- `get_worker_info` reports the sizing in force: a cap that the context sets is the one reported. -/
def Reports (e : Engine) : Prop := runningOf e e.context = e.info.maxRunningRequests

/-- The context has each key as it was, or as the value in force. -/
def AsBefore (e : Engine) (context : Fields) : Prop :=
  ∀ k ∈ allowed, context.get? k = e.context.get? k ∨
    ((previous e).contains k = true ∧ context.get? k = (previous e).get? k)

/-- A rebuild with the sizing of `e` succeeds, and puts that sizing in force. -/
def Rebuilds (e : Engine) (again : Attempt) : Prop :=
  ∀ context, AsBefore e context → ∃ info, again context e.fractions = .ok info ∧
    info.maxTotalNumTokens = e.sched.maxTotalNumTokens ∧
    info.maxRunningRequests = runningOf e context

/-- A serving engine, at the sizing of `e` as far as `fields` name it. -/
structure Serves (e : Engine) (fields : Fields) (t : Engine) : Prop where
  built : ∀ r ∈ t.workers, r.pools = true ∧ r.backends = true ∧ r.graphs = true
  caches : t.caches = true
  sizing : ∀ k ∈ fields.keys, inForce t k = inForce e k
  ceiling : ∀ c, e.sched.ceilings = some c → t.sched.ceilings = some c

/-- A reinit that raises or does not report success leaves a serving engine. -/
def Harmless (first again : Attempt) (fields : Fields) (e : Engine) : Prop :=
  (∀ err t, (trimtabReinit first again fields).run e = .error err t → Serves e fields t) ∧
    ∀ reply t, (trimtabReinit first again fields).run e = .ok reply t → reply.ok = false →
      Serves e fields t

def restoredCap (e : Engine) (fields : Fields) : Int :=
  if fields.contains "max_running_requests" then e.sched.maxRunningRequests
  else e.info.maxRunningRequests

/-- The fraction converts, the draft model's worker has the target's, the dtype is not changed, and
the ceiling on record is the cap that is put back. -/
structure Restorable (e : Engine) (fields : Fields) : Prop where
  converts : ∃ x, fraction fields = .ok x
  draft : ∀ r ∈ e.draft, r.memFractionStatic = e.target.memFractionStatic
  dtype : ∀ v, fields.get? "kv_cache_dtype" = some v → e.context.get? "kv_cache_dtype" = some v
  ceiling : ∀ c, e.sched.ceilings = some c → c = restoredCap e fields

theorem admitted_run {first again : Attempt} (hidle : e.idle = true) (hsaver : e.memorySaver = true)
    (hallowed : ∀ k ∈ fields.keys, k ∈ allowed) :
    (trimtabReinit first again fields).run e = (resize first again fields).run e := by
  have hkeys : notAllowed fields = [] := by
    have hnil : (fields.keys.filter fun k => !allowed.contains k) = [] := by
      rw [List.filter_eq_nil_iff]
      intro k hk
      simp [hallowed k hk]
    rw [notAllowed, hnil]
    rfl
  unfold trimtabReinit
  simp only [EStateM.run_bind, EStateM.run_get]
  rw [if_neg (not_not.mpr hkeys), hsaver, hidle]
  rfl

theorem back_dtype (e : Engine) (fields : Fields) :
    (back (previous e) fields).get? "kv_cache_dtype" = none := by
  rw [back_get?]
  exact ite_self _

theorem context_back {t : Engine} (ht : t.context = e.context.update fields) (k : String) :
    (askedBack e t fields).context.get? k =
      ((back (previous e) fields).get? k).or ((fields.get? k).or (e.context.get? k)) := by
  have hcontext : (askedBack e t fields).context = t.context.update (back (previous e) fields) := rfl
  rw [hcontext, Dict.get?_update, ht, Dict.get?_update]

/-- `previous` lacks one of the keys. -/
theorem previous_none {k : String} (hk : k ∈ allowed) (hnone : (previous e).get? k = none) :
    k = "kv_cache_dtype" := by
  simp only [allowed, List.mem_cons, List.not_mem_nil, or_false] at hk
  rcases hk with rfl | rfl | rfl | rfl
  · cases hnone
  · cases hnone
  · rfl
  · cases hnone

theorem asBefore_back {t : Engine} (ht : t.context = e.context.update fields)
    (hdtype : ∀ v, fields.get? "kv_cache_dtype" = some v →
      e.context.get? "kv_cache_dtype" = some v) :
    AsBefore e (askedBack e t fields).context := by
  intro k hk
  rw [context_back ht]
  cases hback : (back (previous e) fields).get? k with
  | some v =>
    rw [back_get?] at hback
    split_ifs at hback
    exact .inr ⟨by rw [Dict.contains, hback]; rfl, hback.symm⟩
  | none =>
    rw [Option.none_or]
    cases hfield : fields.get? k with
    | none => exact .inl Option.none_or
    | some v =>
      have hnamed : fields.contains k = true := by rw [Dict.contains, hfield]; rfl
      rw [back_get?, hnamed, Bool.true_or, if_pos rfl] at hback
      obtain rfl := previous_none hk hback
      rw [hdtype v hfield]
      exact .inl Option.some_or

theorem fractions_back (e t : Engine) (fields : Fields) (hdraft : t.draft.isSome = e.draft.isSome) :
    (askedBack e t fields).fractions = e.workers.map fun _ => e.target.memFractionStatic := by
  obtain ⟨_, _, _, _, draft, _, _, _, _⟩ := t
  cases draft with
  | none =>
    cases hd : e.draft with
    | none =>
      rw [Engine.workers, hd]
      rfl
    | some r => rw [hd] at hdraft; cases hdraft
  | some r =>
    cases hd : e.draft with
    | none => rw [hd] at hdraft; cases hdraft
    | some r' =>
      rw [Engine.workers, hd]
      rfl

theorem fractions_iff : (e.workers.map fun _ => e.target.memFractionStatic) = e.fractions ↔
    ∀ r ∈ e.draft, r.memFractionStatic = e.target.memFractionStatic := by
  rw [Engine.fractions, Engine.workers]
  cases e.draft with
  | none => simp
  | some r => simp [eq_comm]

/-- The cap that the rebuild of the previous sizing puts in force. -/
theorem runningOf_back {t : Engine} (ht : t.context = e.context.update fields)
    (hnow : Reports e) :
    runningOf e (askedBack e t fields).context = restoredCap e fields := by
  have hget := context_back ht "max_running_requests"
  rw [back_get?] at hget
  have hname : decide ("max_running_requests" = "mem_fraction_static") = false := by decide
  rw [hname, Bool.or_false] at hget
  rw [restoredCap]
  cases hnamed : fields.contains "max_running_requests" with
  | true =>
    rw [hnamed, if_pos rfl] at hget
    rw [if_pos rfl, runningOf, hget]
    rfl
  | false =>
    have hnone : fields.get? "max_running_requests" = none := by
      simpa [Dict.contains] using hnamed
    rw [hnamed, if_neg (by decide), Option.none_or, hnone, Option.none_or] at hget
    rw [if_neg (by decide), ← show runningOf e e.context = _ from hnow, runningOf, runningOf, hget]

def restored (e t : Engine) (fields : Fields) (info : WorkerInfo) : Engine :=
  { (askedBack e t fields).mapWorkers Runner.built with info := info }

theorem workers_built (e : Engine) : ∀ r ∈ (e.mapWorkers Runner.built).workers,
    r.pools = true ∧ r.backends = true ∧ r.graphs = true := by
  intro r hr
  rw [Engine.workers, List.mem_cons, Option.mem_toList] at hr
  rcases hr with rfl | hr
  · exact ⟨rfl, rfl, rfl⟩
  · obtain ⟨r', -, rfl⟩ := Option.map_eq_some_iff.mp hr
    exact ⟨rfl, rfl, rfl⟩

theorem fractions_built (e : Engine) : (e.mapWorkers Runner.built).fractions = e.fractions := by
  simp only [Engine.fractions, Engine.workers, Engine.mapWorkers, List.map_cons]
  cases e.draft <;> rfl

theorem serves_restored (hallowed : ∀ k ∈ fields.keys, k ∈ allowed) {t : Engine}
    (ht : t.context = e.context.update fields) (hdraft : t.draft.isSome = e.draft.isSome)
    (hnow : Reports e) (h : Restorable e fields)
    {info : WorkerInfo} (htotal : info.maxTotalNumTokens = e.sched.maxTotalNumTokens)
    (hrunning : info.maxRunningRequests = runningOf e (askedBack e t fields).context)
    (report : Json) : Serves e fields (takeSizing (restored e t fields info) report) where
  built := workers_built _
  caches := rfl
  sizing k hk := by
    have hfractions : (takeSizing (restored e t fields info) report).fractions = e.fractions :=
      (fractions_built _).trans ((fractions_back e t fields hdraft).trans (fractions_iff.mpr h.draft))
    rw [runningOf_back ht hnow] at hrunning
    have hallow := hallowed k hk
    simp only [allowed, List.mem_cons, List.not_mem_nil, or_false] at hallow
    rcases hallow with rfl | rfl | rfl | rfl
    · rw [inForce, if_pos rfl, hfractions]
      rfl
    · exact congrArg (fun n => some (Json.int n)) htotal
    · obtain ⟨v, hv⟩ := Option.isSome_iff_exists.mp (Dict.get?_isSome_iff.mpr hk)
      have hcontext := context_back ht "kv_cache_dtype"
      rw [back_dtype, hv, Option.none_or, Option.some_or] at hcontext
      exact hcontext.trans (h.dtype v hv).symm
    · rw [restoredCap, Dict.contains, Dict.get?_isSome_iff.mpr hk, if_pos rfl] at hrunning
      exact congrArg (fun n => some (Json.int n)) hrunning
  ceiling c hc := by
    rw [h.ceiling c hc, ← runningOf_back ht hnow, ← hrunning]
    rfl

/-! ## A failed reinit -/

def exhausted : Attempt := fun _ _ => .error (.pools, .runtimeError "CUDA out of memory")

def sizingOf (e : Engine) (context : Fields) : WorkerInfo := { e.info with
  maxTotalNumTokens := e.sched.maxTotalNumTokens
  maxRunningRequests := runningOf e context }

def capable (e : Engine) : Attempt := fun context fractions =>
  if fractions = e.fractions then .ok (sizingOf e context)
  else .error (.graphs, .runtimeError "CUDA out of memory")

theorem capable_rebuilds (e : Engine) : Rebuilds e (capable e) :=
  fun _ _ => ⟨_, if_pos rfl, rfl, rfl⟩

theorem restored_run {again : Attempt} (err : PyErr) {t : Engine} {info : WorkerInfo}
    (h : again (askedBack e t fields).context (askedBack e t fields).fractions = .ok info) :
    ∃ reply report, (restore again (previous e) fields err >>= finish).run t =
      .ok reply (takeSizing (restored e t fields info) report) ∧ reply.ok = false := by
  rw [EStateM.run_bind, restore_ok h]
  exact ⟨_, _, finish_run _ _, rfl⟩

structure Failed (e : Engine) (fields : Fields) (t : Engine) : Prop where
  context : t.context = e.context.update fields
  draft : t.draft.isSome = e.draft.isSome
  graphs : t.target.graphs = false

theorem failed_brokenAt (x : Option PyFloat) (stage : Stage) (e : Engine) (fields : Fields) :
    Failed e fields ((asked fields x (released x e)).mapWorkers (Runner.brokenAt stage)) where
  context := rfl
  draft := by
    change (((e.draft.map _).map _).map _).isSome = _
    rw [Option.isSome_map, Option.isSome_map, Option.isSome_map]
  graphs := by cases stage <;> rfl

theorem harmless_of_restorable (hidle : e.idle = true) (hsaver : e.memorySaver = true)
    (hallowed : ∀ k ∈ fields.keys, k ∈ allowed)
    (hnow : Reports e) (h : Restorable e fields)
    (first again : Attempt) (hagain : Rebuilds e again) : Harmless first again fields e := by
  rw [Harmless, admitted_run hidle hsaver hallowed]
  obtain ⟨x, hx⟩ := h.converts
  cases hfirst : first (asked fields x (released x e)).context
      (asked fields x (released x e)).fractions with
  | ok info =>
    have hok : fields.contains "error" = false := by
      rw [Bool.eq_false_iff, Dict.contains, ne_eq, Dict.get?_isSome_iff]
      exact fun hmem => absurd (hallowed _ hmem) (by decide)
    rw [resize_ok again hx (build_ok hfirst), finish_run, hok]
    constructor
    · intro err t hrun
      cases hrun
    · intro reply t hrun hfailed
      cases hrun
      cases hfailed
  | error p =>
    obtain ⟨stage, err⟩ := p
    rw [resize_failed again hx (build_error hfirst)]
    have hfailed := failed_brokenAt x stage e fields
    generalize (asked fields x (released x e)).mapWorkers (Runner.brokenAt stage) = t at hfailed
    have hfractions : (askedBack e t fields).fractions = e.fractions :=
      (fractions_back e t fields hfailed.draft).trans (fractions_iff.mpr h.draft)
    obtain ⟨info, hinfo, htotal, hrunning⟩ := hagain _ (asBefore_back hfailed.context h.dtype)
    rw [← hfractions] at hinfo
    obtain ⟨reply, rep, hrun, -⟩ := restored_run err hinfo
    rw [hrun]
    constructor
    · intro err' t' hrun'
      cases hrun'
    · intro reply' t' hrun' _
      cases hrun'
      exact serves_restored hallowed hfailed.context hfailed.draft hnow h htotal hrunning rep

/-- The first attempt runs out of memory, and the second is asked for the sizing of before. -/
theorem restorable_of_harmless (hidle : e.idle = true) (hsaver : e.memorySaver = true)
    (hallowed : ∀ k ∈ fields.keys, k ∈ allowed)
    (hnow : Reports e)
    (h : Harmless exhausted (capable e) fields e) : Restorable e fields := by
  rw [Harmless, admitted_run hidle hsaver hallowed] at h
  obtain ⟨hraise, hreply⟩ := h
  cases hx : fraction fields with
  | error err =>
    -- the target's worker is torn down when the fraction does not convert
    have hserves := hraise _ _ (resize_raises exhausted (capable e) hx)
    cases (hserves.built _ List.mem_cons_self).1
  | ok x =>
    have hrun : (resize exhausted (capable e) fields).run e = _ :=
      resize_failed (capable e) hx (build_error rfl)
    have hfailed := failed_brokenAt x .pools e fields
    generalize (asked fields x (released x e)).mapWorkers (Runner.brokenAt .pools) = t
      at hrun hfailed
    have hback := fractions_back e t fields hfailed.draft
    by_cases hfractions : (askedBack e t fields).fractions = e.fractions
    · have hinfo : capable e (askedBack e t fields).context (askedBack e t fields).fractions =
        .ok (sizingOf e (askedBack e t fields).context) := if_pos hfractions
      obtain ⟨reply, rep, hrestored, hfalse⟩ := restored_run _ hinfo
      have hserves := hreply _ _ (hrun.trans hrestored) hfalse
      refine ⟨⟨x, hx⟩, fractions_iff.mp (hback.symm.trans hfractions), fun v hv => ?_, fun c hc => ?_⟩
      · have hkey := Dict.get?_isSome_iff.mp (Option.isSome_of_eq_some hv)
        have hsame : (askedBack e t fields).context.get? "kv_cache_dtype" =
          e.context.get? "kv_cache_dtype" := hserves.sizing _ hkey
        rw [← hsame, context_back hfailed.context, back_dtype, hv]
        rfl
      · have hceiling : some (runningOf e (askedBack e t fields).context) = some c :=
          hserves.ceiling c hc
        rw [← runningOf_back hfailed.context hnow]
        exact (Option.some.inj hceiling).symm
    · have hinfo : capable e (askedBack e t fields).context (askedBack e t fields).fractions =
        .error (.graphs, .runtimeError "CUDA out of memory") := if_neg hfractions
      have hserves := hraise _ _ (hrun.trans (error_bind (restore_error _ hinfo) finish))
      have hgraphs : t.target.graphs = true := (hserves.built _ List.mem_cons_self).2.2
      rw [hfailed.graphs] at hgraphs
      cases hgraphs

/-- A failed reinit leaves a serving engine at its old sizing, whatever it failed at, exactly when the
fraction converts, the dtype is not changed, the draft model's worker has the target's fraction, and
the cap that is put back is the ceiling on record. -/
theorem failed_reinit_serves_iff (e : Engine) (fields : Fields) (hidle : e.idle = true)
    (hsaver : e.memorySaver = true) (hallowed : ∀ k ∈ fields.keys, k ∈ allowed)
    (hnow : Reports e) :
    (∀ first again, Rebuilds e again → Harmless first again fields e) ↔ Restorable e fields :=
  ⟨fun h => restorable_of_harmless hidle hsaver hallowed hnow
      (h exhausted (capable e) (capable_rebuilds e)),
    harmless_of_restorable hidle hsaver hallowed hnow⟩

end Attempts

/-! ## A fraction that does not convert -/

def booted : Engine where
  idle := true
  memorySaver := true
  context := ⟨[("mem_fraction_static", .float (.fin (88 / 100))), ("max_total_tokens", .null),
    ("kv_cache_dtype", .str "auto"), ("max_running_requests", .int 32)], by simp⟩
  target := ⟨.fin (88 / 100), true, true, true⟩
  draft := none
  info := ⟨262144, 16384, 32, none⟩
  caches := true
  generation := 0
  sched := { SglangScheduler.booted with ceilings := some 32 }

def larger : Fields :=
  ⟨[("mem_fraction_static", .str "0.95"), ("max_total_tokens", .int 524288)], by simp⟩

theorem larger_restored : Harmless exhausted (capable booted) larger booted := by
  refine (failed_reinit_serves_iff booted larger rfl rfl (by decide) rfl).mpr ?_ exhausted _
    (capable_rebuilds booted)
  refine ⟨⟨some (.nearest (95 / 100)), by decide +kernel⟩, nofun, fun v hv => ?_, fun c hc => ?_⟩
  · have hnone : larger.get? "kv_cache_dtype" = none := by decide
    rw [hnone] at hv
    cases hv
  · exact (Option.some.inj hc).symm

def illTyped : Fields := ⟨[("mem_fraction_static", .str "high")], by simp⟩

/-- The call raises halfway through the teardown, and the engine is left without its KV pools. -/
theorem ill_typed_leaves_no_pools : ¬∀ (e : Engine) (fields : Fields) (first again : Attempt),
    e.idle = true → e.memorySaver = true → (∀ k ∈ fields.keys, k ∈ allowed) →
      Reports e → Rebuilds e again → Harmless first again fields e := by
  intro hall
  have hconvert : fraction illTyped =
      .error (.valueError "could not convert string to float: 'high'") := by decide +kernel
  have hrun := resize_raises (e := booted) exhausted (capable booted) hconvert
  rw [← admitted_run rfl rfl (by decide)] at hrun
  have hharmless := hall booted illTyped exhausted (capable booted) rfl rfl (by decide) rfl
    (capable_rebuilds booted)
  cases ((hharmless.1 _ _ hrun).built _ List.mem_cons_self).1

end Trimtab.SglangReinit
