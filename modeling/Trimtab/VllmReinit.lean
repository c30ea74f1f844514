import Trimtab.PyNumbers
import Trimtab.VllmScheduler

set_option autoImplicit false

/-! The warm reinit that the patch puts into vLLM's engine core, and what it leaves of the hot
knobs when it fails. -/
namespace Trimtab.VllmReinit
open PyText Effects VllmScheduler

/-- The values of `cache_config` and `scheduler_config` that a reinit may change. -/
structure Config where
  gpuMemoryUtilization : PyFloat
  maxNumSeqs : Int
  maxNumBatchedTokens : Int
  deriving DecidableEq

/-- `waiting`: the scheduler has requests that do not run, or finished ones to report. -/
structure Engine where
  enableSleepMode : Bool
  waiting : Bool
  config : Config
  numGpuBlocks : Option Int
  sched : Sched
  deriving DecidableEq

/-- What the workers make of one attempt: they release the KV cache and build it anew. The builder
also makes the new scheduler, and gives the number of blocks. -/
structure Attempt where
  release : Except PyErr Unit
  build : Config → Except PyErr Int

/-- The dict that the call returns, without its timings, the memory freed and the echo of the
fields. -/
structure Reply where
  ok : Bool
  error : Option String
  restored : Option Config
  numGpuBlocks : Option Int
  maxNumSeqs : Option Int
  deriving DecidableEq

def refusal (text : String) : Reply := ⟨false, some text, none, none, none⟩

def hasRequests (e : Engine) : Bool := e.sched.running ≠ 0 || e.waiting

def allowed : List String := ["gpu_memory_utilization", "max_num_seqs", "max_num_batched_tokens"]

/-- `sorted(set(fields) - allowed)` -/
def notAllowed (fields : Fields) : List String :=
  (fields.keys.filter fun k => !allowed.contains k).insertionSort (· ≤ ·)

/-- `type(old)(vllm_config=..., ...)`: the caps come from the scheduler's config, which also holds
the threshold, and nothing that the patch has put on the old scheduler is on the new one. -/
def newScheduler (e : Engine) : Sched where
  running := 0
  maxNumRunningReqs := e.config.maxNumSeqs
  maxNumScheduledTokens := e.config.maxNumBatchedTokens
  longPrefillTokenThreshold := e.sched.longPrefillTokenThreshold
  logLevel := none
  ceilings := none
  pendingMaxNumSeqs := none

def assign {α : Type} (values : Fields) (key : String) (convert : Json → Except PyErr α)
    (write : α → Config → Config) : EStateM PyErr Engine Unit :=
  match values.get? key with
  | none => pure ()
  | some v => do
    let x ← ofExcept (convert v)
    modify fun e => { e with config := write x e.config }

def configure (values : Fields) : EStateM PyErr Engine Unit := do
  assign values "gpu_memory_utilization" Json.asFloat fun x c => { c with gpuMemoryUtilization := x }
  assign values "max_num_seqs" Json.asInt fun n c => { c with maxNumSeqs := n }
  assign values "max_num_batched_tokens" Json.asInt fun n c => { c with maxNumBatchedTokens := n }

/-- `_initialize_kv_caches`, and the scheduler that is made for its result. -/
def construct (attempt : Attempt) : EStateM PyErr Engine Int := do
  modify fun e => { e with numGpuBlocks := none }
  let blocks ← ofExcept (attempt.build (← get).config)
  modify fun e => { e with numGpuBlocks := some blocks, sched := newScheduler e }
  return blocks

def rebuild (attempt : Attempt) (values : Fields) : EStateM PyErr Engine Int := do
  configure values
  construct attempt

def previous (c : Config) : Fields :=
  ⟨[("gpu_memory_utilization", .float c.gpuMemoryUtilization), ("max_num_seqs", .int c.maxNumSeqs),
    ("max_num_batched_tokens", .int c.maxNumBatchedTokens)], by simp⟩

/-- The `except` branch: the previous sizing `c` is built again. -/
def restore (again : Attempt) (c : Config) (err : PyErr) :
    EStateM PyErr Engine (Int × Option (String × Config)) := do
  ofExcept again.release
  return (← rebuild again (previous c), some (err.str, c))

/-- What follows a rebuild: the ceilings are those of the new scheduler. -/
def finish (blocks : Int) (failure : Option (String × Config)) : EStateM PyErr Engine Reply := do
  modify fun e => { e with sched := recordCeilings e.sched }
  return ⟨failure.isNone, failure.map Prod.fst, failure.map Prod.snd, some blocks,
    some (← get).sched.maxNumRunningReqs⟩

def resize (first again : Attempt) (fields : Fields) : EStateM PyErr Engine Reply := do
  let c := (← get).config
  ofExcept first.release
  let (blocks, failure) ← rescue (do return (← rebuild first fields, none)) (restore again c)
  finish blocks failure

def trimtabReinit (first again : Attempt) (fields : Fields) : EStateM PyErr Engine Reply := do
  let e ← get
  if notAllowed fields ≠ [] then
    return refusal ("not warm-reinitable: " ++ reprList (notAllowed fields))
  else if !e.enableSleepMode then
    return refusal "warm reinit needs the server launched with --enable-sleep-mode"
  else if hasRequests e then return refusal "engine busy, drain before a warm reinit"
  else resize first again fields

/-! ## What a call leaves -/

section Calls

variable {first again : Attempt} {fields : Fields} {e : Engine}

/-- Nothing is touched before these are checked. -/
def Refused (e : Engine) (fields : Fields) : Prop :=
  notAllowed fields ≠ [] ∨ e.enableSleepMode = false ∨ hasRequests e = true

theorem refused_run (first again : Attempt) (h : Refused e fields) :
    ∃ text, (trimtabReinit first again fields).run e = .ok (refusal text) e := by
  unfold trimtabReinit
  simp only [EStateM.run_bind, EStateM.run_get]
  by_cases hkeys : notAllowed fields ≠ []
  · rw [if_pos hkeys]
    exact ⟨_, rfl⟩
  by_cases hsleep : e.enableSleepMode = false
  · rw [if_neg hkeys, hsleep]
    exact ⟨_, rfl⟩
  · rw [Bool.not_eq_false] at hsleep
    have hbusy : hasRequests e = true := by simpa [Refused, hkeys, hsleep] using h
    rw [if_neg hkeys, hsleep, hbusy]
    exact ⟨_, rfl⟩

theorem admitted_run (h : ¬Refused e fields) :
    (trimtabReinit first again fields).run e = (resize first again fields).run e := by
  rw [Refused, not_or, not_or, Bool.not_eq_false, Bool.not_eq_true] at h
  obtain ⟨hkeys, hsleep, hidle⟩ := h
  unfold trimtabReinit
  simp only [EStateM.run_bind, EStateM.run_get]
  rw [if_neg hkeys, hsleep, hidle]
  rfl

def SameSched (e t : Engine) : Prop := t.sched = e.sched

theorem sameSched_refl (e : Engine) : SameSched e e := rfl

theorem sameSched_trans ⦃e t u : Engine⦄ (h : SameSched e t) (h' : SameSched t u) :
    SameSched e u := Eq.trans h' h

theorem respects_assign {α : Type} (values : Fields) (key : String)
    (convert : Json → Except PyErr α) (write : α → Config → Config) :
    Respects SameSched (assign values key convert write) := by
  unfold assign
  cases values.get? key with
  | none => exact respects_pure sameSched_refl ()
  | some v =>
    exact respects_bind sameSched_trans (respects_ofExcept sameSched_refl _) fun _ _ => rfl

theorem respects_configure (values : Fields) : Respects SameSched (configure values) :=
  respects_bind sameSched_trans (respects_assign _ _ _ _) fun _ =>
    respects_bind sameSched_trans (respects_assign _ _ _ _) fun _ => respects_assign _ _ _ _

theorem construct_ok {attempt : Attempt} {blocks : Int} (h : attempt.build e.config = .ok blocks) :
    (construct attempt).run e = .ok blocks
      { e with numGpuBlocks := some blocks, sched := newScheduler e } := by
  unfold construct
  simp only [EStateM.run_bind, EStateM.run_modify, EStateM.run_get, ofExcept_run, h]
  rfl

theorem construct_error {attempt : Attempt} {err : PyErr}
    (h : attempt.build e.config = .error err) :
    (construct attempt).run e = .error err { e with numGpuBlocks := none } := by
  unfold construct
  simp only [EStateM.run_bind, EStateM.run_modify, EStateM.run_get, ofExcept_run, h]

/-- An attempt that fails has not replaced the scheduler. -/
theorem rebuild_error {attempt : Attempt} {values : Fields} {err : PyErr} {t : Engine}
    (h : (rebuild attempt values).run e = .error err t) : t.sched = e.sched := by
  have hframe := respects_configure values e
  rw [rebuild, EStateM.run_bind] at h
  cases hconf : (configure values).run e with
  | error err' t' =>
    rw [hconf] at h
    cases h
    rwa [final_of_error hconf] at hframe
  | ok u t' =>
    rw [hconf] at h
    rw [final_of_ok hconf] at hframe
    change (construct attempt).run t' = _ at h
    cases hbuild : attempt.build t'.config with
    | ok blocks =>
      rw [construct_ok hbuild] at h
      cases h
    | error err' =>
      rw [construct_error hbuild] at h
      cases h
      exact hframe

theorem configure_previous (c : Config) :
    (configure (previous c)).run e = .ok () { e with config := c } := by
  have hutil : (previous c).get? "gpu_memory_utilization" = some (.float c.gpuMemoryUtilization) :=
    rfl
  have hseqs : (previous c).get? "max_num_seqs" = some (.int c.maxNumSeqs) := rfl
  have hbatched : (previous c).get? "max_num_batched_tokens" = some (.int c.maxNumBatchedTokens) :=
    rfl
  simp only [configure, assign, hutil, hseqs, hbatched]
  rfl

/-- The scheduler that a reinit leaves: new, with the ceilings of its own caps. -/
def resized (e : Engine) : Sched := recordCeilings (newScheduler e)

/-- Where a reinit that was not refused can end. -/
inductive Ended (e : Engine) : EStateM.Result PyErr Engine Reply → Prop where
  | raised (err : PyErr) (t : Engine) : Ended e (.error err t)
  | resized (reply : Reply) (t : Engine) (ok : reply.ok = true) : Ended e (.ok reply t)
  | restored (reply : Reply) (t : Engine) (ok : reply.ok = false)
      (sched : t.sched = resized e) : Ended e (.ok reply t)

/-- Only the threshold of the old scheduler, which is the config's, has a part in the new one. -/
theorem newScheduler_congr {t : Engine} (hconfig : t.config = e.config)
    (hsched : t.sched = e.sched) : newScheduler t = newScheduler e := by
  rw [newScheduler, newScheduler, hconfig, hsched]

theorem rebuild_previous (again : Attempt) (c : Config) :
    (rebuild again (previous c)).run e = (construct again).run { e with config := c } := by
  rw [rebuild, EStateM.run_bind, configure_previous]

theorem restore_ok {again : Attempt} {c : Config} {blocks : Int}
    (hrelease : again.release = .ok ()) (hbuild : again.build c = .ok blocks) (err : PyErr) :
    (restore again c err).run e = .ok (blocks, some (err.str, c)) { e with
      config := c, numGpuBlocks := some blocks, sched := newScheduler { e with config := c } } := by
  rw [restore, EStateM.run_bind, ofExcept_run, hrelease]
  dsimp only
  rw [EStateM.run_bind, rebuild_previous, construct_ok hbuild]
  rfl

theorem restore_raises {again : Attempt} {c : Config} (e : Engine)
    (h : ∀ blocks, again.release = .ok () → again.build c ≠ .ok blocks) (err : PyErr) :
    ∃ err' t, (restore again c err).run e = .error err' t := by
  rw [restore, EStateM.run_bind, ofExcept_run]
  cases hrelease : again.release with
  | error err' => exact ⟨err', e, rfl⟩
  | ok u =>
    dsimp only
    rw [EStateM.run_bind, rebuild_previous]
    cases hbuild : again.build c with
    | error err' =>
      rw [construct_error hbuild]
      exact ⟨err', _, rfl⟩
    | ok blocks => exact absurd hbuild (h blocks hrelease)

theorem resize_run (fields : Fields) (again : Attempt) (hrelease : first.release = .ok ()) :
    (resize first again fields).run e =
      (rescue (do return (← rebuild first fields, none)) (restore again e.config) >>=
        fun p => finish p.1 p.2).run e := by
  rw [resize, EStateM.run_bind, EStateM.run_get]
  dsimp only
  rw [EStateM.run_bind, ofExcept_run, hrelease]

theorem resize_built (again : Attempt) (hrelease : first.release = .ok ()) {blocks : Int}
    {t : Engine} (hrebuild : (rebuild first fields).run e = .ok blocks t) :
    (resize first again fields).run e = (finish blocks none).run t := by
  have hfirst : (do return (← rebuild first fields, none) :
      EStateM PyErr Engine (Int × Option (String × Config))).run e = .ok (blocks, none) t := by
    rw [EStateM.run_bind, hrebuild]
    rfl
  rw [resize_run fields again hrelease, EStateM.run_bind, rescue_of_ok hfirst]

theorem resize_failed (again : Attempt) (hrelease : first.release = .ok ()) {err : PyErr}
    {t : Engine} (hrebuild : (rebuild first fields).run e = .error err t) :
    (resize first again fields).run e =
      (restore again e.config err >>= fun p => finish p.1 p.2).run t := by
  rw [resize_run fields again hrelease, EStateM.run_bind, rescue_of_error (error_bind hrebuild _),
    EStateM.run_bind]

/-- A rebuild that succeeds after one that failed. -/
theorem resize_restored (hrelease : first.release = .ok ()) {err : PyErr} {t : Engine}
    (hrebuild : (rebuild first fields).run e = .error err t) (hagain : again.release = .ok ())
    {blocks : Int} (hbuild : again.build e.config = .ok blocks) :
    ∃ reply u, (resize first again fields).run e = .ok reply u ∧ reply.ok = false ∧
      u.sched = resized e := by
  have hsched : t.sched = e.sched := rebuild_error hrebuild
  rw [resize_failed again hrelease hrebuild, EStateM.run_bind, restore_ok hagain hbuild]
  exact ⟨_, _, rfl, rfl, congrArg recordCeilings (newScheduler_congr rfl hsched)⟩

theorem resize_ended (first again : Attempt) (fields : Fields) (e : Engine) :
    Ended e ((resize first again fields).run e) := by
  cases hrelease : first.release with
  | error err =>
    rw [resize, EStateM.run_bind, EStateM.run_get]
    dsimp only
    rw [EStateM.run_bind, ofExcept_run, hrelease]
    exact .raised err e
  | ok u =>
    cases hrebuild : (rebuild first fields).run e with
    | ok blocks t =>
      rw [resize_built again hrelease hrebuild]
      exact .resized _ _ rfl
    | error err t =>
      by_cases hagain : ∃ blocks, again.release = .ok () ∧ again.build e.config = .ok blocks
      · obtain ⟨blocks, hagain, hbuild⟩ := hagain
        obtain ⟨reply, u, hrun, hfailed, hsched⟩ :=
          resize_restored hrelease hrebuild hagain hbuild
        rw [hrun]
        exact .restored reply u hfailed hsched
      · have hno : ∀ blocks, again.release = .ok () → again.build e.config ≠ .ok blocks :=
          fun blocks hr hb => hagain ⟨blocks, hr, hb⟩
        obtain ⟨err', t', hrun⟩ := restore_raises t hno err
        rw [resize_failed again hrelease hrebuild, error_bind hrun]
        exact .raised err' t'

/-- What a failed rebuild puts in front of a reader is what was there: no log level has been set,
and the caps in force and the ceilings on record are the config's. -/
structure ShowsConfig (e : Engine) : Prop where
  target : e.sched.pendingMaxNumSeqs.getD e.sched.maxNumRunningReqs = e.config.maxNumSeqs
  cap : e.sched.maxNumRunningReqs = e.config.maxNumSeqs
  tokens : e.sched.maxNumScheduledTokens = e.config.maxNumBatchedTokens
  logLevel : e.sched.logLevel = none
  ceilings : e.sched.ceilings = some ⟨e.config.maxNumSeqs, e.config.maxNumBatchedTokens⟩

theorem showsConfig_iff (hidle : e.sched.running = 0) :
    ShowsConfig e ↔ trimtabGetKnobs (resized e) = trimtabGetKnobs e.sched := by
  rw [trimtabGetKnobs, trimtabGetKnobs, Readout.mk.injEq]
  constructor
  · intro h
    exact ⟨h.target.symm, h.cap.symm, h.tokens.symm, rfl, h.logLevel.symm, hidle.symm,
      h.ceilings.symm⟩
  · rintro ⟨target, cap, tokens, -, logLevel, -, ceilings⟩
    exact ⟨target.symm, cap.symm, tokens.symm, logLevel.symm, ceilings.symm⟩

theorem idle_of_admitted (h : ¬Refused e fields) : e.sched.running = 0 := by
  by_contra hrunning
  exact h (.inr (.inr (by simp [hasRequests, hrunning])))

def exhausted : Attempt := ⟨.ok (), fun _ => .error (.runtimeError "CUDA out of memory")⟩

def willing (blocks : Int) : Attempt := ⟨.ok (), fun _ => .ok blocks⟩

theorem exhausted_rebuild (fields : Fields) (e : Engine) :
    ∃ err t, (rebuild exhausted fields).run e = .error err t := by
  rw [rebuild, EStateM.run_bind]
  cases (configure fields).run e with
  | error err t => exact ⟨err, t, rfl⟩
  | ok u t => exact ⟨_, _, construct_error rfl⟩

/-- A failed reinit changes nothing that a reader sees, whatever the reason for the failure, exactly
when it is refused or the scheduler shows the config. -/
theorem failed_reinit_unseen_iff (e : Engine) (fields : Fields) :
    (∀ (first again : Attempt) (reply : Reply) (t : Engine),
      (trimtabReinit first again fields).run e = .ok reply t → reply.ok = false →
        trimtabGetKnobs t.sched = trimtabGetKnobs e.sched) ↔
      Refused e fields ∨ ShowsConfig e := by
  constructor
  · intro hall
    by_contra hno
    rw [not_or] at hno
    obtain ⟨err, u, hrebuild⟩ := exhausted_rebuild fields e
    obtain ⟨reply, t, hrun, hfailed, hsched⟩ : ∃ reply t,
        (resize exhausted (willing 1) fields).run e = .ok reply t ∧ reply.ok = false ∧
          t.sched = resized e := resize_restored rfl hrebuild rfl rfl
    rw [← admitted_run hno.1] at hrun
    have hseen := hall _ _ _ _ hrun hfailed
    rw [hsched] at hseen
    exact hno.2 ((showsConfig_iff (idle_of_admitted hno.1)).mpr hseen)
  · intro hcond first again reply t hrun hfailed
    by_cases hrefused : Refused e fields
    · obtain ⟨text, hrun'⟩ := refused_run first again hrefused
      rw [hrun] at hrun'
      injection hrun' with _ hsame
      rw [hsame]
    · have hshows := hcond.resolve_left hrefused
      have hended := resize_ended first again fields e
      rw [admitted_run hrefused] at hrun
      rw [hrun] at hended
      cases hended with
      | resized _ _ ok =>
        rw [hfailed] at ok
        cases ok
      | restored _ _ _ sched =>
        rw [sched]
        exact (showsConfig_iff (idle_of_admitted hrefused)).mp hshows

end Calls

/-! ## Knobs that are lost -/

def booted : Engine :=
  ⟨true, false, ⟨.fin (9 / 10), 32, 2048⟩, some 4096, ⟨0, 32, 2048, 0, none, none, none⟩⟩

def hot : Fields := ⟨[("max_num_seqs", .int 8), ("log_level", .str "debug")], by decide⟩

def tuned : Engine := { booted with sched := (handled hot booted.sched).sched }

def larger : Fields := ⟨[("gpu_memory_utilization", .float (.fin (99 / 100)))], by simp⟩

/-- The KV cache does not fit, the old sizing is built again, and the cap is the config's. -/
theorem tuned_knobs_lost : ¬∀ (e : Engine) (fields : Fields) (first again : Attempt)
    (reply : Reply) (t : Engine), (trimtabReinit first again fields).run e = .ok reply t →
      reply.ok = false → trimtabGetKnobs t.sched = trimtabGetKnobs e.sched := by
  intro hall
  have hreply : value? (trimtabReinit exhausted (willing 4096) larger) tuned =
      some ⟨false, some "CUDA out of memory", some booted.config, some 4096, some 32⟩ := by
    decide +kernel
  have hsame := hall tuned larger exhausted (willing 4096) _ _ (value?_eq_some_iff.mp hreply) rfl
  revert hsame
  decide +kernel

end Trimtab.VllmReinit
