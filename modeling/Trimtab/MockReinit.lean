import Trimtab.MockApply
import Trimtab.VllmReinit

set_option autoImplicit false

/-! What the stand-in and the patched engine core make of one and the same `reinit` request. -/
namespace Trimtab.MockEngine
open PyText Effects VllmScheduler VllmReinit

/-- A cap after a reinit: the value named for it, or the one it had. -/
def named (fields : Fields) (key : String) (old : Int) : Int :=
  ((fields.get? key).bind fun v => v.asInt.toOption).getD old

def Converts (fields : Fields) (key : String) : Prop :=
  ∀ v, fields.get? key = some v → ∃ n, v.asInt = .ok n

theorem named_absent {fields : Fields} {key : String} (h : fields.get? key = none) (old : Int) :
    named fields key old = old := by
  rw [named, h]
  rfl

theorem named_given {fields : Fields} {key : String} {v : Json} {n : Int}
    (hv : fields.get? key = some v) (hn : v.asInt = .ok n) (old : Int) :
    named fields key old = n := by
  rw [named, hv, Option.bind_some, hn]
  rfl

/-! ### On the engine core -/

section Engine

variable {first again : Attempt} {fields : Fields} {e t : Engine}

theorem assign_ok {α : Type} {key : String} {convert : Json → Except PyErr α}
    {write : α → Config → Config} {u : Unit}
    (h : (assign fields key convert write).run e = .ok u t) :
    (fields.get? key = none ∧ t = e) ∨
      ∃ v x, fields.get? key = some v ∧ convert v = .ok x ∧ t = { e with config := write x e.config } := by
  unfold assign at h
  cases hv : fields.get? key with
  | none =>
    rw [hv] at h
    exact .inl ⟨rfl, (EStateM.Result.ok.inj h).2.symm⟩
  | some v =>
    rw [hv] at h
    simp only at h
    rw [EStateM.run_bind, ofExcept_run] at h
    cases hx : convert v with
    | error err =>
      rw [hx] at h
      cases h
    | ok x =>
      rw [hx] at h
      exact .inr ⟨v, x, rfl, hx, (EStateM.Result.ok.inj h).2.symm⟩

/-- The cap that an assignment which returns leaves in the config. -/
theorem assign_named {key : String} {write : Int → Config → Config} {u : Unit}
    (h : (assign fields key Json.asInt write).run e = .ok u t) (old : Int)
    (hkeep : write old e.config = e.config) :
    Converts fields key ∧ t = { e with config := write (named fields key old) e.config } := by
  rcases assign_ok h with ⟨hnone, hsame⟩ | ⟨v, n, hv, hn, hset⟩
  · refine ⟨fun v hv => ?_, ?_⟩
    · rw [hnone] at hv
      cases hv
    · rw [named_absent hnone, hkeep]
      exact hsame
  · refine ⟨fun w hw => ⟨n, ?_⟩, ?_⟩
    · rw [hv] at hw
      exact Option.some.inj hw ▸ hn
    · rw [named_given hv hn]
      exact hset

structure Configured (fields : Fields) (c c' : Config) : Prop where
  utilization : ∀ v, fields.get? "gpu_memory_utilization" = some v → ∃ x, v.asFloat = .ok x
  seqs : Converts fields "max_num_seqs"
  batched : Converts fields "max_num_batched_tokens"
  maxNumSeqs : c'.maxNumSeqs = named fields "max_num_seqs" c.maxNumSeqs
  maxNumBatchedTokens :
    c'.maxNumBatchedTokens = named fields "max_num_batched_tokens" c.maxNumBatchedTokens

theorem configure_ok {u : Unit} (h : (configure fields).run e = .ok u t) :
    Configured fields e.config t.config ∧ t.sched = e.sched := by
  have hframe := respects_configure fields e
  rw [final_of_ok h] at hframe
  refine ⟨?_, hframe⟩
  unfold configure at h
  rw [EStateM.run_bind] at h
  cases hutil : (assign fields "gpu_memory_utilization" Json.asFloat fun x c =>
      { c with gpuMemoryUtilization := x }).run e with
  | error err t₁ =>
    rw [hutil] at h
    cases h
  | ok u₁ t₁ =>
    rw [hutil] at h
    simp only at h
    rw [EStateM.run_bind] at h
    cases hseqs : (assign fields "max_num_seqs" Json.asInt fun n c =>
        { c with maxNumSeqs := n }).run t₁ with
    | error err t₂ =>
      rw [hseqs] at h
      cases h
    | ok u₂ t₂ =>
      rw [hseqs] at h
      obtain ⟨hcs, rfl⟩ := assign_named hseqs t₁.config.maxNumSeqs rfl
      obtain ⟨hcb, rfl⟩ := assign_named h t₁.config.maxNumBatchedTokens rfl
      rcases assign_ok hutil with ⟨hnone, rfl⟩ | ⟨v, x, hv, hx, rfl⟩
      · exact ⟨fun w hw => (by rw [hnone] at hw; cases hw), hcs, hcb, rfl, rfl⟩
      · exact ⟨fun w hw => ⟨x, by rw [hv] at hw; exact Option.some.inj hw ▸ hx⟩, hcs, hcb, rfl, rfl⟩

structure Reinited (fields : Fields) (e t : Engine) : Prop where
  allowed : notAllowed fields = []
  config : Configured fields e.config t.config
  sched : t.sched = recordCeilings { (newScheduler e) with
    maxNumRunningReqs := t.config.maxNumSeqs
    maxNumScheduledTokens := t.config.maxNumBatchedTokens }

theorem finish_run (blocks : Int) (failure : Option (String × Config)) (e : Engine) :
    (finish blocks failure).run e = .ok
      ⟨failure.isNone, failure.map Prod.fst, failure.map Prod.snd, some blocks,
        some e.sched.maxNumRunningReqs⟩ { e with sched := recordCeilings e.sched } := rfl

/-- A resize that reports success has not come to its `except` branch. -/
theorem resize_succeeded {reply : Reply} (hrun : (resize first again fields).run e = .ok reply t)
    (hok : reply.ok = true) :
    ∃ blocks u, first.release = .ok () ∧ (rebuild first fields).run e = .ok blocks u := by
  cases hrelease : first.release with
  | error err =>
    rw [resize, EStateM.run_bind, EStateM.run_get] at hrun
    dsimp only at hrun
    rw [EStateM.run_bind, ofExcept_run, hrelease] at hrun
    cases hrun
  | ok u =>
    cases hrebuild : (rebuild first fields).run e with
    | ok blocks t' => exact ⟨blocks, t', rfl, rfl⟩
    | error err t' =>
      rw [resize_failed again hrelease hrebuild] at hrun
      cases hagain : again.release with
      | error err' =>
        have hno : ∀ n, again.release = .ok () → again.build e.config ≠ .ok n := fun _ hr => by
          rw [hagain] at hr
          cases hr
        obtain ⟨err₁, t₁, hraise⟩ := restore_raises t' hno err
        rw [error_bind hraise] at hrun
        cases hrun
      | ok w =>
        cases hbuild : again.build e.config with
        | error err' =>
          have hno : ∀ n, again.release = .ok () → again.build e.config ≠ .ok n := fun _ _ hb => by
            rw [hbuild] at hb
            cases hb
          obtain ⟨err₁, t₁, hraise⟩ := restore_raises t' hno err
          rw [error_bind hraise] at hrun
          cases hrun
        | ok blocks =>
          rw [EStateM.run_bind, restore_ok hagain hbuild] at hrun
          rw [← (EStateM.Result.ok.inj hrun).1] at hok
          cases hok

theorem reinited_of_ok {reply : Reply}
    (hrun : (trimtabReinit first again fields).run e = .ok reply t) (hok : reply.ok = true) :
    Reinited fields e t := by
  have hadmitted : ¬Refused e fields := fun hrefused => by
    obtain ⟨text, hrefusal⟩ := refused_run first again hrefused
    rw [hrefusal] at hrun
    rw [← (EStateM.Result.ok.inj hrun).1] at hok
    cases hok
  rw [admitted_run hadmitted] at hrun
  obtain ⟨blocks, u, hrelease, hrebuild⟩ := resize_succeeded hrun hok
  rw [resize_built again hrelease hrebuild, finish_run] at hrun
  obtain ⟨-, rfl⟩ := EStateM.Result.ok.inj hrun
  rw [rebuild, EStateM.run_bind] at hrebuild
  cases hconf : (configure fields).run e with
  | error err c =>
    rw [hconf] at hrebuild
    cases hrebuild
  | ok w c =>
    rw [hconf] at hrebuild
    obtain ⟨hconfig, hsched⟩ := configure_ok hconf
    change (construct first).run c = _ at hrebuild
    cases hbuild : first.build c.config with
    | error err =>
      rw [construct_error hbuild] at hrebuild
      cases hrebuild
    | ok n =>
      rw [construct_ok hbuild] at hrebuild
      obtain ⟨-, rfl⟩ := EStateM.Result.ok.inj hrebuild
      refine ⟨not_not.mp fun h => hadmitted (.inl h), hconfig, ?_⟩
      simp only [newScheduler, hsched]

end Engine

/-! ### On the stand-in -/

section Mock

variable {fields : Fields} {key : String} {m : State}

def State.resizedTo (fields : Fields) (key : String) (m : State) : State :=
  match (fields.get? key).bind fun v => v.asInt.toOption with
  | some n => m.resize key n
  | none => m

theorem whenGiven_absent {α : Type} {key : String} {convert : Json → Except PyErr α}
    {write : α → State → State} (h : fields.get? key = none) :
    (whenGiven fields key convert write).run m = .ok () m := by
  rw [whenGiven, h]
  rfl

theorem whenGiven_resize {key : String} (h : Converts fields key) :
    (whenGiven fields key Json.asInt (State.resize key)).run m = .ok () (m.resizedTo fields key) := by
  unfold State.resizedTo
  cases hv : fields.get? key with
  | none => exact whenGiven_absent hv
  | some v =>
    obtain ⟨n, hn⟩ := h v hv
    simp only [whenGiven, hv, Option.bind_some, hn]
    rfl

theorem bad_vllm (fields : Fields) : bad "vllm" fields = notAllowed fields := rfl

/-- A key that the call would refuse is not given. -/
theorem absent_of_allowed (h : notAllowed fields = []) (key : String)
    (hkey : VllmReinit.allowed.contains key = false) : fields.get? key = none := by
  rw [Dict.get?_eq_none_iff]
  intro hmem
  have hbad : key ∈ notAllowed fields := by
    rw [notAllowed, List.mem_insertionSort, List.mem_filter]
    exact ⟨hmem, by rw [hkey]; rfl⟩
  rw [h] at hbad
  cases hbad

/-- The lines of a reinit from the share of the memory on. -/
def finishReinit (fields : Fields) : EStateM PyErr State (Except String Json) := do
  whenGiven fields "gpu_memory_utilization" share fun n s => { s with tokens := n }
  let r := resized fields (← get).tokens
  modify fun s => { s with lastReinit := some r }
  return .ok r

theorem reinit_caps (hengine : m.engine = "vllm") (hallowed : notAllowed fields = [])
    (hseqs : Converts fields "max_num_seqs") (hbatched : Converts fields "max_num_batched_tokens") :
    (reinit fields).run m = (finishReinit fields).run
      ((m.resizedTo fields "max_num_seqs").resizedTo fields "max_num_batched_tokens") := by
  have hbad : bad m.engine fields = [] := by rw [hengine, bad_vllm, hallowed]
  unfold reinit
  simp only [EStateM.run_bind, EStateM.run_get, hbad, ne_eq, not_true_eq_false, if_false,
    whenGiven_absent (absent_of_allowed hallowed "max_total_tokens" rfl),
    whenGiven_absent (absent_of_allowed hallowed "max_running_requests" rfl),
    whenGiven_resize hseqs, whenGiven_resize hbatched]
  rfl

/-- A reinit of the stand-in for vLLM returns exactly when there is a share to take. -/
theorem reinit_returns_iff (hengine : m.engine = "vllm") (hallowed : notAllowed fields = [])
    (hseqs : Converts fields "max_num_seqs") (hbatched : Converts fields "max_num_batched_tokens") :
    (∃ r t, (reinit fields).run m = .ok (.ok r) t) ↔
      ∀ v, fields.get? "gpu_memory_utilization" = some v → ∃ n, share v = .ok n := by
  rw [reinit_caps hengine hallowed hseqs hbatched]
  unfold finishReinit whenGiven
  cases hv : fields.get? "gpu_memory_utilization" with
  | none => exact ⟨fun _ v hv => (by cases hv), fun _ => ⟨_, _, rfl⟩⟩
  | some v =>
    simp only [EStateM.run_bind, ofExcept_run]
    cases hshare : share v with
    | error err =>
      refine ⟨fun ⟨r, t, h⟩ => (by cases h), fun h => ?_⟩
      obtain ⟨n, hn⟩ := h v rfl
      rw [hshare] at hn
      cases hn
    | ok n => exact ⟨fun _ w hw => ⟨n, Option.some.inj hw ▸ hshare⟩, fun _ => ⟨_, _, rfl⟩⟩

def SameKnobs (s t : State) : Prop :=
  t.engine = s.engine ∧ t.knobs = s.knobs ∧ t.ceilings = s.ceilings

theorem sameKnobs_finishReinit (fields : Fields) : Respects SameKnobs (finishReinit fields) := by
  intro s
  unfold finishReinit whenGiven
  cases fields.get? "gpu_memory_utilization" with
  | none => exact ⟨rfl, rfl, rfl⟩
  | some v =>
    simp only [final_bind, EStateM.run_bind, ofExcept_run]
    cases share v with
    | error err => exact ⟨rfl, rfl, rfl⟩
    | ok n => exact ⟨rfl, rfl, rfl⟩

theorem reinit_sameKnobs (hengine : m.engine = "vllm") (hallowed : notAllowed fields = [])
    (hseqs : Converts fields "max_num_seqs") (hbatched : Converts fields "max_num_batched_tokens") :
    SameKnobs ((m.resizedTo fields "max_num_seqs").resizedTo fields "max_num_batched_tokens")
      (final (reinit fields) m) := by
  rw [final_of_run_eq (reinit_caps hengine hallowed hseqs hbatched)]
  exact sameKnobs_finishReinit fields _

theorem resizedTo_engine (fields : Fields) (key : String) (m : State) :
    (m.resizedTo fields key).engine = m.engine := by
  unfold State.resizedTo
  split
  · rfl
  · rfl

/-- The knob of a cap shows what is named for it, or what it showed. -/
theorem resizedTo_knob (hconv : Converts fields key) (k : String) :
    (m.resizedTo fields key).knobs.get? k =
      if k = key ∧ (fields.get? key).isSome then some (.int (named fields key 0))
      else m.knobs.get? k := by
  unfold State.resizedTo named
  cases hv : fields.get? key with
  | none => simp
  | some v =>
    obtain ⟨n, hn⟩ := hconv v hv
    rw [Option.bind_some, hn]
    change (m.knobs.insert key (.int n)).get? k = _
    rw [Dict.get?_insert]
    simp [Except.toOption]

theorem resizedTo_ceilings (c : Ceilings) (h : m.ceilings = ceilingDict c) :
    ((m.resizedTo fields "max_num_seqs").resizedTo fields "max_num_batched_tokens").ceilings =
      ceilingDict ⟨named fields "max_num_seqs" c.maxNumSeqs,
        named fields "max_num_batched_tokens" c.maxNumBatchedTokens⟩ := by
  have hseqs : (m.resizedTo fields "max_num_seqs").ceilings =
      ceilingDict { c with maxNumSeqs := named fields "max_num_seqs" c.maxNumSeqs } := by
    unfold State.resizedTo named
    cases (fields.get? "max_num_seqs").bind fun v => v.asInt.toOption with
    | none => exact h
    | some n =>
      change m.ceilings.insert "max_num_seqs" n = _
      rw [h]
      rfl
  unfold State.resizedTo named at hseqs ⊢
  cases (fields.get? "max_num_batched_tokens").bind fun v => v.asInt.toOption with
  | none => exact hseqs
  | some n =>
    change Dict.insert _ "max_num_batched_tokens" n = _
    rw [hseqs]
    rfl

end Mock

end Trimtab.MockEngine
