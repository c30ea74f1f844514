import Mathlib.Algebra.Order.Field.Rat
import Mathlib.Algebra.Order.Ring.Abs
import Trimtab.MockKnobs
import Trimtab.MockReinit
import Trimtab.Runs

set_option autoImplicit false

/-!
# The stand-in and the patched engine core

Both are sent the same requests. Requests that the two take alike keep a relation between them
that their readings can be told from.
-/
namespace Trimtab.MockEngine
open PyText Effects VllmScheduler VllmEngine VllmReinit
open SglangScheduler (isReinit)

structure Both where
  engine : Engine
  mock : State

/-- The attempts of a reinit are what the workers of the engine make of it. -/
inductive Request where
  | setKnobs (knobs : Fields)
  | reinit (first again : Attempt) (fields : Fields)

def step (b : Both) : Request → Both
  | .setKnobs knobs =>
    ⟨{ b.engine with sched := (handled knobs b.engine.sched).sched },
      (final (apply knobs) (begin b.mock)).state⟩
  | .reinit first again fields =>
    ⟨final (trimtabReinit first again fields) b.engine, final (reinit fields) b.mock⟩

/-- A new scheduler that takes its caps from the config, and a stand-in, with the same values. -/
def boot (enableSleepMode waiting : Bool) (utilization : PyFloat) (blocks : Option Int)
    (seqs queued chunk batched : Int) : Both where
  engine := ⟨enableSleepMode, waiting, ⟨utilization, seqs, batched⟩, blocks,
    ⟨0, seqs, batched, 0, none, none, none⟩⟩
  mock := .start "vllm" seqs queued chunk batched

/-- The values of a `set_knobs` are finite, and the engine core reports the success of a reinit. -/
def InScope (b : Both) : Request → Prop
  | .setKnobs knobs => ∀ k v, knobs.get? k = some v → VllmEngine.Finite v
  | .reinit first again fields =>
    ∃ reply t, (trimtabReinit first again fields).run b.engine = .ok reply t ∧ reply.ok = true

structure SameKeys (reply : KnobReply) (out : Dict String Json × Dict String String) : Prop where
  applied : ∀ k, (reply.applied.get? k).isSome = (out.1.get? k).isSome
  rejected : ∀ k, (reply.rejected.get? k).isSome = (out.2.get? k).isSome

def SameAnswers (b : Both) : Request → Prop
  | .setKnobs knobs =>
    ∃ reply h out call, (trimtabSetKnobs knobs).run (VllmScheduler.begin b.engine.sched) =
      .ok reply h ∧ (apply knobs).run (begin b.mock) = .ok out call ∧ SameKeys reply out
  | .reinit _ _ fields => ∃ r t, (reinit fields).run b.mock = .ok (.ok r) t

structure SameReadings (b : Both) : Prop where
  seqs : b.mock.knobs.get? "max_num_seqs" = some (.int (trimtabGetKnobs b.engine.sched).maxNumSeqs)
  batched : b.mock.knobs.get? "max_num_batched_tokens" =
    some (.int (trimtabGetKnobs b.engine.sched).maxNumBatchedTokens)
  prefill : b.mock.knobs.get? "long_prefill_token_threshold" =
    some (.int (trimtabGetKnobs b.engine.sched).longPrefillTokenThreshold)
  ceilings : ∃ c, (trimtabGetKnobs b.engine.sched).ceilings = some c ∧
    ∀ k, b.mock.ceilings.get? k = c.get? k

def Agrees (b : Both) (r : Request) : Prop := SameAnswers b r ∧ SameReadings (step b r)

/-- A request that the two take alike. Of a `set_knobs`: it has no key of a reinit, and the upper
case of a log level is a level when the lower case is that of one. Of a reinit: a cap that it does
not name has not been set to another value than the config's, and the share of the memory is
finite, also in tokens. -/
def Alike (b : Both) : Request → Prop
  | .setKnobs knobs => ∀ k v, knobs.get? k = some v → isReinit k = false ∧
      (k = "log_level" →
        levels.contains (upper v.pyStr) = (levels.map lower).contains (lower v.pyStr))
  | .reinit _ _ fields =>
    (fields.get? "max_num_seqs" = none →
      (trimtabGetKnobs b.engine.sched).maxNumSeqs = b.engine.config.maxNumSeqs) ∧
    (fields.get? "max_num_batched_tokens" = none →
      (trimtabGetKnobs b.engine.sched).maxNumBatchedTokens = b.engine.config.maxNumBatchedTokens) ∧
    ∀ v, fields.get? "gpu_memory_utilization" = some v →
      ∃ q, v.asFloat = .ok (.fin q) ∧ 16384 * |q| < PyFloat.overflow

structure Related (b : Both) : Prop where
  engine : b.mock.engine = "vllm"
  contains : ∀ k, b.mock.knobs.contains k = vllmKnobs.contains k
  ceilings : b.mock.ceilings = ceilingDict (ceilingsOf b.engine.sched)
  config : ceilingsOf b.engine.sched =
    ⟨b.engine.config.maxNumSeqs, b.engine.config.maxNumBatchedTokens⟩
  knobs : ∀ k, k ≠ "log_level" → b.mock.knobs.get? k = live b.engine.sched k

theorem toInt?_int (n : Int) : (Json.int n).toInt? = some n := by
  change (PyFloat.fin n).toInt.toOption = some n
  rw [PyFloat.toInt_intCast]
  rfl

theorem get?_knobsOf_vllm (seqs queued chunk batched : Int) (k : String) :
    (knobsOf "vllm" seqs queued chunk batched).get? k =
      if k = "log_level" then some (.str "INFO")
      else if k = "long_prefill_token_threshold" then some (.int 0)
      else if k = "max_num_batched_tokens" then some (.int batched)
      else if k = "max_num_seqs" then some (.int seqs) else none := by
  rw [knobsOf, if_neg (by decide)]
  unfold Dict.ofList
  simp only [List.foldl_cons, List.foldl_nil, Dict.get?_insert, Dict.get?_empty]

theorem related_boot (enableSleepMode waiting : Bool) (utilization : PyFloat) (blocks : Option Int)
    (seqs queued chunk batched : Int) :
    Related (boot enableSleepMode waiting utilization blocks seqs queued chunk batched) where
  engine := rfl
  contains k := by
    change ((knobsOf "vllm" seqs queued chunk batched).get? k).isSome = _
    rw [get?_knobsOf_vllm, vllmKnobs, List.contains_eq_mem]
    split_ifs with hlevel hprefill hbatched hseqs
    · rw [hlevel]
      rfl
    · rw [hprefill]
      rfl
    · rw [hbatched]
      rfl
    · rw [hseqs]
      rfl
    · simp [*]
  ceilings := by
    refine (Dict.mk.injEq ..).mpr ?_
    change [("max_num_seqs", Json.int seqs), ("max_num_batched_tokens", Json.int batched),
      ("long_prefill_token_threshold", Json.int 0), ("log_level", Json.str "INFO")].filterMap _ =
        [("max_num_seqs", seqs), ("max_num_batched_tokens", batched)]
    simp [toInt?_int, capped]
  config := rfl
  knobs k hk := by
    change (knobsOf "vllm" seqs queued chunk batched).get? k = _
    rw [get?_knobsOf_vllm, if_neg hk]
    unfold live
    by_cases hseqs : k = "max_num_seqs"
    · subst hseqs
      rfl
    by_cases hbatched : k = "max_num_batched_tokens"
    · subst hbatched
      rfl
    · simp only [hseqs, hbatched, hk, if_false]
      rfl

variable {b : Both}

/-- The readings that follow, once the ceilings are on record. -/
theorem sameReadings_of_related (h : Related b) {c : Ceilings} (hc : b.engine.sched.ceilings = some c) :
    SameReadings b where
  seqs := (h.knobs _ (by decide)).trans rfl
  batched := (h.knobs _ (by decide)).trans rfl
  prefill := (h.knobs _ (by decide)).trans rfl
  ceilings := by
    refine ⟨c, hc, fun k => ?_⟩
    rw [h.ceilings, ceilingDict_get?, ceilingsOf, hc]
    rfl

theorem context_of_related (h : Related b) :
    Context (ceilingsOf b.engine.sched) (begin b.mock) := ⟨h.engine, h.ceilings, h.contains⟩

/-! ### `set_knobs` -/

section SetKnobs

variable {knobs : Fields}

theorem accepts_eq_takes {s : Sched} {k : String} {v : Json} (hlevel : k = "log_level" →
    levels.contains (upper v.pyStr) = (levels.map lower).contains (lower v.pyStr)) :
    accepts (ceilingsOf s) k v = takes s k v := by
  unfold accepts takes
  split_ifs with hprefill hlog
  · rfl
  · exact (hlevel hlog).symm
  · rfl

theorem settled_applied {c : Ceilings} {k : String} {v : Json} {old new : Slot}
    (h : Settled c k v old new) (hold : old.applied = none) :
    new.applied.isSome = accepts c k v := by
  unfold Settled at h
  split_ifs at h with ha
  · rw [h, ha]
    rfl
  · obtain ⟨text, rfl⟩ := h
    rw [Bool.not_eq_true] at ha
    rw [hold, ha]
    rfl

theorem settled_rejected {c : Ceilings} {k : String} {v : Json} {old new : Slot}
    (h : Settled c k v old new) (hold : old.rejected = none) :
    new.rejected.isSome = !accepts c k v := by
  unfold Settled at h
  split_ifs at h with ha
  · rw [h, ha]
    exact congrArg Option.isSome hold
  · obtain ⟨text, rfl⟩ := h
    rw [Bool.not_eq_true] at ha
    rw [ha]
    rfl

/-- What the two make of a request that has no key of a reinit. -/
theorem plain_runs (h : Related b) (hfin : ∀ k v, knobs.get? k = some v → VllmEngine.Finite v)
    (hplain : ∀ k, (knobs.get? k).isSome → isReinit k = false) :
    ∃ reply t call, (trimtabSetKnobs knobs).run (VllmScheduler.begin b.engine.sched) = .ok reply t ∧
      (apply knobs).run (begin b.mock) = .ok (call.applied, call.rejected) call ∧
      (SameKeys reply (call.applied, call.rejected) ↔ ∀ k v, knobs.get? k = some v →
        takes b.engine.sched k v = accepts (ceilingsOf b.engine.sched) k v) := by
  obtain ⟨reply, t, hrun, -, -, -, happlied, hrejected⟩ := setKnobs_run hfin b.engine.sched
  obtain ⟨call, hcall, -, hsettled, hrest⟩ := apply_run (context_of_related h) hplain hfin
  refine ⟨reply, t, call, hrun, hcall, fun hsame k v hk => ?_, fun hsame => ⟨fun k => ?_, fun k => ?_⟩⟩
  · have hkey := hsame.applied k
    rw [happlied, hk, Option.any_some] at hkey
    rw [hkey]
    exact settled_applied (hsettled k v hk) rfl
  · rw [happlied]
    cases hk : knobs.get? k with
    | none => exact (congrArg (fun o : Slot => o.applied.isSome) (hrest k hk)).symm
    | some v =>
      rw [Option.any_some, hsame k v hk]
      exact (settled_applied (hsettled k v hk) rfl).symm
  · rw [hrejected]
    cases hk : knobs.get? k with
    | none => exact (congrArg (fun o : Slot => o.rejected.isSome) (hrest k hk)).symm
    | some v =>
      rw [Option.any_some, hsame k v hk]
      exact (settled_rejected (hsettled k v hk) rfl).symm

/-- The two judge every value alike exactly when they do so of a log level. -/
theorem takes_eq_accepts_iff {s : Sched} :
    (∀ k v, knobs.get? k = some v → takes s k v = accepts (ceilingsOf s) k v) ↔
      ∀ k v, knobs.get? k = some v → k = "log_level" →
        levels.contains (upper v.pyStr) = (levels.map lower).contains (lower v.pyStr) := by
  constructor
  · rintro h k v hk rfl
    exact h _ v hk
  · exact fun h k v hk => (accepts_eq_takes (h k v hk)).symm

theorem takes_reinit (s : Sched) {k : String} (hk : isReinit k = true) (v : Json) :
    takes s k v = false := by
  have hne : ∀ key, isReinit key = false → k ≠ key := by
    rintro key hkey rfl
    rw [hk] at hkey
    cases hkey
  simp only [takes, Ceilings.get?, hne _ (by decide : isReinit "long_prefill_token_threshold" = false),
    hne _ (by decide : isReinit "log_level" = false),
    hne _ (by decide : isReinit "max_num_seqs" = false),
    hne _ (by decide : isReinit "max_num_batched_tokens" = false), if_false]

/-- The answers have the same keys exactly when the two take the request alike. -/
theorem sameAnswers_setKnobs_iff (h : Related b)
    (hfin : ∀ k v, knobs.get? k = some v → VllmEngine.Finite v) :
    SameAnswers b (.setKnobs knobs) ↔ Alike b (.setKnobs knobs) := by
  constructor
  · rintro ⟨reply, t, out, call, hrun, hcall, hsame⟩
    have hplain : ∀ k v, knobs.get? k = some v → isReinit k = false := fun k v hk => by
      by_contra hre
      rw [Bool.not_eq_false] at hre
      obtain ⟨reply', t', hrun', -, -, -, -, hrejected⟩ := setKnobs_run hfin b.engine.sched
      rw [hrun] at hrun'
      have hkey := hsame.rejected k
      rw [(EStateM.Result.ok.inj hrun').1, hrejected, apply_ignores hcall hre, hk, Option.any_some,
        takes_reinit _ hre] at hkey
      cases hkey
    obtain ⟨reply', t', call', hrun', hcall', hiff⟩ := plain_runs h hfin fun k hk => by
      obtain ⟨v, hv⟩ := Option.isSome_iff_exists.mp hk
      exact hplain k v hv
    rw [hrun] at hrun'
    rw [hcall] at hcall'
    rw [← (EStateM.Result.ok.inj hrun').1, ← (EStateM.Result.ok.inj hcall').1] at hiff
    exact fun k v hk => ⟨hplain k v hk, takes_eq_accepts_iff.mp (hiff.mp hsame) k v hk⟩
  · intro halike
    obtain ⟨reply, t, call, hrun, hcall, hiff⟩ := plain_runs h hfin fun k hk => by
      obtain ⟨v, hv⟩ := Option.isSome_iff_exists.mp hk
      exact (halike k v hv).1
    exact ⟨reply, t, _, call, hrun, hcall,
      hiff.mpr (takes_eq_accepts_iff.mpr fun k v hk => (halike k v hk).2)⟩

theorem related_setKnobs (h : Related b)
    (hfin : ∀ k v, knobs.get? k = some v → VllmEngine.Finite v)
    (halike : Alike b (.setKnobs knobs)) :
    Related (step b (.setKnobs knobs)) ∧
      (step b (.setKnobs knobs)).engine.sched.ceilings = some (ceilingsOf b.engine.sched) := by
  obtain ⟨reply, t, hrun, hceil, -, hlive, -, -⟩ := setKnobs_run hfin b.engine.sched
  obtain ⟨call, hcall, hctx, hsettled, hrest⟩ := apply_run (context_of_related h) (fun k hk => by
    obtain ⟨v, hv⟩ := Option.isSome_iff_exists.mp hk
    exact (halike k v hv).1) hfin
  have hstep : step b (.setKnobs knobs) = ⟨{ b.engine with sched := t.sched }, call.state⟩ := by
    rw [step, handled, final_of_ok hrun, final_of_ok hcall]
  rw [hstep]
  have hsame : ceilingsOf t.sched = ceilingsOf b.engine.sched := by
    rw [ceilingsOf, hceil]
    rfl
  refine ⟨⟨hctx.engine, hctx.knobs, ?_, hsame.trans h.config, fun k hk => ?_⟩, hceil⟩
  · rw [hsame]
    exact hctx.ceilings
  · change (slot call k).knob = live t.sched k
    rw [hlive]
    cases hv : knobs.get? k with
    | none =>
      rw [hrest k hv]
      exact h.knobs k hk
    | some v =>
      have hset := hsettled k v hv
      rw [Settled, accepts_eq_takes (halike k v hv).2] at hset
      simp only
      split_ifs at hset ⊢ with htakes
      · rw [hset]
      · obtain ⟨text, hslot⟩ := hset
        rw [hslot]
        exact h.knobs k hk

end SetKnobs

/-! ### `reinit` -/

section Reinit

variable {fields : Fields} {t : Engine}

theorem nearest_finite {q : Rat} : (∃ r, PyFloat.nearest q = .fin r) ↔ |q| < PyFloat.overflow := by
  have hden : (0 : Rat) < q.den := by exact_mod_cast q.den_pos
  rw [PyFloat.nearest_finite_iff, Rat.abs_def, Rat.divInt_eq_div, Int.cast_natCast, Int.cast_natCast,
    div_lt_iff₀ hden]
  exact_mod_cast Iff.rfl

theorem share_ok_iff {v : Json} {x : PyFloat} (hx : v.asFloat = .ok x) :
    (∃ n, share v = .ok n) ↔ ∃ q, v.asFloat = .ok (.fin q) ∧ 16384 * |q| < PyFloat.overflow := by
  have hshare : share v = (PyFloat.times 16384 x).toInt := by
    rw [share, hx]
    rfl
  rw [hshare, hx]
  cases x with
  | fin q =>
    have hscaled : 16384 * |q| = |16384 * q| := by
      rw [abs_mul, abs_of_pos (by decide : (0 : Rat) < 16384)]
    have hfin : (∃ q', (Except.ok (.fin q) : Except PyErr PyFloat) = .ok (.fin q') ∧
        16384 * |q'| < PyFloat.overflow) ↔ 16384 * |q| < PyFloat.overflow := by
      constructor
      · rintro ⟨q', hq, hlt⟩
        cases hq
        exact hlt
      · exact fun hlt => ⟨q, rfl, hlt⟩
    rw [hfin, hscaled, ← nearest_finite]
    change (∃ n, (PyFloat.nearest (16384 * q)).toInt = .ok n) ↔ _
    cases PyFloat.nearest (16384 * q) with
    | fin r => exact ⟨fun _ => ⟨r, rfl⟩, fun _ => ⟨_, rfl⟩⟩
    | inf neg => exact ⟨fun ⟨_, h⟩ => (by cases h), fun ⟨_, h⟩ => (by cases h)⟩
    | nan => exact ⟨fun ⟨_, h⟩ => (by cases h), fun ⟨_, h⟩ => (by cases h)⟩
  | inf neg => exact ⟨fun ⟨_, h⟩ => (by cases h), fun ⟨_, h, _⟩ => (by cases h)⟩
  | nan => exact ⟨fun ⟨_, h⟩ => (by cases h), fun ⟨_, h, _⟩ => (by cases h)⟩

theorem sameAnswers_reinit_iff (h : Related b) (ht : Reinited fields b.engine t)
    (first again : Attempt) : SameAnswers b (.reinit first again fields) ↔
      ∀ v, fields.get? "gpu_memory_utilization" = some v →
        ∃ q, v.asFloat = .ok (.fin q) ∧ 16384 * |q| < PyFloat.overflow := by
  refine (reinit_returns_iff h.engine ht.allowed ht.config.seqs ht.config.batched).trans ?_
  refine forall_congr' fun v => imp_congr_right fun hv => ?_
  obtain ⟨x, hx⟩ := ht.config.utilization v hv
  exact share_ok_iff hx

/-- The knob of a cap and the config agree after a reinit when the cap is named, or did before. -/
theorem named_iff {key : String} (hconv : Converts fields key) (shown old : Int) :
    (if (fields.get? key).isSome then some (Json.int (named fields key 0)) else some (.int shown)) =
      some (.int (named fields key old)) ↔ (fields.get? key = none → shown = old) := by
  cases hv : fields.get? key with
  | none => simp [named_absent hv]
  | some v =>
    obtain ⟨n, hn⟩ := hconv v hv
    simp [named_given hv hn]

/-- The knobs of the stand-in after a reinit. -/
theorem knob_reinit (h : Related b) (ht : Reinited fields b.engine t) (first again : Attempt)
    (k : String) : (step b (.reinit first again fields)).mock.knobs.get? k =
      if k = "max_num_batched_tokens" ∧ (fields.get? "max_num_batched_tokens").isSome then
        some (.int (named fields "max_num_batched_tokens" 0))
      else if k = "max_num_seqs" ∧ (fields.get? "max_num_seqs").isSome then
        some (.int (named fields "max_num_seqs" 0))
      else b.mock.knobs.get? k := by
  obtain ⟨-, hknobs, -⟩ := reinit_sameKnobs h.engine ht.allowed ht.config.seqs ht.config.batched
  change (final (reinit fields) b.mock).knobs.get? k = _
  rw [hknobs, resizedTo_knob ht.config.batched, resizedTo_knob ht.config.seqs]

theorem ceilings_reinit (h : Related b) (ht : Reinited fields b.engine t) (first again : Attempt) :
    (step b (.reinit first again fields)).mock.ceilings =
      ceilingDict ⟨t.config.maxNumSeqs, t.config.maxNumBatchedTokens⟩ := by
  obtain ⟨-, -, hceil⟩ := reinit_sameKnobs h.engine ht.allowed ht.config.seqs ht.config.batched
  change (final (reinit fields) b.mock).ceilings = _
  rw [hceil, resizedTo_ceilings _ h.ceilings, h.config, ht.config.maxNumSeqs,
    ht.config.maxNumBatchedTokens]

/-- A cap shows the same on both after a reinit when it is named, or was the config's. -/
theorem seqs_reinit_iff (h : Related b) (ht : Reinited fields b.engine t) (first again : Attempt) :
    (step b (.reinit first again fields)).mock.knobs.get? "max_num_seqs" =
      some (.int t.config.maxNumSeqs) ↔ (fields.get? "max_num_seqs" = none →
        (trimtabGetKnobs b.engine.sched).maxNumSeqs = b.engine.config.maxNumSeqs) := by
  rw [knob_reinit h ht, ht.config.maxNumSeqs, ← named_iff ht.config.seqs,
    h.knobs "max_num_seqs" (by decide)]
  simp [live]

theorem batched_reinit_iff (h : Related b) (ht : Reinited fields b.engine t)
    (first again : Attempt) :
    (step b (.reinit first again fields)).mock.knobs.get? "max_num_batched_tokens" =
      some (.int t.config.maxNumBatchedTokens) ↔ (fields.get? "max_num_batched_tokens" = none →
        (trimtabGetKnobs b.engine.sched).maxNumBatchedTokens =
          b.engine.config.maxNumBatchedTokens) := by
  rw [knob_reinit h ht, ht.config.maxNumBatchedTokens, ← named_iff ht.config.batched,
    h.knobs "max_num_batched_tokens" (by decide)]
  simp [live, trimtabGetKnobs]

theorem step_reinit {first again : Attempt} {reply : Reply}
    (hrun : (trimtabReinit first again fields).run b.engine = .ok reply t) :
    (step b (.reinit first again fields)).engine = t := final_of_ok hrun

theorem agrees_reinit_iff (h : Related b) {first again : Attempt}
    (hscope : InScope b (.reinit first again fields)) :
    Agrees b (.reinit first again fields) ↔ Alike b (.reinit first again fields) := by
  obtain ⟨reply, t, hrun, hok⟩ := hscope
  have ht := reinited_of_ok hrun hok
  have hsched : (step b (.reinit first again fields)).engine.sched = _ :=
    (congrArg Engine.sched (step_reinit hrun)).trans ht.sched
  have hprefill : (step b (.reinit first again fields)).mock.knobs.get?
      "long_prefill_token_threshold" =
        some (.int b.engine.sched.longPrefillTokenThreshold) := by
    rw [knob_reinit h ht]
    exact h.knobs _ (by decide)
  have hreadings : SameReadings (step b (.reinit first again fields)) ↔
      (step b (.reinit first again fields)).mock.knobs.get? "max_num_seqs" =
        some (.int t.config.maxNumSeqs) ∧
      (step b (.reinit first again fields)).mock.knobs.get? "max_num_batched_tokens" =
        some (.int t.config.maxNumBatchedTokens) := by
    constructor
    · intro hsame
      have hseqs := hsame.seqs
      have hbatched := hsame.batched
      rw [hsched] at hseqs hbatched
      exact ⟨hseqs, hbatched⟩
    · rintro ⟨hseqs, hbatched⟩
      refine ⟨?_, ?_, ?_, ⟨t.config.maxNumSeqs, t.config.maxNumBatchedTokens⟩, ?_, fun k => ?_⟩
      · rw [hsched]
        exact hseqs
      · rw [hsched]
        exact hbatched
      · rw [hsched]
        exact hprefill
      · rw [hsched]
        rfl
      · rw [ceilings_reinit h ht, ceilingDict_get?]
  rw [Agrees, sameAnswers_reinit_iff h ht, hreadings, seqs_reinit_iff h ht, batched_reinit_iff h ht,
    Alike]
  tauto

theorem related_reinit (h : Related b) {first again : Attempt}
    (hscope : InScope b (.reinit first again fields))
    (halike : Alike b (.reinit first again fields)) :
    Related (step b (.reinit first again fields)) := by
  obtain ⟨reply, t, hrun, hok⟩ := hscope
  have ht := reinited_of_ok hrun hok
  have hsched : (step b (.reinit first again fields)).engine.sched = _ :=
    (congrArg Engine.sched (step_reinit hrun)).trans ht.sched
  have hconfig : (step b (.reinit first again fields)).engine.config = t.config :=
    congrArg Engine.config (step_reinit hrun)
  refine ⟨?_, fun k => ?_, ?_, ?_, fun k hk => ?_⟩
  · exact (reinit_sameKnobs h.engine ht.allowed ht.config.seqs ht.config.batched).1.trans (by
      rw [resizedTo_engine, resizedTo_engine]
      exact h.engine)
  · unfold Dict.contains
    rw [knob_reinit h ht]
    split_ifs with hbatched hseqs
    · rw [hbatched.1]
      rfl
    · rw [hseqs.1]
      rfl
    · exact h.contains k
  · rw [ceilings_reinit h ht, hsched]
    rfl
  · rw [hsched, hconfig]
    rfl
  · rw [hsched]
    by_cases hseqs : k = "max_num_seqs"
    · subst hseqs
      exact (seqs_reinit_iff h ht first again).mpr halike.1
    by_cases hbatched : k = "max_num_batched_tokens"
    · subst hbatched
      exact (batched_reinit_iff h ht first again).mpr halike.2.1
    · rw [knob_reinit h ht, if_neg fun hb => hbatched hb.1, if_neg fun hs => hseqs hs.1,
        h.knobs k hk]
      simp only [live, hseqs, hbatched, hk, if_false]
      rfl

end Reinit

/-! ## Runs -/

theorem agrees_iff (h : Related b) {r : Request} (hscope : InScope b r) :
    Agrees b r ↔ Alike b r := by
  cases r with
  | setKnobs knobs =>
    rw [Agrees, sameAnswers_setKnobs_iff h hscope, and_iff_left_iff_imp]
    intro halike
    obtain ⟨hrelated, hceil⟩ := related_setKnobs h hscope halike
    exact sameReadings_of_related hrelated hceil
  | reinit first again fields => exact agrees_reinit_iff h hscope

theorem related_step (h : Related b) {r : Request} (hscope : InScope b r) (halike : Alike b r) :
    Related (step b r) := by
  cases r with
  | setKnobs knobs => exact (related_setKnobs h hscope halike).1
  | reinit first again fields => exact related_reinit h hscope halike

/-- From the same boot values, the two answer every request of a run with the same keys and read
back the same after it exactly when they take every request of it alike. -/
theorem stand_in_faithful_iff (enableSleepMode waiting : Bool) (utilization : PyFloat)
    (blocks : Option Int) (seqs queued chunk batched : Int) (requests : List Request)
    (hscope : Runs.Along step InScope
      (boot enableSleepMode waiting utilization blocks seqs queued chunk batched) requests) :
    Runs.Along step Agrees
      (boot enableSleepMode waiting utilization blocks seqs queued chunk batched) requests ↔
    Runs.Along step Alike
      (boot enableSleepMode waiting utilization blocks seqs queued chunk batched) requests :=
  Runs.along_congr_while (fun _ _ h => related_step h) (fun _ _ h => agrees_iff h) hscope
    (related_boot enableSleepMode waiting utilization blocks seqs queued chunk batched)

def started : Both := boot true false (.fin (9 / 10)) (some 4096) 32 1024 8192 2048

def sized : Fields := ⟨[("max_num_seqs", .int 64), ("max_num_batched_tokens", .int 4096)], by decide⟩

theorem hot_inScope (b : Both) : InScope b (.setKnobs hot) :=
  Dict.forall_get?_iff.mpr <| List.forall_mem_cons.mpr ⟨VllmExact.finite_iff.mpr nofun,
    List.forall_mem_singleton.mpr (VllmExact.finite_iff.mpr nofun)⟩

theorem inScope_reinit {b : Both} {first again : Attempt} {fields : Fields} (reply : Reply)
    (h : value? (trimtabReinit first again fields) b.engine = some reply) (hok : reply.ok = true) :
    InScope b (.reinit first again fields) :=
  ⟨reply, final (trimtabReinit first again fields) b.engine, value?_eq_some_iff.mp h, hok⟩

theorem sized_agrees :
    Runs.Along step Agrees started [.setKnobs hot, .reinit (willing 8192) (willing 4096) sized] := by
  have hscope : Runs.Along step InScope started
      [.setKnobs hot, .reinit (willing 8192) (willing 4096) sized] := by
    refine ⟨hot_inScope _, inScope_reinit ⟨true, none, none, some 8192, some 64⟩ ?_ rfl,
      trivial⟩
    decide +kernel
  have hhot : Alike started (.setKnobs hot) :=
    Dict.forall_get?_iff.mpr <| List.forall_mem_cons.mpr ⟨⟨by decide, fun h => absurd h (by decide)⟩,
      List.forall_mem_singleton.mpr ⟨by decide, fun _ => by decide +kernel⟩⟩
  have hsized : Alike (step started (.setKnobs hot))
      (.reinit (willing 8192) (willing 4096) sized) := by
    refine ⟨fun h => ?_, fun h => ?_, fun v h => ?_⟩
    · cases h
    · cases h
    · cases h
  exact (stand_in_faithful_iff true false (.fin (9 / 10)) (some 4096) 32 1024 8192 2048 _
    hscope).mpr ⟨hhot, hsized, trivial⟩

/-- A reinit that does not name a cap which a knob has lowered: the engine core builds its scheduler
with the config's cap, and the stand-in keeps the lowered one. -/
theorem lowered_cap_misread : ¬∀ requests : List Request,
    Runs.Along step InScope started requests → Runs.Along step Agrees started requests := by
  intro hall
  have hscope : Runs.Along step InScope started
      [.setKnobs hot, .reinit (willing 8192) (willing 4096) larger] := by
    refine ⟨hot_inScope _, inScope_reinit ⟨true, none, none, some 8192, some 32⟩ ?_ rfl,
      trivial⟩
    decide +kernel
  have hseqs := (hall _ hscope).2.1.2.seqs
  revert hseqs
  decide +kernel

end Trimtab.MockEngine
