import Trimtab.HotEngine
import Trimtab.ShippedManifests
import Trimtab.VllmCap

set_option autoImplicit false

/-! The patched vLLM behind `VLLMAdapter`: an engine as the loops rely on it. -/
namespace Trimtab.VllmEngine
open VllmScheduler Effects PyText

def intOf (value : Json) : Option Int :=
  match value.num? with
  | none => none
  | some x => x.toInt.toOption

def takes (s : Sched) (key : String) (value : Json) : Bool :=
  if key = "long_prefill_token_threshold" then (intOf value).any (0 ≤ ·)
  else if key = "log_level" then
    ["DEBUG", "INFO", "WARNING", "ERROR"].contains (upper value.pyStr)
  else match (ceilingsOf s).get? key with
    | none => false
    | some ceiling => (intOf value).any fun n => 1 ≤ n ∧ n ≤ ceiling

def stored (key : String) (value : Json) : Json :=
  if key = "log_level" then .str (upper value.pyStr) else .int ((intOf value).getD 0)

/-- `read_knobs`, without the effective cap, which is not a knob. -/
def live (s : Sched) (key : String) : Option Json :=
  if key = "max_num_seqs" then some (.int (trimtabGetKnobs s).maxNumSeqs)
  else if key = "max_num_batched_tokens" then some (.int s.maxNumScheduledTokens)
  else if key = "long_prefill_token_threshold" then some (.int s.longPrefillTokenThreshold)
  else if key = "log_level" then some ((s.logLevel.map Json.str).getD .null)
  else none

/-- `VLLMAdapter.set_hot`: a handler that raised answers with a body that is not JSON. -/
def setHot (changes : Fields) : EStateM PyErr Sched ApplyResult := fun s =>
  match (trimtabSetKnobs changes).run (begin s) with
  | .ok reply h => .ok ⟨reply.ok, reply.applied, reply.rejected⟩ h.sched
  | .error _ h => .error (.valueError "Expecting value: line 1 column 1 (char 0)") h.sched

/-- What vLLM does on its own: a whole `schedule` call, with the requests that enter and leave
inside it, or a request that ends between two calls. -/
inductive Own where
  | schedule (inside : List Bool)
  | finish

def Own.events : Own → List VllmCap.Event
  | .schedule inside =>
    .beginSchedule :: inside.map (fun enters => if enters then .enter else .finish) ++ [.endSchedule]
  | .finish => [.finish]

def own (step : Own) (s : Sched) : Sched := (Runs.run VllmCap.step (.boot s) step.events).sched

/-! ## The handler, key by key -/

/-- A value that `int` accepts, if it is a number at all. -/
def Finite (value : Json) : Prop := ∀ x, value.num? = some x → ∃ n, x.toInt = .ok n

structure Handled (h : Handling) (key : String) (value : Json) (h' : Handling) : Prop where
  ceilings : h'.sched.ceilings = h.sched.ceilings
  live : ∀ k, live h'.sched k =
    if k = key ∧ takes h.sched key value then some (stored key value) else live h.sched k
  rejected : h'.rejected.entries = [] ↔ h.rejected.entries = [] ∧ takes h.sched key value = true

theorem handled_reject {h : Handling} {key : String} (text : String) {value : Json}
    (ht : takes h.sched key value = false) : Handled h key value (final (reject key text) h) where
  ceilings := rfl
  live k := by
    rw [ht]
    simp [reject, final]
  rejected := by
    rw [ht]
    simp only [Bool.false_eq_true, and_false, iff_false]
    exact Dict.insert_ne_nil _ _ _

theorem applyKnob_run (key : String) (value : Json) (write : Sched → Sched) (h : Handling) :
    (applyKnob key value write).run h = .ok () (final (applyKnob key value write) h) := rfl

theorem handled_apply {h : Handling} {key : String} {value : Json} (written : Json)
    {write : Sched → Sched} (ht : takes h.sched key value = true)
    (hceil : (write h.sched).ceilings = h.sched.ceilings)
    (hlive : ∀ k, VllmEngine.live (write h.sched) k =
      if k = key then some (stored key value) else VllmEngine.live h.sched k) :
    Handled h key value (final (applyKnob key written write) h) where
  ceilings := hceil
  live k := by
    simp only [ht, and_true]
    exact hlive k
  rejected := by
    rw [ht]
    simp [applyKnob, final]

theorem live_prefill (s : Sched) (n : Int) (k : String) :
    live { s with longPrefillTokenThreshold := n } k =
      if k = "long_prefill_token_threshold" then some (.int n) else live s k := by
  unfold live
  by_cases hk : k = "long_prefill_token_threshold"
  · subst hk
    rfl
  · simp only [hk, if_false]
    rfl

theorem live_logLevel (s : Sched) (level : String) (k : String) :
    live { s with logLevel := some level } k =
      if k = "log_level" then some (.str level) else live s k := by
  unfold live
  by_cases hk : k = "log_level"
  · subst hk
    rfl
  · simp only [hk, if_false]
    rfl

theorem live_batched (s : Sched) (n : Int) (k : String) :
    live { s with maxNumScheduledTokens := n } k =
      if k = "max_num_batched_tokens" then some (.int n) else live s k := by
  unfold live
  by_cases hk : k = "max_num_batched_tokens"
  · subst hk
    rfl
  · simp only [hk, if_false]
    rfl

theorem live_seqs (s : Sched) (n : Int) (k : String) :
    live (setMaxNumSeqs n s) k = if k = "max_num_seqs" then some (.int n) else live s k := by
  unfold live
  by_cases hk : k = "max_num_seqs"
  · subst hk
    rfl
  · simp only [hk, if_false]
    rfl

theorem intOf_eq {value : Json} {x : PyFloat} {n : Int} (hn : value.num? = some x)
    (hx : x.toInt = .ok n) : intOf value = some n := by
  simp only [intOf, hn, hx, Except.toOption]

/-- A round of the loop on a value that `int` takes: it does not raise, and writes what it takes. -/
theorem handleKnob_handled {h : Handling} {ceilings : Ceilings}
    (hc : h.sched.ceilings = some ceilings) (key : String) {value : Json} (hv : Finite value) :
    ∃ h', (handleKnob key value).run h = .ok () h' ∧ Handled h key value h' := by
  unfold handleKnob
  by_cases hprefill : key = "long_prefill_token_threshold"
  · subst hprefill
    simp only [if_true]
    cases hn : value.num? with
    | none => exact ⟨_, rfl, handled_reject _ (by simp [takes, intOf, hn])⟩
    | some x =>
      obtain ⟨n, hx⟩ := hv x hn
      have hint := intOf_eq hn hx
      simp only [EStateM.run_bind, ofExcept_run, hx]
      by_cases hlt : n < 0
      · simp only [hlt, if_true]
        exact ⟨_, rfl, handled_reject _ (by simp [takes, hint, hlt])⟩
      · have ht : takes h.sched "long_prefill_token_threshold" value = true := by
          simp [takes, hint, Int.not_lt.mp hlt]
        simp only [hlt, if_false]
        refine ⟨_, applyKnob_run _ _ _ h, handled_apply _ ht rfl fun k => ?_⟩
        rw [live_prefill]
        simp [stored, hint]
  by_cases hlevel : key = "log_level"
  · subst hlevel
    simp only [hprefill, if_false, if_true]
    have htakes : takes h.sched "log_level" value =
        ["DEBUG", "INFO", "WARNING", "ERROR"].contains (upper value.pyStr) := by
      simp only [takes, hprefill, if_false, if_true]
    cases hin : ["DEBUG", "INFO", "WARNING", "ERROR"].contains (upper value.pyStr) with
    | false =>
      simp only [Bool.not_false, if_true]
      exact ⟨_, rfl, handled_reject _ (htakes.trans hin)⟩
    | true =>
      simp only [Bool.not_true, Bool.false_eq_true, if_false]
      refine ⟨_, applyKnob_run _ _ _ h, handled_apply _ (htakes.trans hin) rfl fun k => ?_⟩
      rw [live_logLevel]
      simp only [stored, if_true]
  simp only [hprefill, hlevel, if_false, EStateM.run_bind, EStateM.run_get, hc, Option.bind_some]
  have htakes : takes h.sched key value = match ceilings.get? key with
      | none => false
      | some ceiling => (intOf value).any fun n => 1 ≤ n ∧ n ≤ ceiling := by
    simp only [takes, hprefill, hlevel, if_false, ceilingsOf, hc, Option.getD_some]
  cases hceil : ceilings.get? key with
  | none => exact ⟨_, rfl, handled_reject _ (by simp [htakes, hceil])⟩
  | some ceiling =>
    rw [hceil] at htakes
    cases hn : value.num? with
    | none => exact ⟨_, rfl, handled_reject _ (by simp [htakes, intOf, hn])⟩
    | some x =>
      obtain ⟨n, hx⟩ := hv x hn
      have hint := intOf_eq hn hx
      simp only [EStateM.run_bind, ofExcept_run, hx]
      by_cases hrange : 1 ≤ n ∧ n ≤ ceiling
      · have ht : takes h.sched key value = true := by simp [htakes, hint, hrange]
        have hstored : stored key value = .int n := by simp [stored, hlevel, hint]
        simp only [hrange, and_self, not_true_eq_false, if_false]
        by_cases hseqs : key = "max_num_seqs"
        · subst hseqs
          simp only [if_true]
          refine ⟨_, applyKnob_run _ _ _ h, handled_apply _ ht rfl fun k => ?_⟩
          rw [live_seqs, hstored]
        · have hbatched : key = "max_num_batched_tokens" := by
            by_contra hne
            simp [Ceilings.get?, hseqs, hne] at hceil
          simp only [hseqs, if_false]
          refine ⟨_, applyKnob_run _ _ _ h, handled_apply _ ht rfl fun k => ?_⟩
          rw [live_batched, hstored, hbatched]
      · simp only [hrange, not_false_eq_true, if_true]
        have ht : takes h.sched key value = false := by
          rw [htakes]
          simpa [hint] using hrange
        exact ⟨_, rfl, handled_reject _ ht⟩

theorem takes_congr {s t : Sched} (h : ceilingsOf t = ceilingsOf s) : takes t = takes s := by
  funext key value
  rw [takes, takes, h]

/-- The whole loop: every knob of the request is judged by the ceilings the call found. -/
theorem loop_handled {ps : List (String × Json)} (hnodup : (ps.map Prod.fst).Nodup)
    (hfin : ∀ p ∈ ps, Finite p.2) {h : Handling} {ceilings : Ceilings}
    (hc : h.sched.ceilings = some ceilings) :
    ∃ h', (ps.forM fun p => handleKnob p.1 p.2).run h = .ok () h' ∧
      (∀ k, live h'.sched k = match ps.lookup k with
        | some v => if takes h.sched k v then some (stored k v) else live h.sched k
        | none => live h.sched k) ∧
      (h'.rejected.entries = [] ↔
        h.rejected.entries = [] ∧ ∀ p ∈ ps, takes h.sched p.1 p.2 = true) := by
  induction ps generalizing h with
  | nil => exact ⟨h, rfl, fun k => rfl, by simp⟩
  | cons p ps ih =>
    obtain ⟨key, value⟩ := p
    rw [List.map_cons, List.nodup_cons] at hnodup
    obtain ⟨h₁, hrun₁, hh⟩ := handleKnob_handled hc key (hfin _ List.mem_cons_self)
    have hc₁ := hh.ceilings.trans hc
    obtain ⟨h₂, hrun₂, hlive, hrej⟩ := ih hnodup.2 (fun q hq => hfin q (List.mem_cons_of_mem _ hq)) hc₁
    have htakes : takes h₁.sched = takes h.sched :=
      takes_congr (by rw [ceilingsOf, hc₁, ceilingsOf, hc]; rfl)
    refine ⟨h₂, ?_, fun k => ?_, ?_⟩
    · change (handleKnob key value >>= fun _ => ps.forM fun p => handleKnob p.1 p.2).run h = _
      rw [EStateM.run_bind, hrun₁]
      exact hrun₂
    · rw [hlive k, hh.live k, htakes, List.lookup_cons]
      by_cases hk : k = key
      · subst hk
        have hnone : ps.lookup k = none := by
          rw [Option.eq_none_iff_forall_ne_some]
          intro v hv
          exact hnodup.1 (List.mem_map.mpr ⟨_, (Dict.lookup_eq_some_iff hnodup.2).mp hv, rfl⟩)
        simp [hnone]
      · simp [hk, beq_false_of_ne hk]
    · rw [hrej, hh.rejected, htakes, List.forall_mem_cons, and_assoc]

/-! ## The adapter -/

theorem finite_of_admitted {k : String} {v : Json} (h : vllmManifest.reject k v = none) :
    Finite v := by
  have htypes : ∀ p ∈ vllmManifest.knobs.entries, p.2.vtype = "int" ∨ p.2.vtype = "str" := by
    decide +kernel
  obtain ⟨knob, hknob, hcheck⟩ := reject_eq_none h
  rcases htypes _ (Dict.get?_eq_some_iff.mp hknob) with hint | hstr
  · rw [hint, if_neg (by decide)] at hcheck
    obtain ⟨hbool, hnum, -⟩ := checkNumber_eq_none hcheck
    rw [if_pos hint] at hnum
    cases v with
    | int n =>
      rintro x ⟨⟩
      exact ⟨n, PyFloat.toInt_intCast n⟩
    | bool b => cases hbool
    | _ => cases hnum
  · rw [if_pos hstr] at hcheck
    cases v with
    | str s => intro x hx; cases hx
    | _ => cases hcheck

theorem setHot_run {changes : Fields} (ha : vllmManifest.Admits changes) (s : Sched) :
    ∃ r, (setHot changes).run s = .ok r (final (setHot changes) s) ∧
      (r.ok = true ↔ ∀ k v, changes.get? k = some v → takes s k v = true) ∧
      ∀ k, live (final (setHot changes) s) k = match changes.get? k with
        | some v => if takes s k v then some (stored k v) else live s k
        | none => live s k := by
  have hfin : ∀ p ∈ changes.entries, Finite p.2 := fun p hp =>
    finite_of_admitted (ha p.1 p.2 (Dict.get?_eq_some_iff.mpr hp))
  obtain ⟨h, hrun, hlive, hrej⟩ := loop_handled (h := begin s) changes.nodup hfin rfl
  have hcall : (trimtabSetKnobs changes).run (begin s) =
      .ok ⟨h.rejected.entries.isEmpty, h.applied, h.rejected⟩ h := by
    simp only [trimtabSetKnobs, EStateM.run_bind, hrun]
    rfl
  have hset : (setHot changes).run s =
      .ok ⟨h.rejected.entries.isEmpty, h.applied, h.rejected⟩ h.sched := by
    change (match (trimtabSetKnobs changes).run (begin s) with
      | .ok reply h => _
      | .error _ h => _) = _
    rw [hcall]
  refine ⟨_, by rw [final_of_ok hset]; exact hset, ?_, fun k => ?_⟩
  · rw [List.isEmpty_iff, hrej]
    constructor
    · rintro ⟨-, hall⟩ k v hk
      exact hall _ (Dict.get?_eq_some_iff.mp hk)
    · intro hall
      exact ⟨rfl, fun p hp => hall _ _ (Dict.get?_eq_some_iff.mpr hp)⟩
  · rw [final_of_ok hset]
    exact hlive k

theorem live_prologue (s : Sched) : live (schedulePrologue s) = live s := by
  have hread : (trimtabGetKnobs (schedulePrologue s)).maxNumSeqs = (trimtabGetKnobs s).maxNumSeqs := by
    unfold schedulePrologue trimtabGetKnobs
    cases hp : s.pendingMaxNumSeqs with
    | none => simp [hp]
    | some pending => by_cases hle : (s.running : Int) ≤ pending <;> simp [hle]
  have hrest : (schedulePrologue s).maxNumScheduledTokens = s.maxNumScheduledTokens ∧
      (schedulePrologue s).longPrefillTokenThreshold = s.longPrefillTokenThreshold ∧
      (schedulePrologue s).logLevel = s.logLevel := by
    unfold schedulePrologue
    cases s.pendingMaxNumSeqs <;> exact ⟨rfl, rfl, rfl⟩
  funext key
  rw [live, live, hread, hrest.1, hrest.2.1, hrest.2.2]

theorem live_step (c : VllmCap.Core) {e : VllmCap.Event} (he : ∀ knobs, e ≠ .setKnobs knobs) :
    live (VllmCap.step c e).sched = live c.sched := by
  cases e with
  | setKnobs knobs => exact absurd rfl (he knobs)
  | beginSchedule =>
    change live c.beginSchedule.sched = live c.sched
    unfold VllmCap.Core.beginSchedule
    split_ifs
    · rfl
    · exact live_prologue c.sched
  | enter =>
    change live c.enter.sched = live c.sched
    unfold VllmCap.Core.enter
    split_ifs <;> rfl
  | finish => rfl
  | endSchedule => rfl

theorem live_own (step : Own) (s : Sched) : live (own step s) = live s := by
  have hquiet : ∀ e ∈ step.events, ∀ knobs, e ≠ .setKnobs knobs := by
    intro e he knobs heq
    subst heq
    cases step <;> simp [Own.events] at he
  exact Runs.run_invariant_along (I := fun c : VllmCap.Core => live c.sched = live s)
    (fun c e hc he => (live_step c he).trans hc) (Runs.along_of_mem hquiet) rfl

def vllm : HotEngine vllmManifest Sched Own where
  live := live
  accepts s _ := takes s
  stored := stored
  setHot := setHot
  own := own
  answers changes s ha := by
    obtain ⟨r, hr, hok, -⟩ := setHot_run ha s
    exact ⟨r, hr, hok.mp⟩
  live_after changes s ha k := by
    obtain ⟨r, -, -, hlive⟩ := setHot_run ha s
    exact hlive k
  live_own := live_own

end Trimtab.VllmEngine
