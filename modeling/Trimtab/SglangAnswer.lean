import Trimtab.SglangScheduler

set_option autoImplicit false

/-! What SGLang's answer to a request says of the keys that the patch consumed. -/
namespace Trimtab.SglangScheduler
open PyText Effects

section Answer

variable (R : Stock)

/-- What is left of a request for the stock handler. -/
def rest (request : Fields) : Fields :=
  request.filter fun k _ => !isReinit k && !hotKeys.contains k

/-- The call once the reinit keys are dealt with: the scheduler that judges the knobs. -/
def reinited (request : Fields) (s : Sched) : Handling := final (applyReinit R) (begin request s)

def handed (request : Fields) (s : Sched) : Sched :=
  (final (applyHotKnobs R) (begin request s)).sched

def applied (request : Fields) (s : Sched) (k : String) (v : Json) : Bool :=
  if isReinit k then (reinited R request s).ok
  else if hotKeys.contains k then takes R (reinited R request s).sched k v
  else R.stockTakes (handed R request s) (rest request) k

def ownApplied (request : Fields) (s : Sched) : Bool :=
  request.entries.all fun p =>
    !(isReinit p.1 || hotKeys.contains p.1) || applied R request s p.1 p.2

def stockApplied (request : Fields) (s : Sched) : Bool :=
  (rest request).entries.all fun p => R.stockTakes (handed R request s) (rest request) p.1

/-- A key that is accepted and has taken effect: the reinit was called and answered ok, the
scheduler that the patch leaves reads the knob back as stored. -/
structure Landed (request : Fields) (s : Sched) (k : String) (v : Json) : Prop where
  accepted : applied R request s k v = true
  rebuilt : isReinit k = true →
    (value? (R.trimtabReinit (reinitFields request)) (recordCeilings s)).any (·.ok) = true
  written : k ∈ hotKeys → live (handed R request s) k = some (stored k v)

variable {R}

/-! ## What the patch leaves to the stock handler -/

theorem hotKeys_not_reinit : ∀ k ∈ hotKeys, isReinit k = false := by decide

theorem applyReinit_returns {h h' : Handling} {u : Unit} (hrun : (applyReinit R).run h = .ok u h') :
    h'.args = h.args.filter fun k _ => !isReinit k := by
  unfold applyReinit at hrun
  simp only [EStateM.run_bind, EStateM.run_get, EStateM.run_modify] at hrun
  split_ifs at hrun
  · rw [EStateM.run_bind, zoom_run] at hrun
    cases hr : (R.trimtabReinit (reinitFields h.args)).run h.sched with
    | error e t =>
      simp only [hr] at hrun
      cases hrun
    | ok r t =>
      simp only [hr] at hrun
      cases hrun
      rfl
  · cases hrun
    rfl

theorem applyReinit_none {request : Fields} {s : Sched}
    (hnone : ∀ p ∈ request.entries, isReinit p.1 = false) :
    (applyReinit R).run (begin request s) = .ok () (begin request s) := by
  have hfields : reinitFields request = ∅ := by
    have hnil : (request.filter fun k _ => isReinit k).entries = [] := by
      rw [Dict.filter, List.filter_eq_nil_iff]
      exact fun p hp => Bool.eq_false_iff.mp (hnone p hp)
    rw [reinitFields, hnil]
    rfl
  have hargs : (request.filter fun k _ => !isReinit k) = request := by
    refine Dict.filter_eq_self fun k v hk => ?_
    rw [hnone (k, v) (Dict.get?_eq_some_iff.mp hk)]
    rfl
  unfold applyReinit
  simp only [EStateM.run_bind, EStateM.run_get, EStateM.run_modify, begin, hfields, hargs]
  rfl

theorem reinited_none {request : Fields} {s : Sched}
    (hnone : ∀ p ∈ request.entries, isReinit p.1 = false) :
    reinited R request s = begin request s := final_of_ok (applyReinit_none hnone)

theorem applied_hot {k : String} (hk : k ∈ hotKeys) (request : Fields) (s : Sched) (v : Json) :
    applied R request s k v = takes R (reinited R request s).sched k v := by
  rw [applied, hotKeys_not_reinit k hk]
  simp [hk]

theorem ownApplied_iff {request : Fields} {s : Sched} : ownApplied R request s = true ↔
    (reinited R request s).ok = true ∧ ∀ k ∈ hotKeys, ∀ v, request.get? k = some v →
      takes R (reinited R request s).sched k v = true := by
  rw [ownApplied, List.all_eq_true]
  constructor
  · intro hall
    refine ⟨?_, fun k hk v hv => ?_⟩
    · by_contra hreinit
      have hnone : ∀ p ∈ request.entries, isReinit p.1 = false := by
        intro p hp
        by_contra hr
        rw [Bool.not_eq_false] at hr
        have hp := hall p hp
        simp only [hr, Bool.true_or, Bool.not_true, Bool.false_or, applied, if_true] at hp
        exact hreinit hp
      rw [reinited_none hnone] at hreinit
      exact hreinit rfl
    · have hp := hall (k, v) (Dict.get?_eq_some_iff.mp hv)
      simpa [hk, applied_hot hk] using hp
  · rintro ⟨hreinit, htakes⟩ p hp
    cases hr : isReinit p.1 with
    | true => simp [applied, hr, hreinit]
    | false =>
      by_cases hk : p.1 ∈ hotKeys
      · simp [applied_hot hk, htakes p.1 hk p.2 (Dict.get?_eq_some_iff.mpr hp)]
      · simp [hk]

theorem reinitFields_ne_nil {args : Fields} {k : String} {v : Json} (hv : args.get? k = some v)
    (hk : isReinit k = true) : (reinitFields args).entries ≠ [] := by
  have hmem : (k, v) ∈ (args.filter fun k _ => isReinit k).entries :=
    Dict.mem_filter.mpr ⟨Dict.get?_eq_some_iff.mp hv, hk⟩
  exact Dict.ofList_ne_nil (List.map_eq_nil_iff.not.mpr (List.ne_nil_of_mem hmem))

/-- A call that comes through its reinit has the reinit's own verdict. -/
theorem reinit_answered {request : Fields} {s : Sched} {u : Unit} {h : Handling}
    (hrun : (applyReinit R).run (begin request s) = .ok u h)
    (hfields : (reinitFields request).entries ≠ []) :
    (value? (R.trimtabReinit (reinitFields request)) (recordCeilings s)).any (·.ok) = h.ok := by
  unfold applyReinit at hrun
  simp only [EStateM.run_bind, EStateM.run_get, EStateM.run_modify, begin] at hrun
  rw [if_pos (by simpa using hfields), EStateM.run_bind, zoom_run] at hrun
  unfold value?
  cases hr : (R.trimtabReinit (reinitFields request)).run (recordCeilings s) with
  | error e t =>
    simp only [hr] at hrun
    cases hrun
  | ok r t =>
    simp only [hr] at hrun
    cases hrun
    rfl

/-- What the knobs make of a request whose reinit has come through. -/
theorem knobs_consumed {request : Fields} {s : Sched} {u : Unit} {h : Handling}
    (hrun : (applyHotKnobs R).run (begin request s) = .ok u h) :
    (applyReinit R).run (begin request s) = .ok () (reinited R request s) ∧
      Consumed R hotKeys (reinited R request s) (.ok () h) := by
  unfold applyHotKnobs at hrun
  rw [EStateM.run_bind] at hrun
  cases hreinit : (applyReinit R).run (begin request s) with
  | error e h₁ =>
    rw [hreinit] at hrun
    cases hrun
  | ok u₁ h₁ =>
    rw [hreinit] at hrun
    have hreinited : reinited R request s = h₁ := final_of_ok hreinit
    have hconsumed := hotKnobs_consumed (R := R) h₁
    change ((hotKnobs R).forM fun p => consume p.1 p.2).run h₁ = _ at hrun
    rw [hrun] at hconsumed
    rw [hreinited]
    exact ⟨rfl, hconsumed⟩

theorem reinited_args {request : Fields} {s : Sched}
    (hreinit : (applyReinit R).run (begin request s) = .ok () (reinited R request s)) :
    ∀ k ∈ hotKeys, (reinited R request s).args.get? k = request.get? k := by
  intro k hk
  rw [applyReinit_returns hreinit, Dict.get?_filter_key, hotKeys_not_reinit k hk]
  rfl

theorem returned_own {request : Fields} {s : Sched} {u : Unit} {h : Handling}
    (hrun : (applyHotKnobs R).run (begin request s) = .ok u h) :
    h.args = rest request ∧ (h.ok = true ↔ ownApplied R request s = true) := by
  obtain ⟨hreinit, hconsumed⟩ := knobs_consumed hrun
  have hget := reinited_args hreinit
  obtain _ | ⟨_, -, -, hargs, hok, -⟩ := hconsumed
  refine ⟨?_, ?_⟩
  · rw [hargs, applyReinit_returns hreinit, Dict.filter_filter]
    rfl
  · rw [hok, ownApplied_iff]
    exact and_congr_right fun _ => forall₂_congr fun k hk => by rw [hget k hk]

/-- In a call that comes through, the keys that are accepted have taken effect. -/
theorem landed_of_applied {request : Fields} {s : Sched} {u : Unit} {h : Handling}
    (hrun : (applyHotKnobs R).run (begin request s) = .ok u h) {k : String} {v : Json}
    (hv : request.get? k = some v) (happlied : applied R request s k v = true) :
    Landed R request s k v := by
  obtain ⟨hreinit, hconsumed⟩ := knobs_consumed hrun
  have hhanded : handed R request s = h.sched := by rw [handed, final_of_ok hrun]
  refine ⟨happlied, fun hr => ?_, fun hk => ?_⟩
  · rw [reinit_answered hreinit (reinitFields_ne_nil hv hr)]
    rwa [applied, if_pos hr] at happlied
  · rw [applied_hot hk] at happlied
    have hget := reinited_args hreinit k hk
    obtain _ | ⟨_, -, -, -, -, hlive⟩ := hconsumed
    rw [hhanded, hlive, if_pos hk, hget, hv, settled, if_pos happlied]

/-! ## The answer -/

theorem setInternalState_run {request : Fields} {s : Sched} {updated : Bool} {t : Sched}
    (hrun : (setInternalState R request).run s = .ok updated t) :
    updated = true ↔
      if (rest request).entries = [] then ownApplied R request s = true
      else stockApplied R request s = true := by
  cases hcall : (applyHotKnobs R).run (begin request s) with
  | error e h =>
    rw [setInternalState_error hcall] at hrun
    cases hrun
  | ok u h =>
    have hhanded : handed R request s = h.sched := by rw [handed, final_of_ok hcall]
    obtain ⟨hargs, hok⟩ := returned_own hcall
    rw [setInternalState_ok hcall, hargs] at hrun
    by_cases hrest : (rest request).entries = []
    · rw [hrest] at hrun
      rw [if_pos hrest]
      cases hrun
      exact hok
    · rw [if_neg (by simpa using hrest)] at hrun
      rw [if_neg hrest]
      cases hrun
      rw [R.stock_updated, stockApplied, hhanded, List.all_eq_true]
      exact ⟨fun hall p hp => hall p.1 p.2 (Dict.get?_eq_some_iff.mpr hp),
        fun hall k v hk => hall (k, v) (Dict.get?_eq_some_iff.mp hk)⟩

theorem rest_entries {request : Fields} {p : String × Json} : p ∈ (rest request).entries ↔
    p ∈ request.entries ∧ (isReinit p.1 || hotKeys.contains p.1) = false := by
  rw [rest, Dict.mem_filter, Bool.or_eq_false_iff, Bool.and_eq_true, Bool.not_eq_true',
    Bool.not_eq_true']

theorem applied_rest {request : Fields} {k : String}
    (hk : (isReinit k || hotKeys.contains k) = false) (s : Sched) (v : Json) :
    applied R request s k v = R.stockTakes (handed R request s) (rest request) k := by
  rw [Bool.or_eq_false_iff] at hk
  rw [applied, hk.1, hk.2]
  rfl

/-- The keys of a request are those of the patch and those of the stock handler. -/
theorem applied_all_iff {request : Fields} {s : Sched} :
    (∀ k v, request.get? k = some v → applied R request s k v = true) ↔
      ownApplied R request s = true ∧ stockApplied R request s = true := by
  rw [ownApplied, stockApplied, List.all_eq_true, List.all_eq_true]
  constructor
  · intro hall
    refine ⟨fun p hp => ?_, fun p hp => ?_⟩
    · rw [hall p.1 p.2 (Dict.get?_eq_some_iff.mpr hp), Bool.or_true]
    · obtain ⟨hp, hk⟩ := rest_entries.mp hp
      rw [← applied_rest hk s p.2]
      exact hall p.1 p.2 (Dict.get?_eq_some_iff.mpr hp)
  · rintro ⟨hown, hstock⟩ k v hv
    have hp := Dict.get?_eq_some_iff.mp hv
    cases hk : isReinit k || hotKeys.contains k with
    | true => simpa only [hk, Bool.not_true, Bool.false_or] using hown (k, v) hp
    | false =>
      rw [applied_rest hk]
      exact hstock (k, v) (rest_entries.mpr ⟨hp, hk⟩)

/-- The rank is left as the patch leaves it, but for what the stock handler does with the rest. -/
theorem setInternalState_left {request : Fields} {s : Sched} {updated : Bool} {t : Sched}
    (hrun : (setInternalState R request).run s = .ok updated t) :
    t = if (rest request).entries = [] then handed R request s
      else (R.stock (rest request) (handed R request s)).2 := by
  cases hcall : (applyHotKnobs R).run (begin request s) with
  | error e h =>
    rw [setInternalState_error hcall] at hrun
    cases hrun
  | ok u h =>
    rw [setInternalState_ok hcall, (returned_own hcall).1] at hrun
    rw [handed, final_of_ok hcall]
    by_cases hrest : (rest request).entries = []
    · rw [hrest] at hrun
      rw [if_pos hrest]
      cases hrun
      rfl
    · rw [if_neg (by simpa using hrest)] at hrun
      rw [if_neg hrest]
      cases hrun
      rfl

theorem landed_iff_applied {request : Fields} {s : Sched} {updated : Bool} {t : Sched}
    (hrun : (setInternalState R request).run s = .ok updated t) {k : String} {v : Json}
    (hv : request.get? k = some v) : Landed R request s k v ↔ applied R request s k v = true := by
  cases hcall : (applyHotKnobs R).run (begin request s) with
  | error e h =>
    rw [setInternalState_error hcall] at hrun
    cases hrun
  | ok u h => exact ⟨fun hl => hl.accepted, landed_of_applied hcall hv⟩

/-- The answer speaks for the whole request unless the stock handler, which has the last word
on a mixed request, takes its part of it while the patch has refused a key of its own. -/
theorem answer_covers_request (R : Stock) (request : Fields) (s : Sched) {updated : Bool}
    {t : Sched} (hrun : (setInternalState R request).run s = .ok updated t) :
    ((updated = true → ∀ k v, request.get? k = some v → Landed R request s k v) ↔
      (rest request).entries = [] ∨ stockApplied R request s = false ∨
        ownApplied R request s = true) ∧
    (∀ k v, request.get? k = some v → applied R request s k v = true → Landed R request s k v) ∧
    t = if (rest request).entries = [] then handed R request s
      else (R.stock (rest request) (handed R request s)).2 := by
  have hlanded : (∀ k v, request.get? k = some v → Landed R request s k v) ↔
      ∀ k v, request.get? k = some v → applied R request s k v = true :=
    forall₂_congr fun k v => forall_congr' fun hv => landed_iff_applied hrun hv
  refine ⟨?_, fun k v hv => (landed_iff_applied hrun hv).mpr, setInternalState_left hrun⟩
  rw [setInternalState_run hrun, hlanded, applied_all_iff]
  by_cases hrest : (rest request).entries = []
  · have hstock : stockApplied R request s = true := by rw [stockApplied, hrest]; rfl
    simp [hrest, hstock]
  · rw [if_neg hrest]
    cases stockApplied R request s <;> simp [hrest]

end Answer

/-! ## A mixed request -/

def allowlist : List String :=
  ["pp_max_micro_batch_size", "speculative_accept_threshold_single",
    "speculative_accept_threshold_acc", "dspark_force_budget_frac", "dspark_clear_info_records"]

def policies : List String := ["fcfs", "lpm", "dfs-weight", "lof", "random", "priority"]

/-- A server launched without the memory saver, whose stock handler takes the whole of what it
is given or nothing. -/
def allowlisted : Stock where
  trimtabReinit _ := do
    let info : Json := .dict [("ok", .bool false),
      ("error", .str "warm reinit needs the server launched with --enable-memory-saver")]
    modify fun s => { s with lastReinit := info }
    return ⟨false, info.repr⟩
  validateAndAdjustPolicy policy _ :=
    if policies.contains policy then .ok policy
    else .error ("Unknown schedule_policy: policy=" ++ pyRepr policy)
  initNewTokenRatio := ⟨7 / 10, by decide +kernel⟩
  minNewTokenRatioFactor := ⟨14 / 100, by decide +kernel⟩
  newTokenRatioDecaySteps := ⟨600, by decide +kernel⟩
  stock rest s := (rest.keys.all allowlist.contains, s)
  stockTakes _ rest _ := rest.keys.all allowlist.contains
  stock_updated rest s := by
    refine ⟨fun h k v _ => h, fun h => ?_⟩
    cases hrest : rest.entries with
    | nil => simp [Dict.keys, hrest]
    | cons p ps => exact h p.1 p.2 (Dict.get?_eq_some_iff.mpr (by simp [hrest]))

def booted : Sched where
  maxRunningRequests := 32
  maxQueuedRequests := none
  chunkedPrefillSize := some 8192
  maxPrefillTokens := 16384
  maxTotalNumTokens := 262144
  policy := "fcfs"
  treeCache := 0
  schedulePolicy := "fcfs"
  newTokenRatioTracker := ⟨.fin (7 / 10), .fin (98 / 1000), .fin (602 / 600000), .fin (7 / 10)⟩
  conservativeness := none
  logLevel := none
  ceilings := none
  lastReinit := .null

def mixed (cap : Int) : Fields :=
  ⟨[("max_running_requests", .int cap), ("pp_max_micro_batch_size", .int 4)], by simp⟩

theorem mixed_updated (cap : Int) (h : cap = 16 ∨ cap = 1000000) :
    (setInternalState allowlisted (mixed cap)).run booted =
      .ok true (final (setInternalState allowlisted (mixed cap)) booted) := by
  rw [← value?_eq_some_iff]
  rcases h with rfl | rfl <;> decide +kernel

/-- A cap within the ceiling is applied, as the rank says. -/
theorem accepted_cap_answered_updated :
    Landed allowlisted (mixed 16) booted "max_running_requests" (.int 16) :=
  (answer_covers_request allowlisted (mixed 16) booted (mixed_updated 16 (.inl rfl))).1.mpr
    (.inr (.inr (by decide +kernel))) rfl _ _ (by decide +kernel)

/-- A cap above the ceiling: the rank says that it has updated. -/
theorem refused_cap_answered_updated : ¬ ∀ (R : Stock) (request : Fields) (s : Sched)
    (updated : Bool) (t : Sched), (setInternalState R request).run s = .ok updated t →
      updated = true → ∀ k v, request.get? k = some v → Landed R request s k v := by
  intro hall
  have happlied := (hall allowlisted (mixed 1000000) booted true _ (mixed_updated 1000000 (.inr rfl))
    rfl "max_running_requests" (.int 1000000) (by decide +kernel)).accepted
  have hnot : applied allowlisted (mixed 1000000) booted "max_running_requests" (.int 1000000) =
      false := by decide +kernel
  rw [hnot] at happlied
  cases happlied

end Trimtab.SglangScheduler
