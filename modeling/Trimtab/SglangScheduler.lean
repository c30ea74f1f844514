import Trimtab.Manifest
import Trimtab.Effects

set_option autoImplicit false

/-! The code that the patch puts into SGLang's scheduler: the hot knobs, and the branch that
hands what they leave of a request to the stock allowlist. -/
namespace Trimtab.SglangScheduler
open PyText Effects

/-- `new_token_ratio_tracker` -/
structure RatioTracker where
  init : PyFloat
  min : PyFloat
  decay : PyFloat
  current : PyFloat
  deriving DecidableEq

/-- The attributes of the scheduler that the patch reads or writes. `policy` is the effective
policy, `treeCache` the tree that the policy object holds. -/
structure Sched where
  maxRunningRequests : Int
  maxQueuedRequests : Option Int
  chunkedPrefillSize : Option Int
  maxPrefillTokens : Int
  maxTotalNumTokens : Int
  policy : String
  treeCache : Nat
  schedulePolicy : String
  newTokenRatioTracker : RatioTracker
  conservativeness : Option PyFloat
  logLevel : Option String
  ceilings : Option Int
  lastReinit : Json
  deriving DecidableEq

/-- What `trimtab_reinit` answers: its verdict, and the dict as a message shows it. -/
structure Reinit where
  ok : Bool
  text : String

/-- The code that the patch calls, and the stock handler it falls through to. The handler
updates a rank exactly when it takes all it is given. -/
structure Stock where
  trimtabReinit : Fields → EStateM PyErr Sched Reinit
  validateAndAdjustPolicy : String → Nat → Except String String
  initNewTokenRatio : { q : Rat // 0 < q }
  minNewTokenRatioFactor : { q : Rat // 0 < q }
  newTokenRatioDecaySteps : { n : Nat // 0 < n }
  stock : Fields → Sched → Bool × Sched
  stockTakes : Sched → Fields → String → Bool
  stock_updated : ∀ rest s, (stock rest s).1 = true ↔
    ∀ k v, rest.get? k = some v → stockTakes s rest k = true

/-- What the patch makes of one knob: the scheduler it leaves or a refusal, and the message. -/
inductive Verdict where
  | applied (sched : Sched) (text : String)
  | rejected (text : String)

/-! ## The knobs -/

def intKnob (key : String) (inRange : Int → Bool) (range : String) (write : Int → Sched)
    (v : Json) : Except PyErr Verdict :=
  let refusal := .rejected ("trimtab rejected " ++ key ++ "=" ++ v.pyStr ++ ", " ++ range)
  match v.num? with
  | none => .ok refusal
  | some x => do
    let n ← x.toInt
    if inRange n then
      return .applied (write n) ("trimtab applied " ++ key ++ "=" ++ toString n)
    return refusal

def maxRunningRequests (v : Json) (s : Sched) : Except PyErr Verdict :=
  match s.ceilings with
  | none => .error (.attributeError "'Scheduler' object has no attribute '_trimtab_ceilings'")
  | some ceiling =>
    intKnob "max_running_requests" (fun n => 1 ≤ n ∧ n ≤ ceiling)
      ("valid range is 1.." ++ toString ceiling ++ " (the boot allocation)")
      (fun n => { s with maxRunningRequests := n }) v

def maxQueuedRequests (v : Json) (s : Sched) : Except PyErr Verdict :=
  intKnob "max_queued_requests" (0 ≤ ·) "must be >= 0"
    (fun n => { s with maxQueuedRequests := some n }) v

def chunkedPrefillSize (v : Json) (s : Sched) : Except PyErr Verdict :=
  intKnob "chunked_prefill_size" (0 < ·) "must be > 0"
    (fun n => { s with chunkedPrefillSize := some n }) v

def maxPrefillTokens (v : Json) (s : Sched) : Except PyErr Verdict :=
  intKnob "max_prefill_tokens" (fun n => 1 ≤ n ∧ n ≤ s.maxTotalNumTokens)
    ("valid range is 1.." ++ toString s.maxTotalNumTokens ++ " (the KV pool)")
    (fun n => { s with maxPrefillTokens := n }) v

section Knobs

variable (R : Stock)

def schedulePolicy (v : Json) (s : Sched) : Except PyErr Verdict :=
  match R.validateAndAdjustPolicy v.pyStr s.treeCache with
  | .error e => .ok (.rejected ("trimtab rejected schedule_policy=" ++ v.pyStr ++ ", " ++ e))
  | .ok new => .ok (.applied { s with policy := new, schedulePolicy := v.pyStr }
      ("trimtab applied schedule_policy=" ++ v.pyStr ++ " (effective " ++ new ++ ")"))

def rebuild (x : PyFloat) : RatioTracker :=
  let init := (x.scale R.initNewTokenRatio).capOne
  let min := (init.scale R.minNewTokenRatioFactor).capOne
  ⟨init, min, (init.sub min).scale (1 / R.newTokenRatioDecaySteps.val), init⟩

def scheduleConservativeness (v : Json) (s : Sched) : Except PyErr Verdict :=
  if v.num?.all PyFloat.nonpos then
    .ok (.rejected ("trimtab rejected schedule_conservativeness=" ++ v.pyStr ++ ", must be > 0"))
  else do
    let x ← v.toFloat
    let t := rebuild R x
    return .applied { s with newTokenRatioTracker := t, conservativeness := some x }
      ("trimtab applied schedule_conservativeness=" ++ v.pyStr ++ " (new_token_ratio init " ++
        formatNum3f t.init ++ " min " ++ formatNum3f t.min ++ ")")

end Knobs

def logLevels : List String := ["DEBUG", "INFO", "WARNING", "ERROR"]

def logLevel (v : Json) (s : Sched) : Except PyErr Verdict :=
  let level := upper v.pyStr
  if !(logLevels.contains level) then
    .ok (.rejected ("trimtab rejected log_level=" ++ level ++
      ", must be DEBUG, INFO, WARNING or ERROR"))
  else .ok (.applied { s with logLevel := some level } ("trimtab applied log_level=" ++ level))

/-- A call of `_trimtab_apply_hot_knobs`: the scheduler, the request it consumes, its verdict
and its messages. -/
structure Handling where
  sched : Sched
  args : Fields
  ok : Bool
  msgs : List String
  deriving DecidableEq

abbrev HandlerM := EStateM PyErr Handling

def consume (key : String) (handle : Json → Sched → Except PyErr Verdict) : HandlerM Unit := do
  match (← get).args.get? key with
  | none => return
  | some v =>
    modify fun h => { h with args := h.args.erase key }
    match ← ofExcept (handle v (← get).sched) with
    | .applied sched text => modify fun h => { h with sched := sched, msgs := h.msgs ++ [text] }
    | .rejected text => modify fun h => { h with ok := false, msgs := h.msgs ++ [text] }

/-! ## The call -/

def isReinit (k : String) : Bool := "reinit.".toList.isPrefixOf k.toList

/-- `{k[7:]: args.pop(k) for k in list(args) if k.startswith("reinit.")}` -/
def reinitFields (args : Fields) : Fields :=
  .ofList ((args.filter fun k _ => isReinit k).entries.map fun p =>
    (String.ofList (p.1.toList.drop 7), p.2))

def recordCeilings (s : Sched) : Sched :=
  { s with ceilings := some (s.ceilings.getD s.maxRunningRequests) }

def begin (request : Fields) (s : Sched) : Handling := ⟨recordCeilings s, request, true, []⟩

section Call

variable (R : Stock)

def applyReinit : HandlerM Unit := do
  let fields := reinitFields (← get).args
  modify fun h => { h with args := h.args.filter fun k _ => !isReinit k }
  if !fields.entries.isEmpty then
    let r ← zoom Handling.sched (fun sched h => { h with sched := sched }) (R.trimtabReinit fields)
    modify fun h => { h with ok := h.ok && r.ok, msgs := h.msgs ++ ["trimtab reinit " ++ r.text] }

/-- The knobs in the order in which the patch looks for them. -/
def hotKnobs : List (String × (Json → Sched → Except PyErr Verdict)) :=
  [("max_running_requests", maxRunningRequests), ("max_queued_requests", maxQueuedRequests),
    ("chunked_prefill_size", chunkedPrefillSize), ("max_prefill_tokens", maxPrefillTokens),
    ("schedule_policy", schedulePolicy R),
    ("schedule_conservativeness", scheduleConservativeness R), ("log_level", logLevel)]

def applyHotKnobs : HandlerM Unit := do
  applyReinit R
  (hotKnobs R).forM fun p => consume p.1 p.2

def setInternalState (request : Fields) : EStateM PyErr Sched Bool := fun s =>
  match (applyHotKnobs R).run (begin request s) with
  | .error e h => .error e h.sched
  | .ok _ h =>
    if h.args.entries.isEmpty then .ok h.ok h.sched
    else
      let (updated, sched) := R.stock h.args h.sched
      .ok updated sched

variable {R}

theorem setInternalState_error {request : Fields} {s : Sched} {e : PyErr} {h : Handling}
    (hcall : (applyHotKnobs R).run (begin request s) = .error e h) :
    (setInternalState R request).run s = .error e h.sched := by
  change setInternalState R request s = _
  rw [setInternalState, hcall]

theorem setInternalState_ok {request : Fields} {s : Sched} {u : Unit} {h : Handling}
    (hcall : (applyHotKnobs R).run (begin request s) = .ok u h) :
    (setInternalState R request).run s =
      if h.args.entries.isEmpty then .ok h.ok h.sched
      else .ok (R.stock h.args h.sched).1 (R.stock h.args h.sched).2 := by
  change setInternalState R request s = _
  rw [setInternalState, hcall]

end Call

/-! ## The handler, key by key -/

def live (s : Sched) (key : String) : Option Json :=
  if key = "max_running_requests" then some (.int s.maxRunningRequests)
  else if key = "max_queued_requests" then some ((s.maxQueuedRequests.map Json.int).getD .null)
  else if key = "chunked_prefill_size" then some ((s.chunkedPrefillSize.map Json.int).getD .null)
  else if key = "max_prefill_tokens" then some (.int s.maxPrefillTokens)
  else if key = "schedule_policy" then some (.str s.schedulePolicy)
  else if key = "schedule_conservativeness" then
    some ((s.conservativeness.map Json.float).getD .null)
  else if key = "log_level" then some ((s.logLevel.map Json.str).getD .null)
  else none

def hotKeys : List String :=
  ["max_running_requests", "max_queued_requests", "chunked_prefill_size", "max_prefill_tokens",
    "schedule_policy", "schedule_conservativeness", "log_level"]

theorem live_eq_none {s : Sched} {k : String} (hk : k ∉ hotKeys) : live s k = none := by
  simp only [hotKeys, List.mem_cons, List.not_mem_nil, or_false, not_or] at hk
  obtain ⟨h₁, h₂, h₃, h₄, h₅, h₆, h₇⟩ := hk
  simp only [live, h₁, h₂, h₃, h₄, h₅, h₆, h₇, if_false]

def inRange (s : Sched) (key : String) (n : Int) : Bool :=
  if key = "max_running_requests" then s.ceilings.any fun ceiling => 1 ≤ n ∧ n ≤ ceiling
  else if key = "max_queued_requests" then 0 ≤ n
  else if key = "chunked_prefill_size" then 0 < n
  else 1 ≤ n ∧ n ≤ s.maxTotalNumTokens

section Judging

variable (R : Stock)

def takes (s : Sched) (key : String) (v : Json) : Bool :=
  if key = "schedule_policy" then (R.validateAndAdjustPolicy v.pyStr s.treeCache).isOk
  else if key = "schedule_conservativeness" then
    !(v.num?.all PyFloat.nonpos) && v.toFloat.isOk
  else if key = "log_level" then logLevels.contains (upper v.pyStr)
  else v.toInt?.any (inRange s key)

/-- Whether the patch comes to a verdict on the knob, and does not raise. -/
def decides (s : Sched) (key : String) (v : Json) : Bool :=
  if key = "schedule_policy" || key = "log_level" then true
  else if key = "schedule_conservativeness" then v.num?.all PyFloat.nonpos || v.toFloat.isOk
  else v.num?.all (fun x => x.toInt.isOk) && (key != "max_running_requests" || s.ceilings.isSome)

def stored (key : String) (v : Json) : Json :=
  if key = "schedule_policy" then .str v.pyStr
  else if key = "schedule_conservativeness" then .float (v.toFloat.toOption.getD .nan)
  else if key = "log_level" then .str (upper v.pyStr)
  else .int (v.toInt?.getD 0)

structure SameBounds (s t : Sched) : Prop where
  ceilings : t.ceilings = s.ceilings
  maxTotalNumTokens : t.maxTotalNumTokens = s.maxTotalNumTokens
  treeCache : t.treeCache = s.treeCache

structure Written (s : Sched) (key : String) (value : Json) (t : Sched) : Prop where
  bounds : SameBounds s t
  live : ∀ k, live t k = if k = key then some value else live s k

inductive Judged (s : Sched) (key : String) (v : Json) : Except PyErr Verdict → Prop where
  | raised (e : PyErr) (undecided : decides s key v = false) : Judged s key v (.error e)
  | applied (t : Sched) (text : String) (decided : decides s key v = true)
      (taken : takes R s key v = true) (written : Written s key (stored key v) t) :
      Judged s key v (.ok (.applied t text))
  | rejected (text : String) (decided : decides s key v = true)
      (refused : takes R s key v = false) : Judged s key v (.ok (.rejected text))

variable {R}

theorem judged_intKnob {s : Sched} {key : String} {v : Json} {range : String}
    {write : Int → Sched} {within : Int → Bool}
    (hdecides : decides s key v = v.num?.all fun x => x.toInt.isOk)
    (htakes : takes R s key v = v.toInt?.any within)
    (hstored : stored key v = .int (v.toInt?.getD 0))
    (hwrite : ∀ n, Written s key (.int n) (write n)) :
    Judged R s key v (intKnob key within range write v) := by
  unfold intKnob
  cases hn : v.num? with
  | none =>
    exact .rejected _ (by rw [hdecides, hn]; rfl) (by rw [htakes, Json.toInt?, hn]; rfl)
  | some x =>
    rw [hn, Option.all_some] at hdecides
    dsimp only
    cases hx : x.toInt with
    | error e =>
      rw [hx] at hdecides
      exact .raised e hdecides
    | ok n =>
      have hint : v.toInt? = some n := by rw [Json.toInt?, hn, Option.bind_some, hx]; rfl
      rw [hx] at hdecides
      rw [hint, Option.any_some] at htakes
      change Judged R s key v (if within n = true then _ else _)
      split_ifs with hrange
      · refine .applied _ _ hdecides (htakes.trans hrange) ?_
        rw [hstored, hint]
        exact hwrite n
      · exact .rejected _ hdecides (htakes.trans (Bool.eq_false_iff.mpr hrange))

theorem judged_maxRunningRequests (v : Json) (s : Sched) :
    Judged R s "max_running_requests" v (maxRunningRequests v s) := by
  unfold maxRunningRequests
  cases hc : s.ceilings with
  | none => exact .raised _ (by simp [decides, hc])
  | some ceiling =>
    refine judged_intKnob (by simp [decides, hc]) ?_ rfl fun n => ⟨⟨hc.symm, rfl, rfl⟩, fun k => ?_⟩
    · have hrange : inRange s "max_running_requests" = fun n => decide (1 ≤ n ∧ n ≤ ceiling) := by
        funext n
        simp [inRange, hc]
      rw [← hrange]
      rfl
    · unfold live
      by_cases hk : k = "max_running_requests" <;> simp only [hk, if_true, if_false]

theorem judged_maxQueuedRequests (v : Json) (s : Sched) :
    Judged R s "max_queued_requests" v (maxQueuedRequests v s) := by
  refine judged_intKnob (by simp [decides]) rfl rfl fun n => ⟨⟨rfl, rfl, rfl⟩, fun k => ?_⟩
  unfold live
  by_cases hk : k = "max_queued_requests" <;> simp only [hk, if_true, if_false]
  rfl

theorem judged_chunkedPrefillSize (v : Json) (s : Sched) :
    Judged R s "chunked_prefill_size" v (chunkedPrefillSize v s) := by
  refine judged_intKnob (by simp [decides]) rfl rfl fun n => ⟨⟨rfl, rfl, rfl⟩, fun k => ?_⟩
  unfold live
  by_cases hk : k = "chunked_prefill_size" <;> simp only [hk, if_true, if_false]
  rfl

theorem judged_maxPrefillTokens (v : Json) (s : Sched) :
    Judged R s "max_prefill_tokens" v (maxPrefillTokens v s) := by
  refine judged_intKnob (by simp [decides]) rfl rfl fun n => ⟨⟨rfl, rfl, rfl⟩, fun k => ?_⟩
  unfold live
  by_cases hk : k = "max_prefill_tokens" <;> simp only [hk, if_true, if_false]
  rfl

theorem judged_schedulePolicy (v : Json) (s : Sched) :
    Judged R s "schedule_policy" v (schedulePolicy R v s) := by
  unfold schedulePolicy
  have htakes : takes R s "schedule_policy" v =
    (R.validateAndAdjustPolicy v.pyStr s.treeCache).isOk := rfl
  cases hp : R.validateAndAdjustPolicy v.pyStr s.treeCache with
  | error e => exact .rejected _ rfl (by rw [htakes, hp]; rfl)
  | ok new =>
    refine .applied _ _ rfl (by rw [htakes, hp]; rfl) ⟨⟨rfl, rfl, rfl⟩, fun k => ?_⟩
    unfold live
    by_cases hk : k = "schedule_policy" <;> simp only [hk, if_true, if_false]
    rfl

theorem judged_scheduleConservativeness (v : Json) (s : Sched) :
    Judged R s "schedule_conservativeness" v (scheduleConservativeness R v s) := by
  unfold scheduleConservativeness
  have htakes : takes R s "schedule_conservativeness" v =
    (!(v.num?.all PyFloat.nonpos) && v.toFloat.isOk) := rfl
  have hdecides : decides s "schedule_conservativeness" v =
    (v.num?.all PyFloat.nonpos || v.toFloat.isOk) := rfl
  cases hn : v.num?.all PyFloat.nonpos with
  | true =>
    rw [hn] at htakes hdecides
    exact .rejected _ hdecides htakes
  | false =>
    rw [hn] at htakes hdecides
    cases hx : v.toFloat with
    | error e =>
      rw [hx] at hdecides
      exact .raised e hdecides
    | ok x =>
      rw [hx] at htakes hdecides
      refine .applied _ _ hdecides htakes ⟨⟨rfl, rfl, rfl⟩, fun k => ?_⟩
      unfold live
      by_cases hk : k = "schedule_conservativeness" <;> simp only [hk, if_true, if_false]
      simp [stored, hx, Except.toOption]

theorem judged_logLevel (v : Json) (s : Sched) :
    Judged R s "log_level" v (SglangScheduler.logLevel v s) := by
  unfold SglangScheduler.logLevel
  have htakes : takes R s "log_level" v = logLevels.contains (upper v.pyStr) := rfl
  cases hin : logLevels.contains (upper v.pyStr) with
  | false =>
    simp only [hin, Bool.not_false, if_true]
    exact .rejected _ rfl (htakes.trans hin)
  | true =>
    simp only [hin, Bool.not_true, Bool.false_eq_true, if_false]
    refine .applied _ _ rfl (htakes.trans hin) ⟨⟨rfl, rfl, rfl⟩, fun k => ?_⟩
    unfold live
    by_cases hk : k = "log_level" <;> simp only [hk, if_true, if_false]
    rfl

theorem hotKnobs_judged : ∀ p ∈ hotKnobs R, ∀ v s, Judged R s p.1 v (p.2 v s) := by
  simp only [hotKnobs, List.forall_mem_cons, List.not_mem_nil, false_implies, implies_true, and_true]
  exact ⟨judged_maxRunningRequests, judged_maxQueuedRequests, judged_chunkedPrefillSize,
    judged_maxPrefillTokens, judged_schedulePolicy, judged_scheduleConservativeness,
    judged_logLevel⟩

theorem takes_congr {s t : Sched} (h : SameBounds s t) : takes R t = takes R s := by
  funext key v
  have hrange : inRange t key = inRange s key := by
    funext n
    rw [inRange, inRange, h.ceilings, h.maxTotalNumTokens]
  rw [takes, takes, h.treeCache, hrange]

theorem decides_congr {s t : Sched} (h : SameBounds s t) : decides t = decides s := by
  funext key v
  rw [decides, decides, h.ceilings]

theorem SameBounds.trans {s t u : Sched} (h : SameBounds s t) (h' : SameBounds t u) :
    SameBounds s u where
  ceilings := h'.ceilings.trans h.ceilings
  maxTotalNumTokens := h'.maxTotalNumTokens.trans h.maxTotalNumTokens
  treeCache := h'.treeCache.trans h.treeCache

/-! ## The request, key after key -/

variable (R)

/-- What a reader sees of a knob after a request that had it as `v`. -/
def settled (s : Sched) (k : String) : Option Json → Option Json
  | some v => if takes R s k v then some (stored k v) else live s k
  | none => live s k

/-- What consuming `keys` does to a request: every knob is judged by what the call found. -/
inductive Consumed (keys : List String) (h : Handling) :
    EStateM.Result PyErr Handling PUnit → Prop where
  | raised (e : PyErr) (h' : Handling) (key : String) (v : Json) (mem : key ∈ keys)
      (arg : h.args.get? key = some v) (undecided : decides h.sched key v = false) :
      Consumed keys h (.error e h')
  | returned (h' : Handling)
      (decided : ∀ key ∈ keys, ∀ v, h.args.get? key = some v → decides h.sched key v = true)
      (bounds : SameBounds h.sched h'.sched)
      (args : h'.args = h.args.filter fun k _ => !keys.contains k)
      (ok : h'.ok = true ↔ h.ok = true ∧
        ∀ key ∈ keys, ∀ v, h.args.get? key = some v → takes R h.sched key v = true)
      (live : ∀ k, live h'.sched k =
        settled R h.sched k (if k ∈ keys then h.args.get? k else none)) :
      Consumed keys h (.ok () h')

variable {R}

theorem consumed_nil (h : Handling) : Consumed R [] h (.ok () h) := by
  refine .returned h (by simp) ⟨rfl, rfl, rfl⟩ ?_ (by simp) fun k => by simp [settled]
  rw [Dict.filter_eq_self]
  simp

theorem consume_absent {key : String} {handle : Json → Sched → Except PyErr Verdict}
    {h : Handling} (harg : h.args.get? key = none) : (consume key handle).run h = .ok () h := by
  unfold consume
  simp only [EStateM.run_bind, EStateM.run_get, harg]
  rfl

theorem consume_raised {key : String} {handle : Json → Sched → Except PyErr Verdict}
    {h : Handling} {v : Json} (harg : h.args.get? key = some v) {e : PyErr}
    (he : handle v h.sched = .error e) :
    (consume key handle).run h = .error e { h with args := h.args.erase key } := by
  unfold consume
  simp only [EStateM.run_bind, EStateM.run_get, harg, EStateM.run_modify, ofExcept_run, he]

theorem consume_applied {key : String} {handle : Json → Sched → Except PyErr Verdict}
    {h : Handling} {v : Json} (harg : h.args.get? key = some v) {t : Sched} {text : String}
    (he : handle v h.sched = .ok (.applied t text)) :
    (consume key handle).run h =
      .ok () { h with sched := t, args := h.args.erase key, msgs := h.msgs ++ [text] } := by
  unfold consume
  simp only [EStateM.run_bind, EStateM.run_get, harg, EStateM.run_modify, ofExcept_run, he]

theorem consume_rejected {key : String} {handle : Json → Sched → Except PyErr Verdict}
    {h : Handling} {v : Json} (harg : h.args.get? key = some v) {text : String}
    (he : handle v h.sched = .ok (.rejected text)) :
    (consume key handle).run h =
      .ok () { h with args := h.args.erase key, ok := false, msgs := h.msgs ++ [text] } := by
  unfold consume
  simp only [EStateM.run_bind, EStateM.run_get, harg, EStateM.run_modify, ofExcept_run, he]

/-- One key of a request: it is popped, and written or refused. -/
theorem consumed_one {key : String} {handle : Json → Sched → Except PyErr Verdict}
    (hj : ∀ v s, Judged R s key v (handle v s)) (h : Handling) :
    Consumed R [key] h ((consume key handle).run h) := by
  cases hv : h.args.get? key with
  | none =>
    rw [consume_absent hv]
    refine .returned h ?_ ⟨rfl, rfl, rfl⟩ ?_ ?_ fun k => ?_
    · intro key' hmem v hv'
      rw [List.mem_singleton.mp hmem, hv] at hv'
      cases hv'
    · refine (Dict.filter_eq_self fun k v hk => ?_).symm
      have hne : k ≠ key := by
        rintro rfl
        rw [hv] at hk
        cases hk
      simp [hne]
    · simp [hv]
    · by_cases hk : k = key
      · simp [hk, hv, settled]
      · simp [hk, settled]
  | some v =>
    have hargs : h.args.erase key = h.args.filter fun k _ => !([key].contains k) := by
      simp [Dict.erase]
    have hverdict := hj v h.sched
    cases hhandle : handle v h.sched with
    | error e =>
      rw [hhandle] at hverdict
      obtain ⟨_, undecided⟩ := hverdict
      rw [consume_raised hv hhandle]
      exact .raised e _ key v List.mem_cons_self hv undecided
    | ok verdict =>
      rw [hhandle] at hverdict
      cases hverdict with
      | applied t text decided taken written =>
        rw [consume_applied hv hhandle]
        refine .returned _ (by simp [hv, decided]) written.bounds hargs (by simp [hv, taken])
          fun k => ?_
        change live t k = _
        rw [written.live]
        by_cases hk : k = key
        · simp [hk, hv, settled, taken]
        · simp [hk, settled]
      | rejected text decided refused =>
        rw [consume_rejected hv hhandle]
        refine .returned _ (by simp [hv, decided]) ⟨rfl, rfl, rfl⟩ hargs (by simp [hv, refused])
          fun k => ?_
        change live h.sched k = _
        by_cases hk : k = key
        · simp [hk, hv, settled, refused]
        · simp [hk, settled]

/-- Keys consumed one after the other, the second lot among what the first has left. -/
theorem Consumed.append {ks ls : List String} (hdisjoint : ∀ k ∈ ls, k ∉ ks) {h h₁ : Handling}
    (h₁' : Consumed R ks h (.ok () h₁)) {result : EStateM.Result PyErr Handling PUnit}
    (h₂' : Consumed R ls h₁ result) : Consumed R (ks ++ ls) h result := by
  obtain _ | ⟨_, decided₁, bounds₁, args₁, ok₁, live₁⟩ := h₁'
  have hargs : ∀ k, h₁.args.get? k = if k ∈ ks then none else h.args.get? k := by
    intro k
    rw [args₁, Dict.get?_filter_key]
    by_cases hk : k ∈ ks <;> simp [hk]
  have hls : ∀ k ∈ ls, h₁.args.get? k = h.args.get? k := fun k hk => by
    rw [hargs, if_neg (hdisjoint k hk)]
  cases h₂' with
  | raised e h₂ key v mem arg undecided =>
    rw [hls key mem] at arg
    rw [decides_congr bounds₁] at undecided
    exact .raised e h₂ key v (List.mem_append_right _ mem) arg undecided
  | returned h₂ decided₂ bounds₂ args₂ ok₂ live₂ =>
    rw [takes_congr bounds₁] at ok₂
    rw [decides_congr bounds₁] at decided₂
    refine .returned h₂ ?_ (bounds₁.trans bounds₂) ?_ ?_ fun k => ?_
    · intro key hmem v hv
      rcases List.mem_append.mp hmem with hk | hl
      · exact decided₁ key hk v hv
      · exact decided₂ key hl v ((hls key hl).trans hv)
    · rw [args₂, args₁, Dict.filter_filter]
      simp only [List.contains_append, Bool.not_or]
    · rw [ok₂, ok₁, and_assoc, List.forall_mem_append]
      refine and_congr_right fun _ => and_congr_right fun _ => ?_
      exact forall₂_congr fun key hl => by rw [hls key hl]
    · rw [live₂]
      by_cases hl : k ∈ ls
      · have hlive : live h₁.sched k = live h.sched k := by
          rw [live₁, if_neg (hdisjoint k hl)]
          rfl
        simp only [hl, if_true, hls k hl, List.mem_append, or_true]
        rw [settled.eq_def, settled.eq_def, takes_congr bounds₁, hlive]
      · simp only [hl, if_false, List.mem_append, or_false]
        exact live₁ k

theorem consumed_all {ps : List (String × (Json → Sched → Except PyErr Verdict))}
    (hj : ∀ p ∈ ps, ∀ v s, Judged R s p.1 v (p.2 v s)) (hnodup : (ps.map Prod.fst).Nodup)
    (h : Handling) :
    Consumed R (ps.map Prod.fst) h ((ps.forM fun p => consume p.1 p.2).run h) := by
  induction ps generalizing h with
  | nil => exact consumed_nil h
  | cons p ps ih =>
    rw [List.map_cons, List.nodup_cons] at hnodup
    have hone := consumed_one (hj p List.mem_cons_self) h
    change Consumed R ([p.1] ++ ps.map Prod.fst) h
      ((consume p.1 p.2 >>= fun _ => ps.forM fun p => consume p.1 p.2).run h)
    rw [EStateM.run_bind]
    cases hrun : (consume p.1 p.2).run h with
    | error e h₁ =>
      rw [hrun] at hone
      obtain ⟨_, _, key, v, mem, arg, undecided⟩ := hone
      exact .raised e h₁ key v (List.mem_append_left _ mem) arg undecided
    | ok u h₁ =>
      rw [hrun] at hone
      refine Consumed.append ?_ hone (ih (fun q hq => hj q (List.mem_cons_of_mem _ hq)) hnodup.2 h₁)
      intro k hk hmem
      rw [List.mem_singleton.mp hmem] at hk
      exact hnodup.1 hk

theorem hotKnobs_keys : (hotKnobs R).map Prod.fst = hotKeys := rfl

theorem hotKnobs_consumed (h : Handling) :
    Consumed R hotKeys h (((hotKnobs R).forM fun p => consume p.1 p.2).run h) :=
  consumed_all hotKnobs_judged (by rw [hotKnobs_keys]; decide) h

end Judging

end Trimtab.SglangScheduler
