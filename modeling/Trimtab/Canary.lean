import Trimtab.Store
import Trimtab.StoreHistory

set_option autoImplicit false

/-!
# The canary orchestrator

Metric values are exact rationals: the rounding of float sums and quotients is left out.
-/
namespace Trimtab
open PyText Effects Runs StoreHistory

abbrev PASS := "promoted"
abbrev FAIL := "reverted"

abbrev Metrics := Dict String Rat

/-- The bound a gate sets under `key`, as text, when `x` lies on the wrong side of it. -/
def Gate.broken (g : Gate) (key op : String) (x : Rat) : Except PyErr (Option String) :=
  match g.get? key with
  | none => return none
  | some bound =>
    match bound.num? with
    | none => throw (.typeError ("'" ++ op ++ "' not supported between instances of 'float' and '" ++
        bound.typeName ++ "'"))
    | some y =>
      let wrong := if op = ">" then y.lt (.fin x) else PyFloat.lt (.fin x) y
      return if wrong then some bound.pyStr else none

def lookupMetric (metrics : Metrics) : Json → Except PyErr (Option Rat)
  | .str m => return metrics.get? m
  | .list _ => throw (.typeError "unhashable type: 'list'")
  | .dict _ => throw (.typeError "unhashable type: 'dict'")
  | _ => return none

/-- One round of the loop in `evaluate`: whether the gate holds, and its finding. -/
def checkGate (g : Gate) (canaryMetrics baselineMetrics : Metrics) :
    Except PyErr (Bool × String) := do
  match g.get? "metric" with
  | none => throw (.keyError "metric")
  | some metric =>
    let m := metric.pyStr
    let c ← lookupMetric canaryMetrics metric
    let b ← lookupMetric baselineMetrics metric
    match c with
    | none => return (false, m ++ ": no canary sample, gate cannot pass")
    | some c =>
      if let some bound ← g.broken "max_abs" ">" c then
        return (false, m ++ ": canary " ++ format4g c ++ " above max_abs " ++ bound)
      if let some bound ← g.broken "min_abs" "<" c then
        return (false, m ++ ": canary " ++ format4g c ++ " below min_abs " ++ bound)
      if g.contains "max_ratio" || g.contains "min_ratio" then
        let b := b.getD 0
        if b = 0 then
          return (false, m ++ ": no usable baseline for a ratio gate")
        let r := c / b
        if let some bound ← g.broken "max_ratio" ">" r then
          return (false, m ++ ": ratio " ++ format3f r ++ " above max_ratio " ++ bound)
        if let some bound ← g.broken "min_ratio" "<" r then
          return (false, m ++ ": ratio " ++ format3f r ++ " below min_ratio " ++ bound)
      let base := match b with
        | none => "None"
        | some b => format4g b
      return (true, m ++ ": ok (canary " ++ format4g c ++ ", baseline " ++ base ++ ")")

def evaluate (gates : List Gate) (canaryMetrics baselineMetrics : Metrics) :
    Except PyErr (Bool × List String) := do
  let checks ← gates.mapM fun g => checkGate g canaryMetrics baselineMetrics
  return (checks.all (·.1), checks.map (·.2))

def mean (dicts : List Metrics) : Metrics :=
  let items := dicts.flatMap (·.entries)
  let out : Metrics := items.foldl (fun out p => out.insert p.1 ((out.get? p.1).getD 0 + p.2)) ∅
  let n : Dict String Nat := items.foldl (fun n p => n.insert p.1 ((n.get? p.1).getD 0 + 1)) ∅
  out.filterMap fun k total => (n.get? k).map fun count => total / count

/-- `sample(replica_id)`, which may answer each of its calls differently, or raise. -/
abbrev MetricsSource := Nat → String → Except PyErr Metrics

abbrev Sampler := StateT Nat (Except PyErr)

def sample (metrics : MetricsSource) (replicaId : String) : Sampler Metrics := do
  let calls ← get
  set (calls + 1)
  liftM (metrics calls replicaId)

def timeSleep (seconds : Rat) : Except PyErr Unit :=
  if seconds < 0 then .error (.valueError "sleep length must be non-negative") else .ok ()

def window (metrics : MetricsSource) (sleep : Rat → Except PyErr Unit) (gap : Rat)
    (scope base : List String) : Nat → Sampler (List Metrics × List Metrics)
  | 0 => return ([], [])
  | samples + 1 => do
    let cs ← scope.mapM (sample metrics)
    let bs ← base.mapM (sample metrics)
    liftM (sleep gap)
    let rest ← window metrics sleep gap scope base samples
    return (cs ++ rest.1, bs ++ rest.2)

structure Canary where
  group : String
  all : List String

namespace Canary

def checkScope (c : Canary) (scope : List String) : Except PyErr Unit := do
  if !(scope.all c.all.contains) then
    throw (.valueError ("scope " ++ reprList (scope.insertionSort (· ≤ ·)) ++
      " not within replicas " ++ reprList (c.all.insertionSort (· ≤ ·))))
  if c.all.all scope.contains then
    throw (.valueError "canary scope must leave at least one baseline replica")

def start (c : Canary) (candidateVersionId : Int) (scope : List String) (gates : List Gate)
    (windowS : Rat) : StoreM Int := do
  ofExcept (c.checkScope scope)
  let cid ← Store.openCanary c.group candidateVersionId scope gates windowS
  Store.setOverrides scope candidateVersionId cid
  return cid

def verdict (passed : Bool) : String := if passed then PASS else FAIL

/-- `close_canary` -/
abbrev Closing := Int → String → String → StoreM Unit

/-- `decide`, over a store that closes a canary by `close`. -/
def decideBy (close : Closing) (c : Canary) (canaryId : Int)
    (canaryMetrics baselineMetrics : Metrics) : StoreM (String × List String) := do
  let row ← Store.canary canaryId
  let (passed, findings) ← ofExcept (evaluate row.gates canaryMetrics baselineMetrics)
  Store.clearOverrides canaryId
  if passed then
    Store.promote c.group row.candidateVersionId
  close canaryId (verdict passed) (join "\n" findings)
  return (verdict passed, findings)

def decide : Canary → Int → Metrics → Metrics → StoreM (String × List String) :=
  decideBy Store.closeCanary

/-- What `observe` samples between its check of the row and its call of `decide`. -/
def collect (c : Canary) (metrics : MetricsSource) (sleep : Rat → Except PyErr Unit)
    (samples : Nat) (row : CanaryRow) : Except PyErr (Metrics × Metrics) := do
  let scope := row.scope.dedup
  let base := c.all.filter fun r => !scope.contains r
  let gap := row.windowS / max samples 1
  let (sides, _) ← (window metrics sleep gap scope base samples).run 0
  return (mean sides.1, mean sides.2)

def observeBy (close : Closing) (c : Canary) (metrics : MetricsSource)
    (sleep : Rat → Except PyErr Unit) (canaryId : Int) (samples : Nat) :
    StoreM (String × List String) := do
  let row ← Store.canary canaryId
  if row.status ≠ "observing" then
    throw (.valueError ("canary " ++ toString canaryId ++ " already " ++ row.status))
  let sides ← ofExcept (c.collect metrics sleep samples row)
  decideBy close c canaryId sides.1 sides.2

def observe : Canary → MetricsSource → (Rat → Except PyErr Unit) → Int → Nat →
    StoreM (String × List String) := observeBy Store.closeCanary

def abort (canaryId : Int) (reason : String) : StoreM Unit := do
  Store.clearOverrides canaryId
  Store.closeCanary canaryId FAIL reason

/-! ## What each call does -/

def cleared (s : Store) (canaryId : Int) : Store :=
  { s with replicaOverride := s.replicaOverride.filter fun _ o => o.canaryId ≠ canaryId }

def closed (s : Store) (canaryId : Int) (status decision : String) : Store :=
  { s with
    canaryTable := s.canaryTable.modify canaryId fun row =>
      { row with status := status, decision := decision } }

/-- The store after an `open_canary` that read `base`, and its `set_overrides`. -/
def opened (s : Store) (group : String) (base : Option ConfigVersion) (candidateId : Int)
    (scope : List String) (gates : List Gate) (windowS : Rat) : Store :=
  { s with
    canaryTable := s.canaryTable.insert
      ⟨group, candidateId, base.map (·.id), scope.insertionSort (· ≤ ·), gates, windowS,
        "observing", ""⟩
    replicaOverride := scope.foldl
      (fun t r => t.insert r ⟨candidateId, s.canaryTable.nextId⟩) s.replicaOverride }

theorem start_run (c : Canary) (s : Store) (candidateId : Int) (scope : List String)
    (gates : List Gate) (windowS : Rat) :
    (c.start candidateId scope gates windowS).run s =
      match c.checkScope scope, (Store.desired c.group).run s with
      | .error e, _ => .error e s
      | .ok _, .error e _ => .error e s
      | .ok _, .ok base _ =>
        if Store.binds s.configVersion candidateId then
          .ok s.canaryTable.nextId (opened s c.group base candidateId scope gates windowS)
        else .error Store.tooLarge s := by
  unfold start
  simp only [EStateM.run_bind, ofExcept_run]
  cases c.checkScope scope with
  | error e => rfl
  | ok u =>
    simp only [Store.openCanary_run]
    cases (Store.desired c.group).run s with
    | error e t => rfl
    | ok base t =>
      cases hbinds : Store.binds s.configVersion candidateId with
      | false => rfl
      | true =>
        simp only [if_true, Store.setOverrides_run, hbinds, true_and,
          Store.binds_row (SerialTable.get?_insert_self _ _), or_true]
        rfl

theorem clearOverrides_run {s : Store} {canaryId : Int} {row : CanaryRow}
    (h : s.canaryTable.get? canaryId = some row) :
    (Store.clearOverrides canaryId).run s = .ok () (cleared s canaryId) := by
  rw [Store.clearOverrides_run, if_pos (Store.binds_row h)]
  rfl

theorem closeCanary_run {s : Store} {canaryId : Int} {row : CanaryRow}
    (h : s.canaryTable.get? canaryId = some row) (status decision : String) :
    (Store.closeCanary canaryId status decision).run s =
      .ok () (closed s canaryId status decision) := by
  rw [Store.closeCanary_run, if_pos (Store.binds_row h)]
  rfl

theorem decideBy_run (close : Closing) (c : Canary) (s : Store) (canaryId : Int) (cm bm : Metrics) :
    (decideBy close c canaryId cm bm).run s =
      match s.canaryTable.get? canaryId with
      | none => .error (Store.missing "no canary " canaryId) s
      | some row =>
        match evaluate row.gates cm bm with
        | .error e => .error e s
        | .ok (false, findings) => (do
          close canaryId FAIL (join "\n" findings)
          return (FAIL, findings)).run (cleared s canaryId)
        | .ok (true, findings) => (do
          Store.promote c.group row.candidateVersionId
          close canaryId PASS (join "\n" findings)
          return (PASS, findings)).run (cleared s canaryId) := by
  unfold decideBy
  simp only [EStateM.run_bind, Store.canary_run]
  cases hrow : s.canaryTable.get? canaryId with
  | none => rfl
  | some row =>
    simp only [ofExcept_run]
    cases evaluate row.gates cm bm with
    | error e => rfl
    | ok verdict =>
      obtain ⟨passed, findings⟩ := verdict
      cases passed with
      | false =>
        simp only [clearOverrides_run hrow]
        rfl
      | true =>
        simp only [EStateM.run_bind, clearOverrides_run hrow, if_true]
        rfl

theorem decide_run (c : Canary) (s : Store) (canaryId : Int) (cm bm : Metrics) :
    (c.decide canaryId cm bm).run s =
      match s.canaryTable.get? canaryId with
      | none => .error (Store.missing "no canary " canaryId) s
      | some row =>
        match evaluate row.gates cm bm with
        | .error e => .error e s
        | .ok (false, findings) =>
          .ok (FAIL, findings) (closed (cleared s canaryId) canaryId FAIL (join "\n" findings))
        | .ok (true, findings) =>
          match (Store.promote c.group row.candidateVersionId).run (cleared s canaryId) with
          | .error e t => .error e t
          | .ok _ t => .ok (PASS, findings) (closed t canaryId PASS (join "\n" findings)) := by
  unfold decide
  rw [decideBy_run]
  cases hrow : s.canaryTable.get? canaryId with
  | none => rfl
  | some row =>
    dsimp only
    cases evaluate row.gates cm bm with
    | error e => rfl
    | ok verdict =>
      obtain ⟨passed, findings⟩ := verdict
      cases passed with
      | false =>
        have hclose := closeCanary_run (s := cleared s canaryId) hrow FAIL (join "\n" findings)
        simp only [EStateM.run_bind, hclose]
        rfl
      | true =>
        have hsame : ∀ u t, (Store.promote c.group row.candidateVersionId).run
            (cleared s canaryId) = .ok u t → t.canaryTable = s.canaryTable := fun u t h => by
          rw [Store.promote_run] at h
          split at h
          · cases h
          · split_ifs at h
            cases h
            rfl
        simp only [EStateM.run_bind]
        cases hpromote : (Store.promote c.group row.candidateVersionId).run
            (cleared s canaryId) with
        | error e t => rfl
        | ok u t =>
          have hclose := closeCanary_run (s := t) (by rw [hsame u t hpromote]; exact hrow) PASS
            (join "\n" findings)
          simp only [hclose]
          rfl

theorem observeBy_run (close : Closing) (c : Canary) (s : Store) (metrics : MetricsSource)
    (sleep : Rat → Except PyErr Unit) (canaryId : Int) (samples : Nat) :
    (observeBy close c metrics sleep canaryId samples).run s =
      match s.canaryTable.get? canaryId with
      | none => .error (Store.missing "no canary " canaryId) s
      | some row =>
        if row.status ≠ "observing" then
          .error (.valueError ("canary " ++ toString canaryId ++ " already " ++ row.status)) s
        else match c.collect metrics sleep samples row with
          | .error e => .error e s
          | .ok sides => (decideBy close c canaryId sides.1 sides.2).run s := by
  unfold observeBy
  simp only [EStateM.run_bind, Store.canary_run]
  cases s.canaryTable.get? canaryId with
  | none => rfl
  | some row =>
    by_cases hs : row.status = "observing"
    · simp only [hs, ne_eq, not_true_eq_false, if_false, EStateM.run_bind, ofExcept_run]
      cases c.collect metrics sleep samples row <;> rfl
    · simp [hs]

theorem abort_run (s : Store) (canaryId : Int) (reason : String) :
    (abort canaryId reason).run s =
      if Store.binds s.canaryTable canaryId then
        .ok () (closed (cleared s canaryId) canaryId FAIL reason)
      else .error Store.tooLarge s := by
  unfold abort
  rw [EStateM.run_bind, Store.clearOverrides_run]
  cases hbinds : Store.binds s.canaryTable canaryId with
  | false => rfl
  | true =>
    simp only [if_true, Store.closeCanary_run, hbinds]
    rfl

theorem observe_run (c : Canary) (s : Store) (metrics : MetricsSource)
    (sleep : Rat → Except PyErr Unit) (canaryId : Int) (samples : Nat) :
    (c.observe metrics sleep canaryId samples).run s =
      match s.canaryTable.get? canaryId with
      | none => .error (Store.missing "no canary " canaryId) s
      | some row =>
        if row.status ≠ "observing" then
          .error (.valueError ("canary " ++ toString canaryId ++ " already " ++ row.status)) s
        else match c.collect metrics sleep samples row with
          | .error e => .error e s
          | .ok sides => (c.decide canaryId sides.1 sides.2).run s :=
  observeBy_run Store.closeCanary c s metrics sleep canaryId samples

end Canary

/-! ## The calls of a client of the control plane -/

inductive ClientOp where
  | propose (group : String) (fields : Fields) (createdBy reason : String)
  | promote (group : String) (versionId : Int)
  | rollback (group : String) (toVersionId : Int)
  | start (c : Canary) (candidateVersionId : Int) (scope : List String) (gates : List Gate)
      (windowS : Rat)
  | observe (c : Canary) (metrics : MetricsSource) (sleep : Rat → Except PyErr Unit)
      (canaryId : Int) (samples : Nat)
  | decide (c : Canary) (canaryId : Int) (canaryMetrics baselineMetrics : Metrics)
  | abort (canaryId : Int) (reason : String)

namespace ClientOp

def exec : ClientOp → StoreM Unit
  | .propose group fields createdBy reason => do
    let _ ← Store.propose group fields createdBy reason
  | .promote group versionId => Store.promote group versionId
  | .rollback group toVersionId => Store.rollback group toVersionId
  | .start c candidateVersionId scope gates windowS => do
    let _ ← c.start candidateVersionId scope gates windowS
  | .observe c metrics sleep canaryId samples => do
    let _ ← c.observe metrics sleep canaryId samples
  | .decide c canaryId canaryMetrics baselineMetrics => do
    let _ ← c.decide canaryId canaryMetrics baselineMetrics
  | .abort canaryId reason => Canary.abort canaryId reason

def apply (s : Store) (op : ClientOp) : Store := final op.exec s

def canary? : ClientOp → Option Canary
  | .start c _ _ _ _ | .observe c _ _ _ _ | .decide c _ _ _ => some c
  | _ => none

end ClientOp

section Respects

/-! A client's call is a sequence of store operations, so a relation that each of those
respects is respected by the call. -/

variable {R : Store → Store → Prop} (refl : ∀ s, R s s)
  (trans : ∀ ⦃s t u : Store⦄, R s t → R t u → R s u)
  (store : ∀ s op, R s (StoreHistory.apply s op))

include refl

theorem respects_canary (canaryId : Int) : Respects R (Store.canary canaryId) := by
  intro s
  have hr := Store.canary_run s canaryId
  cases hrow : s.canaryTable.get? canaryId with
  | none =>
    rw [hrow] at hr
    rw [final_of_error hr]
    exact refl s
  | some row =>
    rw [hrow] at hr
    rw [final_of_ok hr]
    exact refl s

include trans store

theorem respects_start (c : Canary) (candidateId : Int) (scope : List String) (gates : List Gate)
    (windowS : Rat) : Respects R (c.start candidateId scope gates windowS) := by
  refine respects_bind trans (respects_ofExcept refl _) fun _ => ?_
  refine respects_bind trans (fun s => ?_) fun cid => ?_
  · have ho := store s (.openCanary c.group candidateId scope gates windowS)
    rwa [StoreHistory.apply, StoreOp.exec, final_discard] at ho
  · exact respects_bind trans (fun s => store s (.setOverrides scope candidateId cid))
      fun _ => respects_pure refl cid

theorem respects_decide (c : Canary) (canaryId : Int) (cm bm : Metrics) :
    Respects R (c.decide canaryId cm bm) := by
  refine respects_bind trans (respects_canary refl canaryId) fun row => ?_
  refine respects_bind trans (respects_ofExcept refl _) fun verdict => ?_
  refine respects_bind trans (fun s => store s (.clearOverrides canaryId)) fun _ => ?_
  have hclose : ∀ (status decision : String) (result : String × List String),
      Respects R (do Store.closeCanary canaryId status decision; return result) :=
    fun status decision result =>
      respects_bind trans (fun s => store s (.closeCanary canaryId status decision))
        fun _ => respects_pure refl result
  obtain ⟨passed, findings⟩ := verdict
  cases passed with
  | false => exact hclose FAIL _ _
  | true =>
    exact respects_bind trans (fun s => store s (.promote c.group row.candidateVersionId))
      fun _ => hclose PASS _ _

theorem respects_observe (c : Canary) (metrics : MetricsSource) (sleep : Rat → Except PyErr Unit)
    (canaryId : Int) (samples : Nat) : Respects R (c.observe metrics sleep canaryId samples) := by
  refine respects_bind trans (respects_canary refl canaryId) fun row => ?_
  have hgo : Respects R (do
      let sides ← ofExcept (c.collect metrics sleep samples row)
      Canary.decideBy Store.closeCanary c canaryId sides.1 sides.2) :=
    respects_bind trans (respects_ofExcept refl _)
      fun sides => respects_decide refl trans store c canaryId sides.1 sides.2
  by_cases ho : row.status = "observing"
  · simpa only [ho, ne_eq, not_true_eq_false, if_false] using hgo
  · simp only [ho, ne_eq, not_false_eq_true, if_true]
    exact respects_bind trans (respects_throw refl _) fun _ => hgo

omit refl in
theorem respects_abort (canaryId : Int) (reason : String) :
    Respects R (Canary.abort canaryId reason) :=
  respects_bind trans (fun s => store s (.clearOverrides canaryId))
    fun _ s => store s (.closeCanary canaryId FAIL reason)

theorem client_respects (s : Store) (op : ClientOp) : R s (op.apply s) := by
  cases op with
  | propose group fields createdBy reason => exact store s (.propose group fields createdBy reason)
  | promote group versionId => exact store s (.promote group versionId)
  | rollback group toVersionId => exact store s (.rollback group toVersionId)
  | start c candidateVersionId scope gates windowS =>
    rw [ClientOp.apply, ClientOp.exec, final_discard]
    exact respects_start refl trans store c candidateVersionId scope gates windowS s
  | observe c metrics sleep canaryId samples =>
    rw [ClientOp.apply, ClientOp.exec, final_discard]
    exact respects_observe refl trans store c metrics sleep canaryId samples s
  | decide c canaryId canaryMetrics baselineMetrics =>
    rw [ClientOp.apply, ClientOp.exec, final_discard]
    exact respects_decide refl trans store c canaryId canaryMetrics baselineMetrics s
  | abort canaryId reason => exact respects_abort trans store canaryId reason s

end Respects

/-- No call of a client loses a version. -/
theorem client_extends (s : Store) (op : ClientOp) : Extends s (op.apply s) :=
  client_respects (R := Extends) (fun _ => List.prefix_rfl) (fun _ _ _ h h' => h.trans h')
    (fun s op => extends_of_advances (apply_advances s op)) s op

theorem client_history {s : Store} (hs : History s) (op : ClientOp) : History (op.apply s) :=
  client_respects (R := fun s t => History s → History t) (fun _ h => h)
    (fun _ _ _ h h' hs => h' (h hs)) (fun s op => history_of_advances (apply_advances s op)) s op hs

end Trimtab
