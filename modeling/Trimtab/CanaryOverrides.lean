import Trimtab.Canary

set_option autoImplicit false

/-! Override rows and canary rows over whole runs of client calls. -/
namespace Trimtab.CanaryOverrides
open Canary Effects Runs StoreHistory

/-- All that one call can do to the override table and the canary table. -/
inductive Steers (s : Store) (op : ClientOp) (t : Store) : Prop where
  | kept (overrides : t.replicaOverride = s.replicaOverride)
      (canaries : t.canaryTable = s.canaryTable)
  | opens (c : Canary) (base : Option ConfigVersion) (candidateId : Int) (scope : List String)
      (gates : List Gate) (windowS : Rat)
      (call : op = .start c candidateId scope gates windowS)
      (accepted : c.checkScope scope = .ok ())
      (state : t = opened s c.group base candidateId scope gates windowS)
      (bound : Store.binds s.configVersion candidateId = true)
  | clears (c : Canary) (canaryId : Int) (row : CanaryRow) (call : op.canary? = some c)
      (found : s.canaryTable.get? canaryId = some row)
      (refused : ∀ v, s.find row.candidateVersionId = some v → v.replicaGroup ≠ c.group)
      (overrides : t.replicaOverride = (cleared s canaryId).replicaOverride)
      (canaries : t.canaryTable = s.canaryTable)
  | closes (canaryId : Int) (status decision : String) (final : status ≠ "observing")
      (overrides : t.replicaOverride = (cleared s canaryId).replicaOverride)
      (canaries : t.canaryTable = (closed s canaryId status decision).canaryTable)

theorem promote_keeps (s : Store) (group : String) (id : Int) :
    (final (Store.promote group id) s).replicaOverride = s.replicaOverride ∧
      (final (Store.promote group id) s).canaryTable = s.canaryTable := by
  unfold final
  rw [Store.promote_run]
  cases s.find id with
  | none => exact ⟨rfl, rfl⟩
  | some v =>
    dsimp only
    split_ifs <;> exact ⟨rfl, rfl⟩

theorem propose_keeps (s : Store) (group : String) (fields : Fields) (createdBy reason : String) :
    (final (Store.propose group fields createdBy reason) s).replicaOverride = s.replicaOverride ∧
      (final (Store.propose group fields createdBy reason) s).canaryTable = s.canaryTable := by
  unfold final
  rw [Store.propose_run]
  rcases Store.desired_reads s group with ⟨parent, hp⟩ | ⟨e, he⟩
  · rw [hp]
    exact ⟨rfl, rfl⟩
  · rw [he]
    exact ⟨rfl, rfl⟩

theorem start_steers (c : Canary) (s : Store) (candidateId : Int) (scope : List String)
    (gates : List Gate) (windowS : Rat) :
    Steers s (.start c candidateId scope gates windowS)
      (final (c.start candidateId scope gates windowS) s) := by
  have hr := c.start_run s candidateId scope gates windowS
  cases hs : c.checkScope scope with
  | error e =>
    simp only [hs] at hr
    rw [final_of_error hr]
    exact .kept rfl rfl
  | ok u =>
    rcases Store.desired_reads s c.group with ⟨base, hb⟩ | ⟨e, he⟩
    · simp only [hs, hb] at hr
      split_ifs at hr with hbound
      · rw [final_of_ok hr]
        exact .opens c base candidateId scope gates windowS rfl hs rfl hbound
      · rw [final_of_error hr]
        exact .kept rfl rfl
    · simp only [hs, he] at hr
      rw [final_of_error hr]
      exact .kept rfl rfl

theorem promote_refused {s t : Store} {group : String} {id : Int} {e : PyErr}
    (h : (Store.promote group id).run s = .error e t) {v : ConfigVersion}
    (hv : s.find id = some v) : v.replicaGroup ≠ group := by
  intro hg
  rw [Store.promote_run, hv] at h
  simp [hg] at h

/-- A `decide` that returns has closed the canary; one that raises has at most cleared it. -/
theorem decide_steers (op : ClientOp) (c : Canary) (hop : op.canary? = some c) (s : Store)
    (canaryId : Int) (cm bm : Metrics) :
    Steers s op (final (c.decide canaryId cm bm) s) ∧
      ((value? (c.decide canaryId cm bm) s).isSome →
        (final (c.decide canaryId cm bm) s).replicaOverride =
          (cleared s canaryId).replicaOverride) := by
  have hr := c.decide_run s canaryId cm bm
  cases hrow : s.canaryTable.get? canaryId with
  | none =>
    simp only [hrow] at hr
    rw [final_of_error hr, value?, hr]
    exact ⟨.kept rfl rfl, fun h => by cases h⟩
  | some row =>
    cases he : evaluate row.gates cm bm with
    | error e =>
      simp only [hrow, he] at hr
      rw [final_of_error hr, value?, hr]
      exact ⟨.kept rfl rfl, fun h => by cases h⟩
    | ok verdict =>
      obtain ⟨passed, findings⟩ := verdict
      cases passed with
      | false =>
        simp only [hrow, he] at hr
        rw [final_of_ok hr]
        exact ⟨.closes canaryId FAIL _ (by decide) rfl rfl, fun _ => rfl⟩
      | true =>
        have hk := promote_keeps (cleared s canaryId) c.group row.candidateVersionId
        cases hp : (Store.promote c.group row.candidateVersionId).run (cleared s canaryId) with
        | error e t =>
          simp only [hrow, he, hp] at hr
          rw [final_of_error hp] at hk
          rw [final_of_error hr, value?, hr]
          exact ⟨.clears c canaryId row hop hrow (fun v hv => promote_refused hp hv) hk.1 hk.2,
            fun h => by cases h⟩
        | ok u t =>
          simp only [hrow, he, hp] at hr
          rw [final_of_ok hp] at hk
          rw [final_of_ok hr]
          have hcan : (closed t canaryId PASS (PyText.join "\n" findings)).canaryTable =
              (closed s canaryId PASS (PyText.join "\n" findings)).canaryTable := by
            rw [closed, hk.2]
            rfl
          exact ⟨.closes canaryId PASS _ (by decide) hk.1 hcan, fun _ => hk.1⟩

theorem observe_steers (c : Canary) (s : Store) (metrics : MetricsSource)
    (sleep : Rat → Except PyErr Unit) (canaryId : Int) (samples : Nat) :
    Steers s (.observe c metrics sleep canaryId samples)
        (final (c.observe metrics sleep canaryId samples) s) ∧
      ((value? (c.observe metrics sleep canaryId samples) s).isSome →
        (final (c.observe metrics sleep canaryId samples) s).replicaOverride =
          (cleared s canaryId).replicaOverride) := by
  have hr := c.observe_run s metrics sleep canaryId samples
  cases hrow : s.canaryTable.get? canaryId with
  | none =>
    simp only [hrow] at hr
    rw [final_of_error hr, value?, hr]
    exact ⟨.kept rfl rfl, fun h => by cases h⟩
  | some row =>
    simp only [hrow] at hr
    split_ifs at hr with ho
    · rw [final_of_error hr, value?, hr]
      exact ⟨.kept rfl rfl, fun h => by cases h⟩
    · cases hw : c.collect metrics sleep samples row with
      | error e =>
        simp only [hw] at hr
        rw [final_of_error hr, value?, hr]
        exact ⟨.kept rfl rfl, fun h => by cases h⟩
      | ok sides =>
        simp only [hw] at hr
        have hd := decide_steers (.observe c metrics sleep canaryId samples) c rfl s canaryId
          sides.1 sides.2
        simpa only [final, value?, hr] using hd

theorem apply_steers (s : Store) (op : ClientOp) : Steers s op (op.apply s) := by
  cases op with
  | propose group fields createdBy reason =>
    have hk := propose_keeps s group fields createdBy reason
    rw [ClientOp.apply, ClientOp.exec, final_discard]
    exact .kept hk.1 hk.2
  | promote group versionId =>
    have hk := promote_keeps s group versionId
    exact .kept hk.1 hk.2
  | rollback group toVersionId =>
    have hk := promote_keeps s group toVersionId
    exact .kept hk.1 hk.2
  | start c candidateVersionId scope gates windowS =>
    rw [ClientOp.apply, ClientOp.exec, final_discard]
    exact start_steers c s candidateVersionId scope gates windowS
  | observe c metrics sleep canaryId samples =>
    rw [ClientOp.apply, ClientOp.exec, final_discard]
    exact (observe_steers c s metrics sleep canaryId samples).1
  | decide c canaryId canaryMetrics baselineMetrics =>
    rw [ClientOp.apply, ClientOp.exec, final_discard]
    exact (decide_steers _ c rfl s canaryId canaryMetrics baselineMetrics).1
  | abort canaryId reason =>
    have hr := abort_run s canaryId reason
    rw [ClientOp.apply, ClientOp.exec]
    split_ifs at hr
    · rw [final_of_ok hr]
      exact .closes canaryId FAIL reason (by decide) rfl rfl
    · rw [final_of_error hr]
      exact .kept rfl rfl

/-! ## The invariant -/

/-- Canary `id` is open, replica `r` is in its scope, and `v` is its candidate. -/
def SteeredBy (s : Store) (id : Int) (r : String) (v : Int) : Prop :=
  ∃ row, s.canaryTable.get? id = some row ∧ row.status = "observing" ∧
    v = row.candidateVersionId ∧ r ∈ row.scope

def Steered (s : Store) : Prop :=
  ∀ r o, s.replicaOverride.get? r = some o → SteeredBy s o.canaryId r o.versionId

theorem cleared_get? (s : Store) (id : Int) (r : String) (o : OverrideRow) :
    (cleared s id).replicaOverride.get? r = some o ↔
      s.replicaOverride.get? r = some o ∧ o.canaryId ≠ id := by
  rw [cleared, Dict.get?_filter, Option.filter_eq_some_iff]
  simp

theorem opened_override (s : Store) (group : String) (base : Option ConfigVersion)
    (candidateId : Int) (scope : List String) (gates : List Gate) (windowS : Rat) (r : String) :
    (opened s group base candidateId scope gates windowS).replicaOverride.get? r =
      if r ∈ scope then some ⟨candidateId, s.canaryTable.nextId⟩
      else s.replicaOverride.get? r := by
  rw [opened, Dict.get?_foldl_insert_const]

theorem opened_row (s : Store) (group : String) (base : Option ConfigVersion)
    (candidateId : Int) (scope : List String) (gates : List Gate) (windowS : Rat) :
    (opened s group base candidateId scope gates windowS).canaryTable.get? s.canaryTable.nextId =
      some ⟨group, candidateId, base.map (·.id), scope.insertionSort (· ≤ ·), gates, windowS,
        "observing", ""⟩ := SerialTable.get?_insert_self _ _

theorem steered_of_steers {s t : Store} {op : ClientOp} (h : Steers s op t) (hs : Steered s) :
    Steered t := by
  intro r o ho
  cases h with
  | kept overrides canaries =>
    rw [overrides] at ho
    rw [SteeredBy, canaries]
    exact hs r o ho
  | opens c base candidateId scope gates windowS call accepted state =>
    subst state
    rw [opened_override] at ho
    split_ifs at ho with hr
    · cases ho
      exact ⟨_, opened_row s c.group base candidateId scope gates windowS, rfl, rfl,
        (List.perm_insertionSort _ _).mem_iff.mpr hr⟩
    · obtain ⟨row, hrow, hrest⟩ := hs r o ho
      exact ⟨row, SerialTable.get?_insert_of_some hrow _, hrest⟩
  | clears c canaryId row call found refused overrides canaries =>
    rw [overrides, cleared_get?] at ho
    rw [SteeredBy, canaries]
    exact hs r o ho.1
  | closes canaryId status decision final overrides canaries =>
    -- the rows that are left belong to other canaries, which this closing does not touch
    rw [overrides, cleared_get?] at ho
    obtain ⟨row, hrow, hrest⟩ := hs r o ho.1
    refine ⟨row, ?_, hrest⟩
    rw [canaries, closed, SerialTable.get?_modify_of_ne _ _ ho.2]
    exact hrow

theorem steered_run {s : Store} (hs : Steered s) (ops : List ClientOp) :
    Steered (run ClientOp.apply s ops) :=
  run_invariant (fun s op h => steered_of_steers (apply_steers s op) h) ops hs

theorem steered_empty : Steered Store.empty := fun _ _ h => by cases h

/-! ## After a verdict -/

def Ends (id : Int) : ClientOp → Prop
  | .observe _ _ _ canaryId _ | .decide _ canaryId _ _ | .abort canaryId _ => canaryId = id
  | _ => False

theorem ends_clears {s : Store} {op : ClientOp} {id : Int} (he : Ends id op)
    (hret : value? op.exec s = some ()) :
    (op.apply s).replicaOverride = (cleared s id).replicaOverride := by
  cases op with
  | observe c metrics sleep canaryId samples =>
    cases he
    rw [ClientOp.exec, value?_discard] at hret
    rw [ClientOp.apply, ClientOp.exec, final_discard]
    exact (observe_steers c s metrics sleep id samples).2 hret
  | decide c canaryId canaryMetrics baselineMetrics =>
    cases he
    rw [ClientOp.exec, value?_discard] at hret
    rw [ClientOp.apply, ClientOp.exec, final_discard]
    exact (decide_steers (.decide c id canaryMetrics baselineMetrics) c rfl s id
      canaryMetrics baselineMetrics).2 hret
  | abort canaryId reason =>
    cases he
    have hr := abort_run s id reason
    rw [ClientOp.exec, value?, hr] at hret
    rw [ClientOp.apply, ClientOp.exec]
    split_ifs at hr hret
    rw [final_of_ok hr]
    rfl
  | _ => cases he

/-- The replica's target is its group's desired version, or the candidate of an open
canary other than `id`. -/
def FollowsElsewhere (s : Store) (id : Int) (r : String) : Prop :=
  (∀ group, (Store.desiredFor r group).run s = (Store.desired group).run s) ∨
    ∃ other v, other ≠ id ∧ SteeredBy s other r v ∧
      ∀ group, (Store.desiredFor r group).run s = (do return some (← Store.version v)).run s

theorem followsElsewhere_of_cleared {s t : Store} (ht : Steered t) {id : Int}
    (hc : t.replicaOverride = (cleared s id).replicaOverride) (r : String) :
    FollowsElsewhere t id r := by
  cases hr : t.replicaOverride.get? r with
  | none =>
    refine .inl fun group => ?_
    rw [Store.desiredFor_run, hr]
  | some o =>
    refine .inr ⟨o.canaryId, o.versionId, ?_, ht r o hr, fun group => ?_⟩
    · rw [hc, cleared_get?] at hr
      exact hr.2
    · rw [Store.desiredFor_run, hr]
      simp only [EStateM.run_bind, Store.version_run]
      cases t.find o.versionId <;> rfl

structure NoneStranded (s : Store) : Prop where
  steered : Steered s
  released : ∀ op id, Ends id op → value? op.exec s = some () → ∀ r, FollowsElsewhere (op.apply s) id r

/-- No replica is stranded on a finished canary, whatever the clients call. -/
theorem none_stranded (ops : List ClientOp) : NoneStranded (run ClientOp.apply Store.empty ops) := by
  have hs := steered_run steered_empty ops
  refine ⟨hs, fun op id he hret r => ?_⟩
  have ht := steered_of_steers (apply_steers _ op) hs
  exact followsElsewhere_of_cleared ht (ends_clears he hret) r

end Trimtab.CanaryOverrides
