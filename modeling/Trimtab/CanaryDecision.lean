import Trimtab.CanaryBaseline
import Trimtab.GateChecks

set_option autoImplicit false

/-! The three effects of `decide`: all of them when it returns, none when it raises. -/
namespace Trimtab.CanaryDecision
open Canary CanaryOverrides CanaryBaseline Effects GateChecks PyText Runs StoreHistory

def Passes (row : CanaryRow) (cm bm : Metrics) : Prop :=
  ∃ findings, evaluate row.gates cm bm = .ok (true, findings)

def Fails (row : CanaryRow) (cm bm : Metrics) : Prop :=
  ∃ findings, evaluate row.gates cm bm = .ok (false, findings)

def Released (s : Store) (id : Int) : Prop :=
  ∀ r o, s.replicaOverride.get? r = some o → o.canaryId ≠ id

structure Untouched (s t : Store) : Prop where
  overrides : t.replicaOverride = s.replicaOverride
  desired : t.desiredState = s.desiredState
  canaries : t.canaryTable = s.canaryTable

/-- Every effect of a decision of canary `id`, made on the orchestrator of `group`. -/
structure Decided (group : String) (id : Int) (row : CanaryRow) (cm bm : Metrics) (t : Store) :
    Prop where
  released : Released t id
  promoted : Passes row cm bm → t.desiredState.get? group = some row.candidateVersionId
  kept_back : ¬Passes row cm bm → ∀ g, t.desiredState.get? g ≠ some row.candidateVersionId
  closed : ∃ passed decision, (passed = true ↔ Passes row cm bm) ∧
    t.canaryTable.get? id = some { row with status := verdict passed, decision := decision }

def AllOrNothing (E : Coding) (c : Canary) (id : Int) (cm bm : Metrics) (s : Store) : Prop :=
  match (c.decideBy E.close id cm bm).run s with
  | .error _ t => Untouched s t
  | .ok _ t => ∃ row, s.canaryTable.get? id = some row ∧ Decided c.group id row cm bm t

def Accepted (c : Canary) (row : CanaryRow) (s : Store) : Prop :=
  ∃ v, s.find row.candidateVersionId = some v ∧ v.replicaGroup = c.group

def Writable (E : Coding) (row : CanaryRow) : Prop := ∀ g ∈ row.gates, E.Writes g

/-- A canary that passes has a candidate of the orchestrator's group and can be closed, or what
precedes the failure changes nothing. One that fails can be closed and has a candidate that is
nobody's desired version, or it cannot and steers no replica. -/
def Separable (E : Coding) (c : Canary) (id : Int) (cm bm : Metrics) (s : Store) : Prop :=
  ∀ row, s.canaryTable.get? id = some row →
    (Passes row cm bm → Accepted c row s ∧ Writable E row ∨
      Released s id ∧
        (Accepted c row s → s.desiredState.get? c.group = some row.candidateVersionId)) ∧
    (Fails row cm bm →
      (Writable E row → ∀ g, s.desiredState.get? g ≠ some row.candidateVersionId) ∧
        (¬Writable E row → Released s id))

theorem released_cleared (s : Store) (id : Int) : Released (cleared s id) id :=
  fun r o ho => ((cleared_get? s id r o).mp ho).2

theorem cleared_eq_iff (s : Store) (id : Int) :
    (cleared s id).replicaOverride = s.replicaOverride ↔ Released s id := by
  constructor
  · intro h r o ho
    rw [← h] at ho
    exact released_cleared s id r o ho
  · intro h
    exact Dict.filter_eq_self fun r o ho => decide_eq_true (h r o ho)

theorem closed_row {s t : Store} {id : Int} {row : CanaryRow}
    (hrow : s.canaryTable.get? id = some row) (hc : t.canaryTable = s.canaryTable)
    (status decision : String) : (Canary.closed t id status decision).canaryTable.get? id =
      some { row with status := status, decision := decision } := by
  change (t.canaryTable.modify id _).get? id = _
  rw [SerialTable.get?_modify_self, hc, hrow]
  rfl

section Cases

variable {E : Coding} {c : Canary} {s : Store} {id : Int} {row : CanaryRow} {cm bm : Metrics}
  {findings : List String}

theorem not_passes_of_fails (h : Fails row cm bm) : ¬Passes row cm bm := by
  obtain ⟨findings, hf⟩ := h
  rintro ⟨findings', hp⟩
  rw [hf] at hp
  cases hp

theorem writable_iff {passed : Bool} (he : evaluate row.gates cm bm = .ok (passed, findings)) :
    E.encodes (join "\n" findings) = true ↔ Writable E row :=
  E.decision_encodes (evaluate_findings he)

/-- The close of a canary on record, in a store that has kept the row. -/
theorem close_run {t : Store} (hrow : t.canaryTable.get? id = some row) (status decision : String) :
    (E.close id status decision).run t =
      if E.encodes decision then .ok () (Canary.closed t id status decision)
      else .error (.valueError (E.message decision)) t := by
  unfold Coding.close
  split_ifs
  · exact closeCanary_run hrow status decision
  · rfl

theorem failed_run (hrow : s.canaryTable.get? id = some row)
    (he : evaluate row.gates cm bm = .ok (false, findings)) :
    (c.decideBy E.close id cm bm).run s =
      if E.encodes (join "\n" findings) then
        .ok (FAIL, findings) (Canary.closed (cleared s id) id FAIL (join "\n" findings))
      else .error (.valueError (E.message (join "\n" findings))) (cleared s id) := by
  have hr := decideBy_run E.close c s id cm bm
  simp only [hrow, he, EStateM.run_bind, close_run (t := cleared s id) hrow] at hr
  rw [hr]
  cases E.encodes (join "\n" findings) <;> rfl

theorem failed_iff (hrow : s.canaryTable.get? id = some row)
    (he : evaluate row.gates cm bm = .ok (false, findings)) :
    AllOrNothing E c id cm bm s ↔
      (Writable E row → ∀ g, s.desiredState.get? g ≠ some row.candidateVersionId) ∧
        (¬Writable E row → Released s id) := by
  have hnot : ¬Passes row cm bm := not_passes_of_fails ⟨findings, he⟩
  rw [AllOrNothing, failed_run hrow he]
  by_cases hw : Writable E row
  · rw [if_pos ((writable_iff he).mpr hw)]
    simp only [hw, true_imp_iff, not_true_eq_false, false_imp_iff, and_true]
    constructor
    · rintro ⟨row', hrow', hd⟩
      rw [hrow] at hrow'
      cases hrow'
      exact hd.kept_back hnot
    · intro h
      refine ⟨row, hrow, released_cleared s id, fun hp => absurd hp hnot, fun _ => h, false, _, ?_,
        closed_row hrow rfl FAIL _⟩
      exact ⟨fun h => absurd h Bool.false_ne_true, fun hp => absurd hp hnot⟩
  · rw [if_neg fun h => hw ((writable_iff he).mp h)]
    simp only [hw, false_imp_iff, not_false_eq_true, true_imp_iff, true_and]
    rw [← cleared_eq_iff]
    exact ⟨fun h => h.overrides, fun h => ⟨h, rfl, rfl⟩⟩

/-- A promotion that is not refused is there before the canary is closed. -/
theorem accepted_run (hrow : s.canaryTable.get? id = some row)
    (he : evaluate row.gates cm bm = .ok (true, findings)) (ha : Accepted c row s) :
    (c.decideBy E.close id cm bm).run s =
      let t : Store := { cleared s id with
        desiredState := (cleared s id).desiredState.insert c.group row.candidateVersionId }
      if E.encodes (join "\n" findings) then
        .ok (PASS, findings) (Canary.closed t id PASS (join "\n" findings))
      else .error (.valueError (E.message (join "\n" findings))) t := by
  obtain ⟨v, hv, hg⟩ := ha
  have hr := decideBy_run E.close c s id cm bm
  have hf : (cleared s id).find row.candidateVersionId = some v := hv
  have hclose := close_run (E := E) (t := { cleared s id with
    desiredState := (cleared s id).desiredState.insert c.group row.candidateVersionId }) hrow PASS
    (join "\n" findings)
  simp only [hrow, he, EStateM.run_bind, Store.promote_found hf hg, hclose] at hr
  rw [hr]
  dsimp only
  cases E.encodes (join "\n" findings) <;> rfl

theorem accepted_iff (hrow : s.canaryTable.get? id = some row)
    (he : evaluate row.gates cm bm = .ok (true, findings)) (ha : Accepted c row s) :
    AllOrNothing E c id cm bm s ↔ Writable E row ∨
      Released s id ∧ s.desiredState.get? c.group = some row.candidateVersionId := by
  rw [AllOrNothing, accepted_run hrow he ha]
  dsimp only
  by_cases hw : Writable E row
  · rw [if_pos ((writable_iff he).mpr hw)]
    refine iff_of_true ⟨row, hrow, released_cleared s id, fun _ => Dict.get?_insert_self _ _ _,
      fun hnot => absurd ⟨findings, he⟩ hnot, ?_⟩ (.inl hw)
    exact ⟨true, _, ⟨fun _ => ⟨findings, he⟩, fun _ => rfl⟩, closed_row hrow rfl PASS _⟩
  · rw [if_neg fun h => hw ((writable_iff he).mp h), ← cleared_eq_iff, ← Dict.insert_eq_self_iff]
    exact ⟨fun h => .inr ⟨h.overrides, h.desired⟩,
      fun h => ⟨(h.resolve_left hw).1, (h.resolve_left hw).2, rfl⟩⟩

/-- A refused promotion finds the overrides gone already. -/
theorem refused_iff (hrow : s.canaryTable.get? id = some row)
    (he : evaluate row.gates cm bm = .ok (true, findings)) (hv : ¬Accepted c row s) :
    AllOrNothing E c id cm bm s ↔ Released s id := by
  have hr := decideBy_run E.close c s id cm bm
  have hfind : (cleared s id).find row.candidateVersionId = s.find row.candidateVersionId := rfl
  have hraises : ∃ e, (c.decideBy E.close id cm bm).run s = .error e (cleared s id) := by
    simp only [hrow, he, EStateM.run_bind, Store.promote_run, hfind] at hr
    cases hf : s.find row.candidateVersionId with
    | none =>
      simp only [hf] at hr
      exact ⟨_, hr⟩
    | some v =>
      have hg : v.replicaGroup ≠ c.group := fun hg => hv ⟨v, hf, hg⟩
      simp only [hf, hg, if_false] at hr
      exact ⟨_, hr⟩
  obtain ⟨e, hraises⟩ := hraises
  rw [AllOrNothing, hraises, ← cleared_eq_iff]
  exact ⟨fun h => h.overrides, fun h => ⟨h, rfl, rfl⟩⟩

theorem separable_iff (hrow : s.canaryTable.get? id = some row) : Separable E c id cm bm s ↔
    (Passes row cm bm → Accepted c row s ∧ Writable E row ∨
      Released s id ∧
        (Accepted c row s → s.desiredState.get? c.group = some row.candidateVersionId)) ∧
    (Fails row cm bm →
      (Writable E row → ∀ g, s.desiredState.get? g ≠ some row.candidateVersionId) ∧
        (¬Writable E row → Released s id)) := by
  refine ⟨fun h => h row hrow, fun h row' hrow' => ?_⟩
  rw [hrow] at hrow'
  cases hrow'
  exact h

end Cases

/-- A decision is all or nothing exactly when its effects cannot come apart. -/
theorem all_or_nothing_iff (E : Coding) (s : Store) (c : Canary) (id : Int) (cm bm : Metrics) :
    AllOrNothing E c id cm bm s ↔ Separable E c id cm bm s := by
  have hr := decideBy_run E.close c s id cm bm
  cases hrow : s.canaryTable.get? id with
  | none =>
    simp only [hrow] at hr
    rw [AllOrNothing, hr]
    refine ⟨fun _ row h => ?_, fun _ => ⟨rfl, rfl, rfl⟩⟩
    rw [hrow] at h
    cases h
  | some row =>
    rw [separable_iff hrow]
    cases he : evaluate row.gates cm bm with
    | error e =>
      simp only [hrow, he] at hr
      rw [AllOrNothing, hr]
      refine ⟨fun _ => ⟨?_, ?_⟩, fun _ => ⟨rfl, rfl, rfl⟩⟩
      · rintro ⟨findings, hp⟩
        rw [he] at hp
        cases hp
      · rintro ⟨findings, hf⟩
        rw [he] at hf
        cases hf
    | ok verdict =>
      obtain ⟨passed, findings⟩ := verdict
      cases passed with
      | false =>
        have hfails : Fails row cm bm := ⟨findings, he⟩
        rw [failed_iff hrow he]
        exact ⟨fun h => ⟨fun hp => absurd hp (not_passes_of_fails hfails), fun _ => h⟩,
          fun h => h.2 hfails⟩
      | true =>
        have hpasses : Passes row cm bm := ⟨findings, he⟩
        have hnot : ¬Fails row cm bm := fun hf => not_passes_of_fails hf hpasses
        simp only [hpasses, hnot, true_imp_iff, false_imp_iff, and_true]
        by_cases ha : Accepted c row s
        · rw [accepted_iff hrow he ha]
          simp only [ha, true_and, true_imp_iff]
        · rw [refused_iff hrow he ha]
          simp only [ha, false_and, false_or, false_imp_iff, and_true]

/-- A canary on the orchestrator of its group, decided on the orchestrator of another. -/
theorem raises_half_decided : ¬∀ (E : Coding) (s : Store) (c : Canary) (id : Int)
    (cm bm : Metrics), AllOrNothing E c id cm bm s := by
  intro h
  let s := run ClientOp.apply Store.empty
    [capVersion 16, .promote "g" 1, capVersion 8, .start fleet 2 ["r0"] [] 60]
  have hrow : s.canaryTable.get? 1 = some ⟨"g", 2, some 1, ["r0"], [], 60, "observing", ""⟩ := by
    decide +kernel
  have hfind : (s.find 2).map (·.replicaGroup) = some "g" := by decide +kernel
  have hover : s.replicaOverride.get? "r0" = some ⟨2, 1⟩ := by decide +kernel
  have hother : ¬Accepted ⟨"h", ["r0"]⟩ ⟨"g", 2, some 1, ["r0"], [], 60, "observing", ""⟩ s := by
    rintro ⟨v, hv, hg⟩
    rw [hv] at hfind
    exact absurd (hg.symm.trans (Option.some.inj hfind)) (by decide)
  have hpassed : evaluate [] ∅ ∅ = .ok (true, []) := rfl
  have hreleased := (refused_iff hrow hpassed hother).mp (h utf8 s _ 1 ∅ ∅)
  exact hreleased "r0" _ hover rfl

end Trimtab.CanaryDecision
