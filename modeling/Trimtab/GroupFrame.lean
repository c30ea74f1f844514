import Trimtab.CanaryBaseline

set_option autoImplicit false

/-!
# What the operations for one group leave alone

Replica ids are keys of their own in the override table and in the status table, whatever
the group.
-/
namespace Trimtab.GroupFrame
open Canary CanaryOverrides CanaryBaseline Effects Runs StoreHistory

inductive GroupOp where
  | client (op : ClientOp)
  | recordStatus (replicaId group : String) (appliedVersionId : Option Int) (state detail : String)

namespace GroupOp

def apply (s : Store) : GroupOp → Store
  | .client op => op.apply s
  | .recordStatus replicaId group appliedVersionId state detail =>
    final (Store.recordStatus replicaId group appliedVersionId state detail) s

def For (A : String) : GroupOp → Prop
  | .client (.propose group _ _ _) | .client (.promote group _) | .client (.rollback group _)
  | .recordStatus _ group _ _ _ => group = A
  | .client (.start c _ _ _ _) | .client (.observe c _ _ _ _) | .client (.decide c _ _ _) =>
    c.group = A
  | .client (.abort _ _) => True

def Scopes (s : Store) (replicaId : String) : GroupOp → Prop
  | .client (.start _ _ scope _ _) => replicaId ∈ scope
  | .client (.observe _ _ _ id _) | .client (.decide _ id _ _) | .client (.abort id _) =>
    ∃ row, s.canaryTable.get? id = some row ∧ replicaId ∈ row.scope
  | _ => False

def TakesRow (s : Store) (B : String) : GroupOp → Prop
  | .recordStatus replicaId _ _ _ _ =>
    ∃ row, s.replicaStatus.get? replicaId = some row ∧ row.replicaGroup = B
  | _ => False

end GroupOp

/-- Every read of group `B` returns in `t` what it returned in `s`. -/
structure Unmoved (B : String) (s : Store) (op : GroupOp) (t : Store) : Prop where
  desired : value? (Store.desired B) t = value? (Store.desired B) s
  desiredFor : ∀ r, ¬op.Scopes s r → ∀ d, value? (Store.desiredFor r B) s = some d →
    value? (Store.desiredFor r B) t = some d
  versions : value? (Store.versions B) t = value? (Store.versions B) s
  status : ¬op.TakesRow s B → value? (Store.status B) t = value? (Store.status B) s

/-! ## The rows of the other group -/

structure Apart (B : String) (s t : Store) : Prop where
  pointer : t.desiredState.get? B = s.desiredState.get? B
  rows : t.configVersion.rows.filter (fun r => r.2.replicaGroup = B) =
    s.configVersion.rows.filter fun r => r.2.replicaGroup = B
  status : t.replicaStatus = s.replicaStatus

theorem apart_refl (B : String) (s : Store) : Apart B s s := ⟨rfl, rfl, rfl⟩

theorem promote_apart {A B : String} (h : B ≠ A) (s : Store) (id : Int) :
    Apart B s (final (Store.promote A id) s) := by
  unfold final
  rw [Store.promote_run]
  cases s.find id with
  | none => exact apart_refl B s
  | some v =>
    dsimp only
    split_ifs
    · exact ⟨Dict.get?_insert_of_ne _ _ h, rfl, rfl⟩
    · exact apart_refl B s

theorem propose_apart {A B : String} (h : B ≠ A) (s : Store) (fields : Fields)
    (createdBy reason : String) : Apart B s (final (Store.propose A fields createdBy reason) s) := by
  unfold final
  rw [Store.propose_run]
  rcases Store.desired_reads s A with ⟨parent, hp⟩ | ⟨e, he⟩
  · rw [hp]
    refine ⟨rfl, ?_, rfl⟩
    rw [SerialTable.rows_insert, List.filter_append, List.filter_singleton]
    simp [Ne.symm h]
  · rw [he]
    exact apart_refl B s

theorem start_apart (B : String) (c : Canary) (s : Store) (candidateId : Int) (scope : List String)
    (gates : List Gate) (windowS : Rat) :
    Apart B s (final (c.start candidateId scope gates windowS) s) ∧
      ∀ r, r ∉ scope → (final (c.start candidateId scope gates windowS) s).replicaOverride.get? r =
        s.replicaOverride.get? r := by
  unfold final
  rw [start_run]
  cases c.checkScope scope with
  | error e => exact ⟨apart_refl B s, fun _ _ => rfl⟩
  | ok u =>
    rcases Store.desired_reads s c.group with ⟨base, hb⟩ | ⟨e, he⟩
    · rw [hb]
      dsimp only
      split_ifs
      · refine ⟨⟨rfl, rfl, rfl⟩, fun r hr => ?_⟩
        exact (opened_override s c.group base candidateId scope gates windowS r).trans (if_neg hr)
      · exact ⟨apart_refl B s, fun _ _ => rfl⟩
    · rw [he]
      exact ⟨apart_refl B s, fun _ _ => rfl⟩

theorem decide_apart {B : String} {c : Canary} (h : B ≠ c.group) (s : Store) (id : Int)
    (cm bm : Metrics) :
    Apart B s (final (c.decide id cm bm) s) ∧
      ((final (c.decide id cm bm) s).replicaOverride = s.replicaOverride ∨
        (final (c.decide id cm bm) s).replicaOverride = (cleared s id).replicaOverride) := by
  have hr := c.decide_run s id cm bm
  cases hrow : s.canaryTable.get? id with
  | none =>
    simp only [hrow] at hr
    rw [final_of_error hr]
    exact ⟨apart_refl B s, .inl rfl⟩
  | some row =>
    cases he : evaluate row.gates cm bm with
    | error e =>
      simp only [hrow, he] at hr
      rw [final_of_error hr]
      exact ⟨apart_refl B s, .inl rfl⟩
    | ok verdict =>
      obtain ⟨passed, findings⟩ := verdict
      cases passed with
      | false =>
        simp only [hrow, he] at hr
        rw [final_of_ok hr]
        exact ⟨⟨rfl, rfl, rfl⟩, .inr rfl⟩
      | true =>
        have hk := promote_keeps (cleared s id) c.group row.candidateVersionId
        have ha := promote_apart h (cleared s id) row.candidateVersionId
        cases hp : (Store.promote c.group row.candidateVersionId).run (cleared s id) with
        | error e t =>
          simp only [hrow, he, hp] at hr
          rw [final_of_error hp] at hk ha
          rw [final_of_error hr]
          exact ⟨⟨ha.pointer, ha.rows, ha.status⟩, .inr hk.1⟩
        | ok u t =>
          simp only [hrow, he, hp] at hr
          rw [final_of_ok hp] at hk ha
          rw [final_of_ok hr]
          exact ⟨⟨ha.pointer, ha.rows, ha.status⟩, .inr hk.1⟩

theorem observe_apart {B : String} {c : Canary} (h : B ≠ c.group) (s : Store)
    (metrics : MetricsSource) (sleep : Rat → Except PyErr Unit) (id : Int) (samples : Nat) :
    Apart B s (final (c.observe metrics sleep id samples) s) ∧
      ((final (c.observe metrics sleep id samples) s).replicaOverride = s.replicaOverride ∨
        (final (c.observe metrics sleep id samples) s).replicaOverride =
          (cleared s id).replicaOverride) := by
  have hr := c.observe_run s metrics sleep id samples
  cases hrow : s.canaryTable.get? id with
  | none =>
    simp only [hrow] at hr
    rw [final_of_error hr]
    exact ⟨apart_refl B s, .inl rfl⟩
  | some row =>
    simp only [hrow] at hr
    split_ifs at hr
    · rw [final_of_error hr]
      exact ⟨apart_refl B s, .inl rfl⟩
    · cases hw : c.collect metrics sleep samples row with
      | error e =>
        simp only [hw] at hr
        rw [final_of_error hr]
        exact ⟨apart_refl B s, .inl rfl⟩
      | ok sides =>
        simp only [hw] at hr
        have hd := decide_apart h s id sides.1 sides.2
        unfold final at hd ⊢
        rwa [hr]

/-! ## One call -/

variable {A B : String} {s : Store}

/-- The rows that a canary's verdict takes away are of replicas in its scope. -/
theorem cleared_of_not_scoped (hs : Steered s) {id : Int} {r : String}
    (hr : ¬∃ row, s.canaryTable.get? id = some row ∧ r ∈ row.scope) :
    (cleared s id).replicaOverride.get? r = s.replicaOverride.get? r := by
  apply Option.ext
  intro o
  rw [cleared_get?]
  refine ⟨fun h => h.1, fun ho => ⟨ho, fun hid => hr ?_⟩⟩
  obtain ⟨row, hrow, -, -, hmem⟩ := hs r o ho
  exact ⟨row, hid ▸ hrow, hmem⟩

/-- A call for another group: the rows of `B`, and the overrides outside the call's scope. -/
theorem client_apart (hs : Steered s) (hne : B ≠ A) {op : ClientOp} (hop : (GroupOp.client op).For A) :
    Apart B s (op.apply s) ∧ ∀ r, ¬(GroupOp.client op).Scopes s r →
      (op.apply s).replicaOverride.get? r = s.replicaOverride.get? r := by
  have hverdict : ∀ {t : Store} {id : Int},
      t.replicaOverride = s.replicaOverride ∨ t.replicaOverride = (cleared s id).replicaOverride →
      ∀ r, (¬∃ row, s.canaryTable.get? id = some row ∧ r ∈ row.scope) →
        t.replicaOverride.get? r = s.replicaOverride.get? r := by
    intro t id h r hr
    rcases h with h | h
    · rw [h]
    · rw [h, cleared_of_not_scoped hs hr]
  cases op with
  | propose group fields createdBy reason =>
    obtain rfl : group = A := hop
    rw [ClientOp.apply, ClientOp.exec, final_discard]
    exact ⟨propose_apart hne s fields createdBy reason,
      fun r _ => by rw [(propose_keeps s group fields createdBy reason).1]⟩
  | promote group versionId =>
    obtain rfl : group = A := hop
    exact ⟨promote_apart hne s versionId,
      fun r _ => congrArg (Dict.get? · r) (promote_keeps s group versionId).1⟩
  | rollback group versionId =>
    obtain rfl : group = A := hop
    exact ⟨promote_apart hne s versionId,
      fun r _ => congrArg (Dict.get? · r) (promote_keeps s group versionId).1⟩
  | start c candidateVersionId scope gates windowS =>
    rw [ClientOp.apply, ClientOp.exec, final_discard]
    exact start_apart B c s candidateVersionId scope gates windowS
  | observe c metrics sleep canaryId samples =>
    obtain rfl : c.group = A := hop
    rw [ClientOp.apply, ClientOp.exec, final_discard]
    have h := observe_apart hne s metrics sleep canaryId samples
    exact ⟨h.1, hverdict h.2⟩
  | decide c canaryId canaryMetrics baselineMetrics =>
    obtain rfl : c.group = A := hop
    rw [ClientOp.apply, ClientOp.exec, final_discard]
    have h := decide_apart hne s canaryId canaryMetrics baselineMetrics
    exact ⟨h.1, hverdict h.2⟩
  | abort canaryId reason =>
    have hr := abort_run s canaryId reason
    rw [ClientOp.apply, ClientOp.exec]
    split_ifs at hr
    · rw [final_of_ok hr]
      exact ⟨⟨rfl, rfl, rfl⟩, hverdict (.inr rfl)⟩
    · rw [final_of_error hr]
      exact ⟨apart_refl B s, fun _ _ => rfl⟩

theorem recordStatus_row {replicaId group : String} {applied : Option Int} {state detail : String}
    (hne : B ≠ group)
    (ht : ¬(GroupOp.recordStatus replicaId group applied state detail).TakesRow s B) :
    ((s.replicaStatus.insert replicaId ⟨group, applied, state, detail⟩).entries.filter
        fun r => r.2.replicaGroup = B) = s.replicaStatus.entries.filter fun r => r.2.replicaGroup = B := by
  refine Dict.filter_insert_of_not (decide_eq_false (Ne.symm hne)) fun row hrow => ?_
  exact decide_eq_false fun hg => ht ⟨row, hrow, hg⟩

/-! ## The reads -/

theorem desired_kept {t : Store} (hs : History s) (hext : Extends s t)
    (hp : t.desiredState.get? B = s.desiredState.get? B) :
    value? (Store.desired B) t = value? (Store.desired B) s := by
  rw [value?, value?, Store.desired_run, Store.desired_run, hp]
  cases hd : s.desiredState.get? B with
  | none => rfl
  | some id =>
    obtain ⟨v, hv, -⟩ := hs.desired_own B id hd
    simp only [hv, find_of_extends hext hv]

theorem desiredFor_kept {t : Store} (hs : History s) (hext : Extends s t)
    (hp : t.desiredState.get? B = s.desiredState.get? B) {r : String}
    (ho : t.replicaOverride.get? r = s.replicaOverride.get? r) {d : Option ConfigVersion}
    (h : value? (Store.desiredFor r B) s = some d) : value? (Store.desiredFor r B) t = some d := by
  rw [value?, Store.desiredFor_run] at h ⊢
  rw [ho]
  cases hr : s.replicaOverride.get? r with
  | none =>
    rw [hr] at h
    exact (desired_kept hs hext hp).trans h
  | some o =>
    rw [hr] at h
    cases hf : s.find o.versionId with
    | none =>
      simp only [hf] at h
      cases h
    | some v =>
      simp only [hf] at h
      simp only [find_of_extends hext hf]
      exact h

theorem versions_kept {t : Store}
    (hr : t.configVersion.rows.filter (fun r => r.2.replicaGroup = B) =
      s.configVersion.rows.filter fun r => r.2.replicaGroup = B) :
    value? (Store.versions B) t = value? (Store.versions B) s := by
  rw [value?, value?, Store.versions_run, Store.versions_run, hr]

theorem status_kept {t : Store}
    (hr : (t.replicaStatus.entries.filter fun r => r.2.replicaGroup = B) =
      s.replicaStatus.entries.filter fun r => r.2.replicaGroup = B) :
    value? (Store.status B) t = value? (Store.status B) s := by
  rw [value?, value?, Store.status_run, Store.status_run, hr]

structure Kept (s : Store) : Prop where
  history : History s
  steered : Steered s

theorem kept_step (hs : Kept s) (op : GroupOp) : Kept (op.apply s) := by
  cases op with
  | client op => exact ⟨client_history hs.history op, steered_of_steers (apply_steers s op) hs.steered⟩
  | recordStatus replicaId group applied state detail =>
    exact ⟨⟨hs.history.desired_own, hs.history.parent_own⟩, hs.steered⟩

theorem unmoved_of_kept (hs : Kept s) (hne : B ≠ A) {op : GroupOp} (hop : op.For A) :
    Unmoved B s op (op.apply s) := by
  cases op with
  | client op =>
    obtain ⟨ha, ho⟩ := client_apart hs.steered hne hop
    have hext : Extends s (op.apply s) := client_extends s op
    exact ⟨desired_kept hs.history hext ha.pointer,
      fun r hr d hd => desiredFor_kept hs.history hext ha.pointer (ho r hr) hd,
      versions_kept ha.rows, fun _ => status_kept (congrArg _ (congrArg Dict.entries ha.status))⟩
  | recordStatus replicaId group applied state detail =>
    obtain rfl : group = A := hop
    have hext : Extends s
        (GroupOp.apply s (.recordStatus replicaId group applied state detail)) := List.prefix_rfl
    exact ⟨desired_kept hs.history hext rfl, fun r _ d hd => desiredFor_kept hs.history hext rfl rfl hd,
      versions_kept rfl, fun ht => status_kept (recordStatus_row hne ht)⟩

/-- What an operation for one group does to another: nothing, but for the replicas in the
scope of its canary, and the status row that it takes over. -/
theorem groups_apart (ops : List GroupOp) (A B : String) (hne : A ≠ B) (op : GroupOp)
    (hop : op.For A) :
    Unmoved B (run GroupOp.apply Store.empty ops) op (op.apply (run GroupOp.apply Store.empty ops)) :=
  unmoved_of_kept
    (run_invariant (I := Kept) (fun _ op hs => kept_step hs op) ops
      ⟨history_empty, steered_empty⟩) (Ne.symm hne) hop

def twoGroups : List GroupOp :=
  [.client (.propose "h" ∅ "t" ""), .client (.promote "h" 1), .client (capVersion 8)]

theorem groups_apart_start :
    Unmoved "h" (run GroupOp.apply Store.empty twoGroups) (.client (.start fleet 2 ["r0"] [] 60))
      (GroupOp.apply (run GroupOp.apply Store.empty twoGroups)
        (.client (.start fleet 2 ["r0"] [] 60))) :=
  groups_apart twoGroups "g" "h" (by decide) _ rfl

/-- Two groups with a replica of the same name. -/
theorem start_steers_other_group :
    ¬∀ (ops : List GroupOp) (A B : String), A ≠ B → ∀ op : GroupOp, op.For A →
      ∀ s, s = run GroupOp.apply Store.empty ops →
        value? (Store.desired B) (op.apply s) = value? (Store.desired B) s ∧
        (∀ r, value? (Store.desiredFor r B) (op.apply s) = value? (Store.desiredFor r B) s) ∧
        value? (Store.versions B) (op.apply s) = value? (Store.versions B) s ∧
        value? (Store.status B) (op.apply s) = value? (Store.status B) s := by
  intro h
  have hsame := (h twoGroups "g" "h" (by decide) (.client (.start fleet 2 ["r0"] [] 60)) rfl _ rfl
    ).2.1 "r0"
  revert hsame
  decide +kernel

end Trimtab.GroupFrame
