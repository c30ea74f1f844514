import Trimtab.Store
import Trimtab.Runs
import Trimtab.Effects
import Mathlib.Order.WellFounded

set_option autoImplicit false

/-! Over whole runs of the store: the version table only grows and desired pointers stay sound. -/
namespace Trimtab.StoreHistory
open Store Effects Runs

inductive StoreOp where
  | propose (group : String) (fields : Fields) (createdBy reason : String)
  | promote (group : String) (versionId : Int)
  | rollback (group : String) (toVersionId : Int)
  | setOverrides (replicaIds : List String) (versionId canaryId : Int)
  | clearOverrides (canaryId : Int)
  | openCanary (group : String) (candidateId : Int) (scope : List String) (gates : List Gate)
      (windowS : Rat)
  | closeCanary (canaryId : Int) (status decision : String)
  | recordStatus (replicaId group : String) (appliedVersionId : Option Int) (state detail : String)

def StoreOp.exec : StoreOp → StoreM Unit
  | .propose group fields createdBy reason => do
    let _ ← Store.propose group fields createdBy reason
  | .promote group versionId => Store.promote group versionId
  | .rollback group toVersionId => Store.rollback group toVersionId
  | .setOverrides replicaIds versionId canaryId => Store.setOverrides replicaIds versionId canaryId
  | .clearOverrides canaryId => Store.clearOverrides canaryId
  | .openCanary group candidateId scope gates windowS => do
    let _ ← Store.openCanary group candidateId scope gates windowS
  | .closeCanary canaryId status decision => Store.closeCanary canaryId status decision
  | .recordStatus replicaId group appliedVersionId state detail =>
    Store.recordStatus replicaId group appliedVersionId state detail

def apply (s : Store) (op : StoreOp) : Store := final op.exec s

/-- All that one operation can do to the version table and the desired pointers. -/
inductive Advances (s t : Store) : Prop where
  | kept (versions : t.configVersion = s.configVersion) (desired : t.desiredState = s.desiredState)
  | proposed (row : VersionRow) (parent : Option ConfigVersion)
      (read : (Store.desired row.replicaGroup).run s = .ok parent s)
      (lineage : row.parentId = parent.map (·.id))
      (versions : t.configVersion = s.configVersion.insert row)
      (desired : t.desiredState = s.desiredState)
  | pointed (v : ConfigVersion) (found : s.find v.id = some v)
      (versions : t.configVersion = s.configVersion)
      (desired : t.desiredState = s.desiredState.insert v.replicaGroup v.id)

theorem promote_advances (s : Store) (group : String) (id : Int) :
    Advances s (final (promote group id) s) := by
  have hr := promote_run s group id
  cases hf : s.find id with
  | none =>
    rw [hf] at hr
    rw [final_of_error hr]
    exact .kept rfl rfl
  | some v =>
    have hid : v.id = id := (find_eq_some_iff.mp hf).2
    subst id
    simp only [hf] at hr
    split_ifs at hr with hg
    · subst group
      rw [final_of_ok hr]
      exact .pointed v hf rfl rfl
    · rw [final_of_error hr]
      exact .kept rfl rfl

theorem propose_advances (s : Store) (group : String) (fields : Fields) (createdBy reason : String) :
    Advances s (final (propose group fields createdBy reason) s) := by
  have hr := propose_run s group fields createdBy reason
  rcases desired_reads s group with ⟨parent, hp⟩ | ⟨e, he⟩
  · rw [hp] at hr
    rw [final_of_ok hr]
    exact .proposed _ parent hp rfl rfl rfl
  · rw [he] at hr
    rw [final_of_error hr]
    exact .kept rfl rfl

theorem openCanary_advances (s : Store) (group : String) (candidateId : Int) (scope : List String)
    (gates : List Gate) (windowS : Rat) :
    Advances s (final (openCanary group candidateId scope gates windowS) s) := by
  rcases openCanary_final s group candidateId scope gates windowS with h | ⟨base, -, h⟩ <;>
    rw [h] <;> exact .kept rfl rfl

theorem apply_advances (s : Store) (op : StoreOp) : Advances s (apply s op) := by
  cases op with
  | propose group fields createdBy reason =>
    have h := propose_advances s group fields createdBy reason
    rwa [apply, StoreOp.exec, final_discard]
  | promote group versionId => exact promote_advances s group versionId
  | rollback group toVersionId => exact promote_advances s group toVersionId
  | setOverrides replicaIds versionId canaryId =>
    rw [apply, StoreOp.exec]
    rcases setOverrides_final s replicaIds versionId canaryId with h | h <;> rw [h] <;>
      exact .kept rfl rfl
  | clearOverrides canaryId =>
    rw [apply, StoreOp.exec]
    rcases clearOverrides_final s canaryId with h | h <;> rw [h] <;> exact .kept rfl rfl
  | openCanary group candidateId scope gates windowS =>
    have h := openCanary_advances s group candidateId scope gates windowS
    rwa [apply, StoreOp.exec, final_discard]
  | closeCanary canaryId status decision =>
    rw [apply, StoreOp.exec, closeCanary_final]
    exact .kept rfl rfl
  | recordStatus replicaId group appliedVersionId state detail => exact .kept rfl rfl

/-! ## Versions are append-only -/

/-- `t` has all the rows of `s`, in their places. -/
def Extends (s t : Store) : Prop := s.configVersion.rows <+: t.configVersion.rows

theorem extends_of_advances {s t : Store} (h : Advances s t) : Extends s t := by
  unfold Extends
  cases h with
  | kept versions desired => simp [versions]
  | proposed row parent read lineage versions desired => simp [versions]
  | pointed v found versions desired => simp [versions]

theorem extends_run (s : Store) (ops : List StoreOp) : Extends s (run apply s ops) :=
  run_relates (R := Extends) (fun _ => List.prefix_rfl) (fun _ _ _ h h' => h.trans h')
    (fun s op => extends_of_advances (apply_advances s op)) s ops

theorem find_of_extends {s t : Store} (h : Extends s t) {id : Int} {v : ConfigVersion}
    (hv : s.find id = some v) : t.find id = some v := by
  rw [find_eq_some_iff, SerialTable.get?_eq_some_iff] at hv ⊢
  exact ⟨h.subset hv.1, hv.2⟩

/-! ## Lineage -/

structure History (s : Store) : Prop where
  desired_own : ∀ group id, s.desiredState.get? group = some id →
    ∃ v, s.find id = some v ∧ v.replicaGroup = group
  parent_own : ∀ id v, s.find id = some v → ∀ parent, v.parentId = some parent →
    parent < id ∧ ∃ w, s.find parent = some w ∧ w.replicaGroup = v.replicaGroup

theorem desired_run_of_history {s : Store} (h : History s) (group : String) :
    ∃ d, (desired group).run s = .ok d s ∧ ∀ v ∈ d, s.find v.id = some v ∧ v.replicaGroup = group := by
  rw [desired_run]
  cases hg : s.desiredState.get? group with
  | none => exact ⟨none, rfl, by simp⟩
  | some id =>
    obtain ⟨v, hv, hown⟩ := h.desired_own group id hg
    have hid : v.id = id := (find_eq_some_iff.mp hv).2
    refine ⟨some v, by simp only [hv], ?_⟩
    rintro w ⟨⟩
    exact ⟨hid ▸ hv, hown⟩

theorem history_empty : History Store.empty where
  desired_own _ _ h := by cases h
  parent_own _ _ h := by cases h

theorem find_insert {s t : Store} {row : VersionRow}
    (hv : t.configVersion = s.configVersion.insert row) (id : Int) :
    t.find id = if id = s.configVersion.nextId then some ⟨row, id⟩ else s.find id := by
  rw [find, hv, SerialTable.get?_insert]
  split_ifs <;> rfl

theorem find_kept {s t : Store} (hv : t.configVersion = s.configVersion) (id : Int) :
    t.find id = s.find id := by rw [find, hv, find]

theorem history_of_advances {s t : Store} (h : Advances s t) (hs : History s) : History t := by
  have hext : Extends s t := extends_of_advances h
  cases h with
  | kept versions desired =>
    refine ⟨fun group id hd => ?_, fun id v hv => ?_⟩
    · rw [desired] at hd
      rw [find_kept versions]
      exact hs.desired_own group id hd
    · simp only [find_kept versions] at hv ⊢
      exact hs.parent_own id v hv
  | proposed row parent read lineage versions desired =>
    refine ⟨fun group id hd => ?_, fun id v hv p hp => ?_⟩
    · rw [desired] at hd
      obtain ⟨v, hv, hown⟩ := hs.desired_own group id hd
      exact ⟨v, find_of_extends hext hv, hown⟩
    · rw [find_insert versions] at hv
      split_ifs at hv with hid
      · -- the new row: its parent is what `desired` has just read
        cases hv
        obtain ⟨d, hd, hown⟩ := desired_run_of_history hs row.replicaGroup
        rw [hd] at read
        cases read
        rw [lineage, Option.map_eq_some_iff] at hp
        obtain ⟨w, hw, rfl⟩ := hp
        have hfound := hown w hw
        have hlt := (SerialTable.issued_of_get? (find_eq_some_iff.mp hfound.1).1).2
        exact ⟨by omega, w, find_of_extends hext hfound.1, hfound.2⟩
      · obtain ⟨hlt, w, hw, hown⟩ := hs.parent_own id v hv p hp
        exact ⟨hlt, w, find_of_extends hext hw, hown⟩
  | pointed v found versions desired =>
    refine ⟨fun group id hd => ?_, fun id w hw => ?_⟩
    · rw [desired, Dict.get?_insert] at hd
      rw [find_kept versions]
      split_ifs at hd with hg
      · cases hd
        exact ⟨v, found, hg.symm⟩
      · exact hs.desired_own group id hd
    · simp only [find_kept versions] at hw ⊢
      exact hs.parent_own id w hw

theorem history_run {s : Store} (hs : History s) (ops : List StoreOp) : History (run apply s ops) :=
  run_invariant (fun s op h => history_of_advances (apply_advances s op) h) ops hs

/-! ## The whole statement -/

def ParentOf (s : Store) (parent id : Int) : Prop :=
  ∃ v, (version id).run s = .ok v s ∧ v.parentId = some parent

theorem version_run_iff {s : Store} {id : Int} {v : ConfigVersion} :
    (version id).run s = .ok v s ↔ s.find id = some v := by
  rw [version_run]
  cases s.find id <;> simp

theorem parentOf_wellFounded {s : Store} (h : History s) : WellFounded (ParentOf s) := by
  refine Subrelation.wf (r := InvImage (· < ·) Int.toNat) ?_ (InvImage.wf _ Nat.lt_wfRel.wf)
  rintro parent id ⟨v, hv, hp⟩
  obtain ⟨hlt, w, hw, -⟩ := h.parent_own id v (version_run_iff.mp hv) parent hp
  have hpos := (SerialTable.issued_of_get? (find_eq_some_iff.mp hw).1).1
  change parent.toNat < id.toNat
  omega

structure KeptBy (earlier later : Store) : Prop where
  versions_prefix : ∀ group, ∃ vs ws, (versions group).run earlier = .ok vs earlier ∧
    (versions group).run later = .ok ws later ∧ vs <+: ws
  version_kept : ∀ id v, (version id).run earlier = .ok v earlier →
    (version id).run later = .ok v later

/-- Every version is reachable in `s`, by its lineage and by a rollback. -/
structure Sound (s : Store) : Prop where
  desired_own : ∀ group, ∃ d, (desired group).run s = .ok d s ∧ ∀ v ∈ d, v.replicaGroup = group
  parent_own : ∀ id v, (version id).run s = .ok v s → ∀ parent, v.parentId = some parent →
    parent < id ∧ ∃ w, (version parent).run s = .ok w s ∧ w.replicaGroup = v.replicaGroup
  chains_finite : WellFounded (ParentOf s)
  rollback_ok : ∀ id v, (version id).run s = .ok v s →
    ∃ t, (rollback v.replicaGroup id).run s = .ok () t ∧
      (desired v.replicaGroup).run t = .ok (some v) t ∧
      ∀ group, value? (versions group) t = value? (versions group) s

theorem kept_of_extends {s t : Store} (h : Extends s t) : KeptBy s t where
  versions_prefix group :=
    ⟨_, _, versions_run s group, versions_run t group, (h.filter _).map _⟩
  version_kept _ _ hv := version_run_iff.mpr (find_of_extends h (version_run_iff.mp hv))

theorem rollback_of_find {s : Store} {id : Int} {v : ConfigVersion} (hv : s.find id = some v) :
    ∃ t, (rollback v.replicaGroup id).run s = .ok () t ∧
      (desired v.replicaGroup).run t = .ok (some v) t ∧
      ∀ group, value? (versions group) t = value? (versions group) s := by
  let t : Store := { s with desiredState := s.desiredState.insert v.replicaGroup id }
  have hrun : (rollback v.replicaGroup id).run s = .ok () t := by
    rw [rollback, promote_run, hv]
    exact if_pos rfl
  refine ⟨t, hrun, ?_, fun group => ?_⟩
  · have hf : t.find id = some v := hv
    rw [desired_run, Dict.get?_insert_self]
    simp only [hf]
  · simp only [value?, versions_run]
    rfl

theorem sound_of_history {s : Store} (h : History s) : Sound s where
  desired_own group := by
    obtain ⟨d, hd, hown⟩ := desired_run_of_history h group
    exact ⟨d, hd, fun v hv => (hown v hv).2⟩
  parent_own id v hv parent hp := by
    obtain ⟨hlt, w, hw, hown⟩ := h.parent_own id v (version_run_iff.mp hv) parent hp
    exact ⟨hlt, w, version_run_iff.mpr hw, hown⟩
  chains_finite := parentOf_wellFounded h
  rollback_ok _ _ hv := rollback_of_find (version_run_iff.mp hv)

/-- History is never lost, and every version of it can be gone back to. -/
theorem history_never_lost (before after : List StoreOp) :
    KeptBy (run apply Store.empty before) (run apply Store.empty (before ++ after)) ∧
      Sound (run apply Store.empty before) := by
  refine ⟨?_, sound_of_history (history_run history_empty before)⟩
  rw [run_append]
  exact kept_of_extends (extends_run _ after)

end Trimtab.StoreHistory
