import Trimtab.CanaryOverrides
import Trimtab.Operator

set_option autoImplicit false

/-! What one pass over the object can do to the store and to the object's status. -/
namespace Trimtab.Operator
open Effects Runs StoreHistory

variable {α β : Type}

/-! ## Running a call -/

theorem bind_ok {x : OperatorM α} {f : α → OperatorM β} {s u : Cluster} {b : β}
    (h : (x >>= f).run s = .ok b u) : ∃ a t, x.run s = .ok a t ∧ (f a).run t = .ok b u := by
  rw [EStateM.run_bind] at h
  cases hx : x.run s with
  | error e t =>
    rw [hx] at h
    cases h
  | ok a t =>
    rw [hx] at h
    exact ⟨a, t, rfl, h⟩

theorem onStore_run (x : StoreM α) (s : Cluster) : (onStore x).run s =
    match x.run s.store with
    | .ok a t => .ok a { s with store := t }
    | .error e t => .error (.py e) { s with store := t } := rfl

theorem calling_run (x : OperatorM α) (s : Cluster) : (calling x).run s =
    match s.faults.head?.join with
    | none => x.run { s with faults := s.faults.tail }
    | some (.before e) => .error e { s with faults := s.faults.tail }
    | some (.after e) =>
      match x.run { s with faults := s.faults.tail } with
      | .ok _ t => .error e t
      | .error e' t => .error e' t := rfl

theorem calling_clean {x : OperatorM α} {s : Cluster} (h : s.faults.head?.join = none) :
    (calling x).run s = x.run { s with faults := s.faults.tail } := by rw [calling_run, h]

/-- A call to the store that returns. -/
theorem calling_ok {x : StoreM α} {s t : Cluster} {a : α}
    (h : (calling (onStore x)).run s = .ok a t) :
    ∃ store, x.run s.store = .ok a store ∧ t = { s with store := store, faults := s.faults.tail } := by
  rw [calling_run] at h
  split at h
  · rw [onStore_run] at h
    split at h
    · rename_i b u hx
      cases h
      exact ⟨u, hx, rfl⟩
    · cases h
  · cases h
  · split at h <;> cases h

/-- Either the call takes effect in the store, or nothing happens. -/
theorem final_calling (x : StoreM α) (s : Cluster) :
    final (calling (onStore x)) s = { s with faults := s.faults.tail } ∨
      final (calling (onStore x)) s =
        { s with store := final x s.store, faults := s.faults.tail } := by
  unfold final
  rw [calling_run]
  cases s.faults.head?.join with
  | none =>
    refine .inr ?_
    simp only [onStore_run]
    cases x.run s.store <;> rfl
  | some fault =>
    cases fault with
    | before e => exact .inl rfl
    | after e =>
      refine .inr ?_
      simp only [onStore_run]
      cases x.run s.store <;> rfl

/-! ## What a pass adds to the store -/

structure Grows (n m : Nat) (s t : Store) : Prop where
  history : History s → History t
  versions_kept : Extends s t
  canaries_kept : ∀ id row, s.canaryTable.get? id = some row → t.canaryTable.get? id = some row
  versions : t.configVersion.rows.length ≤ s.configVersion.rows.length + n
  canaries : t.canaryTable.rows.length ≤ s.canaryTable.rows.length + m

theorem grows_refl (n m : Nat) (s : Store) : Grows n m s s :=
  ⟨id, List.prefix_rfl, fun _ _ h => h, Nat.le_add_right _ _, Nat.le_add_right _ _⟩

theorem grows_trans {n m n' m' : Nat} {s t u : Store} (h : Grows n m s t) (h' : Grows n' m' t u) :
    Grows (n + n') (m + m') s u where
  history hs := h'.history (h.history hs)
  versions_kept := h.versions_kept.trans h'.versions_kept
  canaries_kept id row hr := h'.canaries_kept id row (h.canaries_kept id row hr)
  versions := by
    have h₁ := h.versions
    have h₂ := h'.versions
    omega
  canaries := by
    have h₁ := h.canaries
    have h₂ := h'.canaries
    omega

/-- The program adds at most `n` versions and `m` canaries, and leaves the object alone. -/
def Adds (n m : Nat) (x : OperatorM α) : Prop :=
  ∀ s, (final x s).obj = s.obj ∧ Grows n m s.store (final x s).store

theorem adds_pure (a : α) : Adds 0 0 (pure a : OperatorM α) := fun s => ⟨rfl, grows_refl 0 0 s.store⟩

theorem adds_throw (n m : Nat) (e : Raised) : Adds n m (throw e : OperatorM α) :=
  fun s => ⟨rfl, grows_refl n m s.store⟩

theorem adds_bind {n m n' m' : Nat} {x : OperatorM α} {f : α → OperatorM β} (hx : Adds n m x)
    (hf : ∀ a, Adds n' m' (f a)) : Adds (n + n') (m + m') (x >>= f) := by
  intro s
  have hs := hx s
  rw [final_bind]
  unfold final at hs
  cases h : x.run s with
  | error e t =>
    rw [h] at hs
    have hg := grows_trans hs.2 (grows_refl n' m' _)
    exact ⟨hs.1, hg⟩
  | ok a t =>
    rw [h] at hs
    exact ⟨((hf a t).1).trans hs.1, grows_trans hs.2 (hf a t).2⟩

theorem adds_calling {n m : Nat} {x : StoreM α} (h : ∀ s, Grows n m s (final x s)) :
    Adds n m (calling (onStore x)) := by
  intro s
  rcases final_calling x s with hf | hf
  · rw [hf]
    exact ⟨rfl, grows_refl n m _⟩
  · rw [hf]
    exact ⟨rfl, h s.store⟩

/-- A read of the store. -/
theorem adds_reading {x : StoreM α} (h : ∀ s, final x s = s) : Adds 0 0 (calling (onStore x)) :=
  adds_calling fun s => by
    rw [h s]
    exact grows_refl 0 0 s

theorem grows_propose (s : Store) (group : String) (fields : Fields) (createdBy reason : String) :
    Grows 1 0 s (final (Store.propose group fields createdBy reason) s) := by
  have ha := propose_advances s group fields createdBy reason
  have hk := CanaryOverrides.propose_keeps s group fields createdBy reason
  refine ⟨history_of_advances ha, extends_of_advances ha, fun id row hr => hk.2 ▸ hr, ?_,
    (congrArg (·.rows.length) hk.2).le⟩
  have hr := Store.propose_run s group fields createdBy reason
  rcases Store.desired_reads s group with ⟨parent, hp⟩ | ⟨e, he⟩
  · rw [hp] at hr
    rw [final_of_ok hr]
    simp
  · rw [he] at hr
    rw [final_of_error hr]
    exact Nat.le_add_right _ _

theorem grows_promote (s : Store) (group : String) (id : Int) :
    Grows 0 0 s (final (Store.promote group id) s) := by
  have ha := promote_advances s group id
  have hk := CanaryOverrides.promote_keeps s group id
  have hv : (final (Store.promote group id) s).configVersion = s.configVersion := by
    unfold final
    rw [Store.promote_run]
    cases s.find id with
    | none => rfl
    | some v =>
      dsimp only
      split_ifs <;> rfl
  exact ⟨history_of_advances ha, extends_of_advances ha, fun id row hr => hk.2 ▸ hr,
    (congrArg (·.rows.length) hv).le, (congrArg (·.rows.length) hk.2).le⟩

theorem grows_openCanary (s : Store) (group : String) (candidateId : Int) (scope : List String)
    (gates : List Gate) (windowS : Rat) :
    Grows 0 1 s (final (Store.openCanary group candidateId scope gates windowS) s) := by
  rcases Store.openCanary_final s group candidateId scope gates windowS with h | ⟨base, -, h⟩ <;>
    rw [h]
  · exact grows_refl 0 1 s
  · refine ⟨fun h => ⟨h.desired_own, h.parent_own⟩, List.prefix_rfl,
      fun id row hrow => SerialTable.get?_insert_of_some hrow _, Nat.le_refl _, ?_⟩
    simp

theorem grows_setOverrides (s : Store) (replicaIds : List String) (versionId canaryId : Int) :
    Grows 0 0 s (final (Store.setOverrides replicaIds versionId canaryId) s) := by
  rcases Store.setOverrides_final s replicaIds versionId canaryId with h | h
  · rw [h]
    exact grows_refl 0 0 s
  · rw [h]
    exact ⟨fun h => ⟨h.desired_own, h.parent_own⟩, List.prefix_rfl, fun _ _ h => h, Nat.le_refl _,
      Nat.le_refl _⟩

variable (op : Operator)

theorem adds_replicasOf (group : String) : Adds 0 0 (op.replicasOf group) := by
  unfold replicasOf
  split_ifs
  · exact adds_bind (adds_reading fun _ => rfl) fun _ => adds_pure _
  · exact adds_pure _

theorem adds_required {key : String} (a : Option α) : Adds 0 0 (required key a) := by
  cases a with
  | none => exact adds_throw 0 0 _
  | some a => exact adds_pure a

theorem adds_startCanary (c : Canary) (candidateId : Int) (scope : List String) (gates : List Gate)
    (windowS : Rat) : Adds 0 1 (startCanary c candidateId scope gates windowS) := by
  have hcheck : Adds 0 0 (onStore (ofExcept (c.checkScope scope))) := by
    intro s
    cases c.checkScope scope <;> exact ⟨rfl, grows_refl 0 0 _⟩
  exact adds_bind hcheck fun _ =>
    adds_bind (adds_calling fun s => grows_openCanary s c.group candidateId scope gates windowS)
      fun cid => adds_bind (adds_calling fun s => grows_setOverrides s scope candidateId cid)
        fun _ => adds_pure cid

theorem adds_release (spec : Spec) (v : ConfigVersion) (status : ConfigStatus) :
    Adds 0 1 (op.release spec v status) := by
  unfold release
  cases spec.canary? with
  | none =>
    have h := adds_bind (adds_calling fun s => grows_promote s spec.group v.id)
      fun _ => adds_pure { status with phase := some "promoted" }
    exact fun s => ⟨(h s).1, grows_trans (h s).2 (grows_refl 0 1 _)⟩
  | some c =>
    exact adds_bind (op.adds_replicasOf spec.group) fun replicas =>
      adds_bind (adds_required c.scope) fun scope =>
        adds_bind (adds_required c.gates) fun gates =>
          adds_bind (adds_startCanary _ v.id scope gates _) fun _ => adds_pure _

theorem adds_advance (obj : InferenceConfig) : Adds 1 1 (op.advance obj) := by
  unfold advance
  split_ifs
  · exact adds_bind (adds_calling fun s => grows_propose s _ _ _ _)
      fun v => op.adds_release obj.spec v _
  · exact fun s => ⟨rfl, grows_refl 1 1 s.store⟩

theorem advance_of_not_asks {obj : InferenceConfig} (h : ¬op.Asks obj) :
    op.advance obj = pure obj.status := if_neg h

theorem adds_poll (status : ConfigStatus) : Adds 0 0 (poll status) := by
  unfold poll
  cases awaits status with
  | none => exact adds_pure status
  | some cid => exact adds_bind (adds_reading (Store.final_canary cid)) fun _ => adds_pure _

theorem adds_view (group : String) (status : ConfigStatus) : Adds 0 0 (view group status) :=
  adds_bind (adds_reading (Store.final_desired group)) fun _ =>
    adds_bind (adds_reading fun _ => rfl) fun _ => adds_pure _

theorem adds_prepare (obj : InferenceConfig) : Adds 1 1 (op.prepare obj) :=
  adds_bind (op.adds_advance obj) fun status =>
    adds_bind (adds_poll status) fun status => adds_view obj.spec.group status

theorem adds_prepare_of_not_asks {obj : InferenceConfig} (h : ¬op.Asks obj) :
    Adds 0 0 (op.prepare obj) := by
  unfold prepare
  rw [op.advance_of_not_asks h, pure_bind]
  exact adds_bind (adds_poll obj.status) fun status => adds_view obj.spec.group status

/-! ## What a pass returns -/

inductive Released (spec : Spec) (v : ConfigVersion) (base : ConfigStatus) (t : Store) :
    ConfigStatus → Prop where
  | promoted (direct : spec.canary? = none) :
      Released spec v base t { base with phase := some "promoted" }
  | opened (cid : Int) (row : CanaryRow) (canary : spec.canary?.isSome) (positive : 1 ≤ cid)
      (found : t.canaryTable.get? cid = some row) (candidate : row.candidateVersionId = v.id)
      (fresh : row.status = "observing") :
      Released spec v base t { base with phase := some "canary", canaryId := some cid }

def proposed (obj : InferenceConfig) (v : ConfigVersion) : ConfigStatus :=
  { obj.status with appliedHash := some (op.specHash obj.spec), versionId := some v.id }

inductive Advanced (obj : InferenceConfig) (s : Store) : ConfigStatus → Store → Prop where
  | same (idle : ¬op.Asks obj) : Advanced obj s obj.status s
  | released (v : ConfigVersion) (status : ConfigStatus) (t : Store) (asks : op.Asks obj)
      (found : t.find v.id = some v) (group : v.replicaGroup = obj.spec.group)
      (fields : v.fields = obj.spec.fields.stored)
      (release : Released obj.spec v (op.proposed obj v) t status) : Advanced obj s status t

theorem propose_ok {s t : Cluster} {group : String} {fields : Fields} {createdBy reason : String}
    {v : ConfigVersion}
    (h : (calling (onStore (Store.propose group fields createdBy reason))).run s = .ok v t) :
    t.store.find v.id = some v ∧ v.replicaGroup = group ∧ v.fields = fields.stored := by
  obtain ⟨store, hrun, rfl⟩ := calling_ok h
  rw [Store.propose_run] at hrun
  split at hrun
  · cases hrun
  · cases hrun
    refine ⟨?_, rfl, rfl⟩
    exact (find_insert (s := s.store) rfl _).trans (if_pos rfl)

theorem replicasOf_ok {group : String} {s t : Cluster} {replicas : List String}
    (h : (op.replicasOf group).run s = .ok replicas t) : t.store = s.store := by
  have ha := (op.adds_replicasOf group) s
  unfold replicasOf at h
  split_ifs at h
  · obtain ⟨rows, u, hu, hret⟩ := bind_ok h
    obtain ⟨store, hs, rfl⟩ := calling_ok hu
    cases hret
    cases hs
    rfl
  · cases h
    rfl

theorem required_ok {key : String} {a? : Option α} {s t : Cluster} {a : α}
    (h : (required key a?).run s = .ok a t) : a? = some a ∧ t = s := by
  cases a? with
  | none => cases h
  | some b =>
    cases h
    exact ⟨rfl, rfl⟩

theorem startCanary_ok {c : Canary} {candidateId : Int} {scope : List String} {gates : List Gate}
    {windowS : Rat} {s t : Cluster} {cid : Int}
    (h : (startCanary c candidateId scope gates windowS).run s = .ok cid t) :
    t.store.configVersion = s.store.configVersion ∧ 1 ≤ cid ∧
      ∃ row, t.store.canaryTable.get? cid = some row ∧ row.candidateVersionId = candidateId ∧
        row.status = "observing" := by
  unfold startCanary at h
  obtain ⟨u, s₁, hcheck, h⟩ := bind_ok h
  obtain ⟨cid', s₂, hopen, h⟩ := bind_ok h
  obtain ⟨_, s₃, hset, h⟩ := bind_ok h
  cases h
  obtain ⟨store, hover, rfl⟩ := calling_ok hset
  rw [Store.setOverrides_run] at hover
  split_ifs at hover
  cases hover
  have hs₁ : s₁.store = s.store := by
    rw [onStore_run, ofExcept_run] at hcheck
    cases hc : c.checkScope scope <;> rw [hc] at hcheck <;> cases hcheck
    rfl
  obtain ⟨opened, hrun, rfl⟩ := calling_ok hopen
  rw [hs₁, Store.openCanary_run] at hrun
  split at hrun
  · cases hrun
  · split_ifs at hrun
    cases hrun
    have hpos := s.store.canaryTable.seq_nonneg
    refine ⟨rfl, ?_, _, SerialTable.get?_insert_self _ _, rfl, rfl⟩
    unfold SerialTable.nextId
    omega

theorem release_ok {spec : Spec} {v : ConfigVersion} {base status : ConfigStatus} {s t : Cluster}
    (hv : s.store.find v.id = some v) (hg : v.replicaGroup = spec.group)
    (h : (op.release spec v base).run s = .ok status t) :
    t.store.find v.id = some v ∧ Released spec v base t.store status := by
  unfold release at h
  cases hcanary : spec.canary? with
  | none =>
    simp only [hcanary] at h
    obtain ⟨_, s₁, hpromote, h⟩ := bind_ok h
    cases h
    obtain ⟨pointed, hrun, rfl⟩ := calling_ok hpromote
    rw [Store.promote_found hv hg] at hrun
    cases hrun
    exact ⟨hv, .promoted hcanary⟩
  | some c =>
    simp only [hcanary] at h
    obtain ⟨replicas, s₁, hreplicas, h⟩ := bind_ok h
    obtain ⟨scope, s₂, hscope, h⟩ := bind_ok h
    obtain ⟨gates, s₃, hgates, h⟩ := bind_ok h
    obtain ⟨cid, s₄, hstart, h⟩ := bind_ok h
    cases h
    obtain ⟨-, rfl⟩ := required_ok hscope
    obtain ⟨-, rfl⟩ := required_ok hgates
    obtain ⟨hversions, hpos, row, hrow, hcand, hopen⟩ := startCanary_ok hstart
    rw [op.replicasOf_ok hreplicas] at hversions
    exact ⟨(find_kept hversions v.id).trans hv,
      .opened cid row (by rw [hcanary]; rfl) hpos hrow hcand hopen⟩

theorem advance_ok {obj : InferenceConfig} {s t : Cluster} {status : ConfigStatus}
    (h : (op.advance obj).run s = .ok status t) : Advanced op obj s.store status t.store := by
  unfold advance at h
  split_ifs at h with hasks
  · obtain ⟨v, s₁, hpropose, hrelease⟩ := bind_ok h
    obtain ⟨hfound, hgroup, hfields⟩ := propose_ok hpropose
    obtain ⟨hkept, hreleased⟩ := op.release_ok hfound hgroup hrelease
    exact .released v status t.store hasks hkept hgroup hfields hreleased
  · cases h
    exact .same hasks

theorem poll_ok {status new : ConfigStatus} {s t : Cluster} (h : (poll status).run s = .ok new t) :
    t.store = s.store ∧ match awaits status with
      | none => new = status
      | some cid => ∃ row, s.store.canaryTable.get? cid = some row ∧ new = noted status row := by
  unfold poll at h
  cases hw : awaits status with
  | none =>
    simp only [hw] at h
    cases h
    exact ⟨rfl, rfl⟩
  | some cid =>
    simp only [hw] at h
    obtain ⟨row, u, hu, hret⟩ := bind_ok h
    cases hret
    obtain ⟨store, hrun, rfl⟩ := calling_ok hu
    rw [Store.canary_run] at hrun
    cases hrow : s.store.canaryTable.get? cid with
    | none =>
      rw [hrow] at hrun
      cases hrun
    | some row' =>
      rw [hrow] at hrun
      cases hrun
      exact ⟨rfl, row, hrow, rfl⟩

theorem view_ok {group : String} {status new : ConfigStatus} {s t : Cluster}
    (h : (view group status).run s = .ok new t) :
    t.store = s.store ∧ ∃ d replicas,
      new = { status with desiredVersionId := d, replicas := some replicas } := by
  unfold view at h
  obtain ⟨d, s₁, hd, h⟩ := bind_ok h
  obtain ⟨rows, s₂, hrows, h⟩ := bind_ok h
  cases h
  obtain ⟨store, hrun, rfl⟩ := calling_ok hd
  obtain ⟨store', hrun', rfl⟩ := calling_ok hrows
  have hstore := final_of_ok hrun
  rw [Store.final_desired] at hstore
  cases hrun'
  exact ⟨hstore.symm, _, _, rfl⟩

/-! ## What becomes of the object's status -/

theorem final_patchStatus (patch : ConfigStatus → ConfigStatus) (s : Cluster) :
    (final (patchStatus patch) s).store = s.store ∧
      ((final (patchStatus patch) s).obj = s.obj ∨
        (final (patchStatus patch) s).obj = { s.obj with status := patch s.obj.status }) := by
  unfold final patchStatus
  rw [calling_run]
  cases s.faults.head?.join with
  | none => exact ⟨rfl, .inr rfl⟩
  | some fault =>
    cases fault with
    | before e => exact ⟨rfl, .inl rfl⟩
    | after e => exact ⟨rfl, .inr rfl⟩

theorem final_report (obj : InferenceConfig) (new : ConfigStatus) (s : Cluster) :
    (final (report obj new) s).store = s.store ∧
      ((final (report obj new) s).obj = s.obj ∨
        (final (report obj new) s).obj = { s.obj with status := merge s.obj.status new }) := by
  unfold report
  split_ifs
  · have h := final_patchStatus (fun live => merge live new) s
    rw [final_bind]
    unfold final at h
    cases hr : (patchStatus fun live => merge live new).run s with
    | ok a t =>
      rw [hr] at h
      exact h
    | error e t =>
      rw [hr] at h
      exact h
  · exact ⟨rfl, .inl rfl⟩

def unsent : Option Fault → Bool
  | some (.before _) => true
  | _ => false

/-- A tick writes an error over the status: it catches one, and the patch takes effect. -/
def marks (s : Cluster) : Bool :=
  match (op.reconcileOne s.obj).run s with
  | .ok _ _ => false
  | .error e t => e.caught && !unsent t.faults.head?.join

theorem patch_unsent (patch : ConfigStatus → ConfigStatus) {s : Cluster}
    (h : unsent s.faults.head?.join = true) : (final (patchStatus patch) s).obj = s.obj := by
  unfold final patchStatus
  rw [calling_run]
  cases hf : s.faults.head?.join with
  | none =>
    rw [hf] at h
    cases h
  | some fault =>
    cases fault with
    | before e => rfl
    | after e =>
      rw [hf] at h
      cases h

def Wrote (live : ConfigStatus) (new? : Option ConfigStatus) (marked : Bool)
    (status : ConfigStatus) : Prop :=
  ∃ base, (base = live ∨ ∃ new, new? = some new ∧ base = merge live new) ∧
    (status = base ∨ marked = true ∧ ∃ e, status = failed e base)

theorem reconcileOne_wrote (s : Cluster) :
    (final (op.reconcileOne s.obj) s).store = (final (op.prepare s.obj) s).store ∧
      ∃ status, (final (op.reconcileOne s.obj) s).obj = { s.obj with status := status } ∧
        (status = s.obj.status ∨
          ∃ new, value? (op.prepare s.obj) s = some new ∧ status = merge s.obj.status new) := by
  have hobj := (op.adds_prepare s.obj s).1
  unfold reconcileOne
  rw [final_bind]
  unfold final value? at *
  cases hp : (op.prepare s.obj).run s with
  | error e t =>
    rw [hp] at hobj
    exact ⟨rfl, s.obj.status, hobj, .inl rfl⟩
  | ok new t =>
    rw [hp] at hobj
    have hr := final_report s.obj new t
    unfold final at hr
    refine ⟨hr.1, ?_⟩
    rcases hr.2 with h | h
    · exact ⟨s.obj.status, h.trans hobj, .inl rfl⟩
    · rw [hobj] at h
      exact ⟨_, h, .inr ⟨new, rfl, rfl⟩⟩

theorem tick_run (s : Cluster) : op.tick.run s =
    match (op.reconcileOne s.obj).run s with
    | .ok status t => .ok status t
    | .error e t =>
      if e.caught then (do patchStatus (failed e); return failed e {}).run t
      else .error e t := rfl

/-- The error path of a tick writes over phase and error, and nothing else. -/
theorem final_tick (s : Cluster) :
    (final op.tick s).store = (final (op.reconcileOne s.obj) s).store ∧
      ((final op.tick s).obj = (final (op.reconcileOne s.obj) s).obj ∨
        op.marks s = true ∧ ∃ e, (final op.tick s).obj = { (final (op.reconcileOne s.obj) s).obj with
          status := failed e (final (op.reconcileOne s.obj) s).obj.status }) := by
  have ht : final op.tick s = match (op.reconcileOne s.obj).run s with
      | .ok _ t => t
      | .error e t => if e.caught then final (patchStatus (failed e)) t else t := by
    unfold final
    rw [tick_run]
    cases (op.reconcileOne s.obj).run s with
    | ok a t => rfl
    | error e t =>
      cases he : e.caught with
      | false => simp only [he, Bool.false_eq_true, if_false]
      | true =>
        simp only [he, if_true, EStateM.run_bind]
        cases (patchStatus (failed e)).run t <;> rfl
  rw [ht]
  unfold final marks
  cases (op.reconcileOne s.obj).run s with
  | ok a t => exact ⟨rfl, .inl rfl⟩
  | error e t =>
    cases he : e.caught with
    | false => simp only [he, Bool.false_eq_true, if_false, true_and, true_or]
    | true =>
      have hp := final_patchStatus (failed e) t
      have hunsent := patch_unsent (s := t) (failed e)
      unfold final at hp hunsent
      simp only [he, if_true, Bool.true_and]
      refine ⟨hp.1, ?_⟩
      cases hu : unsent t.faults.head?.join with
      | true => exact .inl (hunsent hu)
      | false => exact hp.2.imp_right fun h => ⟨rfl, e, h⟩

theorem tick_wrote (s : Cluster) :
    (final op.tick s).store = (final (op.prepare s.obj) s).store ∧
      ∃ status, (final op.tick s).obj = { s.obj with status := status } ∧
        Wrote s.obj.status (value? (op.prepare s.obj) s) (op.marks s) status := by
  obtain ⟨hstore, base, hobj, hbase⟩ := op.reconcileOne_wrote s
  obtain ⟨hkept, hpatch⟩ := op.final_tick s
  refine ⟨hkept.trans hstore, ?_⟩
  rw [hobj] at hpatch
  rcases hpatch with h | ⟨hmarks, e, h⟩
  · exact ⟨base, h, base, hbase, .inl rfl⟩
  · exact ⟨failed e base, h, base, hbase, .inr ⟨hmarks, e, rfl⟩⟩

end Trimtab.Operator
